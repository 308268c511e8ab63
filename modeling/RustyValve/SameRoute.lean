import RustyValve.ClientHello
import RustyValve.HostValue
import RustyValve.Startup

namespace RustyValve

namespace SameRoute

open HostHeader

structure DnsName where
  text : Str
  nonempty : text ≠ []
  label : ∀ c ∈ text, c.isAlphanum ∨ c = '-' ∨ c = '.'

theorem alphanum_range {c : Char} (h : c.isAlphanum) :
    (48 ≤ c.toNat ∧ c.toNat ≤ 57) ∨ (65 ≤ c.toNat ∧ c.toNat ≤ 90) ∨
      (97 ≤ c.toNat ∧ c.toNat ≤ 122) := by
  change ((decide (c.val ≥ 65 ∧ c.val ≤ 90) || (c.val ≥ 97 && c.val ≤ 122)) ||
    (c.val ≥ 48 && c.val ≤ 57)) = true at h
  simp only [Bool.or_eq_true,Bool.and_eq_true,decide_eq_true_eq,ge_iff_le,
    UInt32.le_iff_toNat_le] at h
  change ((65 ≤ c.toNat ∧ c.toNat ≤ 90) ∨ (97 ≤ c.toNat ∧ c.toNat ≤ 122)) ∨
    (48 ≤ c.toNat ∧ c.toNat ≤ 57) at h
  omega

namespace DnsName

theorem char_range (name : DnsName) {c : Char} (h : c ∈ name.text) :
    45 ≤ c.toNat ∧ c.toNat ≤ 122 ∧ c.toNat ≠ 58 := by
  rcases name.label c h with ha | rfl | rfl
  · have := alphanum_range ha
    omega
  · decide
  · decide

theorem no_whitespace (name : DnsName) {c : Char} (h : c ∈ name.text) : ¬ isWhitespace c := by
  have hr := name.char_range h
  simp only [isWhitespace,Bool.or_eq_true,Bool.and_eq_true,decide_eq_true_eq,beq_iff_eq]
  omega

end DnsName

def Blank (s : Str) : Prop := ∀ c ∈ s, c = ' ' ∨ c = '\t'

-- A request whose first Host line gives the name with a port; `front` holds the lines before it.
structure HostRequest (name : DnsName) where
  front : List UInt8
  field : Str
  pad : Str
  port : Str
  padEnd : Str
  rest : List UInt8
  plain : front.getD 0 0 ≠ 0x16
  notHost : ∀ l ∈ Lines.lines (front ++ [Lines.lf]), decides l = false
  isHost : eqIgnoreAsciiCase field "host".toList
  blank : Blank pad
  digits : ∀ c ∈ port, c.isDigit
  blankEnd : Blank padEnd

namespace HostRequest
variable {name : DnsName} (r : HostRequest name)

def line : Str := r.field ++ ':' :: (r.pad ++ name.text ++ ':' :: (r.port ++ r.padEnd))

def head : List UInt8 := r.front ++ [Lines.lf] ++ (Utf8.encode (r.line ++ ['\r']) ++ [Lines.lf])

def bytes : List UInt8 := r.head ++ r.rest

end HostRequest

def HostRequest.value {name : DnsName} (r : HostRequest name) : HostValue.FieldValue where
  pad := ⟨r.pad,r.blank⟩
  host := name.text
  port := some r.port
  padEnd := ⟨r.padEnd,r.blankEnd⟩
  nonempty := name.nonempty
  solid := fun _ hc => name.no_whitespace hc
  shape := .inl (fun hc => absurd rfl (name.char_range hc).2.2)
  digits := by
    rintro ds ⟨⟩
    exact r.digits

theorem HostRequest.line_eq {name : DnsName} (r : HostRequest name) :
    r.line = r.field ++ ':' :: r.value.text := by
  simp [HostRequest.line,HostValue.FieldValue.text,HostValue.FieldValue.portText,HostRequest.value]

def HostRequest.inFront {name : DnsName} (r : HostRequest name) : Front :=
  ⟨r.front ++ [Lines.lf],.inr ⟨r.front,rfl⟩,r.notHost⟩

theorem HostRequest.head_eq {name : DnsName} (r : HostRequest name) : r.head = r.inFront.bytes ++
    (Utf8.encode (r.field ++ ':' :: r.value.text) ++ LineEnd.crlf.bytes) := by
  rw [HostRequest.head,← r.line_eq,Utf8.encode_append,List.append_assoc (Utf8.encode r.line)]
  rfl

def HostRequest.request {name : DnsName} (r : HostRequest name) (hfit : r.head.length ≤ 512)
    (rest : List UInt8) : HostValue.Request r.value :=
  ⟨r.inFront,r.field,.crlf,rest,r.isHost,by rw [← r.head_eq]; exact hfit⟩

theorem HostRequest.request_bytes {name : DnsName} (r : HostRequest name)
    (hfit : r.head.length ≤ 512) (rest : List UInt8) :
    (r.request hfit rest).bytes = r.head ++ rest := by
  rw [r.head_eq]
  rfl

theorem http_name {name : DnsName} (r : HostRequest name) (hfit : r.head.length ≤ 512) {m : ℕ}
    (hm : r.head.length ≤ m) :
    extractHostFromHttpHeader (.arrived (r.bytes.take m)) = some name.text := by
  have hx := HostValue.extract_request (r.request hfit (r.rest.take (m - r.head.length)))
  rw [r.request_bytes,r.value.hostName_with_port rfl] at hx
  rw [HostRequest.bytes,List.take_append,List.take_of_length_le hm]
  exact hx

theorem first_byte_plain {name : DnsName} (r : HostRequest name) (n : ℕ) :
    (peekBuffer 5 (r.bytes.take n)).getD 0 0 ≠ 0x16 := by
  rw [ClientHello.header_getD (by omega)]
  split
  · have hp := r.plain
    cases hf : r.front with
    | nil => simp [HostRequest.bytes,HostRequest.head,hf,Lines.lf]
    | cons b bs => simpa [HostRequest.bytes,HostRequest.head,hf] using hp
  · decide

section Destinations
variable (acceptor : Acceptor) (settings : TlsConnectionSettings) (table : HostTable)

def routed (stream : StreamId) (remote : SocketAddr) (headerPeek bodyPeek : Peek) :
    Option Destination :=
  (getBackendPort acceptor settings stream remote table headerPeek bodyPeek).map
    ForwardedConnection.destination

def destinationOf (name : Str) : Option Destination :=
  table[name]?.map PossibleDestinations.getOnlyDestination

theorem routed_of_name {headerPeek bodyPeek : Peek} {name : Str}
    (h : nameCheck acceptor settings headerPeek bodyPeek = some name) (stream : StreamId)
    (remote : SocketAddr) :
    routed acceptor settings table stream remote headerPeek bodyPeek = destinationOf table name := by
  simp only [routed,getBackendPort,connectionTo,h,destinationOf]
  cases table[name]? <;> rfl

theorem http_routed {name : DnsName} (r : HostRequest name) (hfit : r.head.length ≤ 512) {m : ℕ}
    (hm : r.head.length ≤ m) (n : ℕ) (stream : StreamId) (remote : SocketAddr) :
    routed acceptor settings table stream remote (.arrived (r.bytes.take n))
      (.arrived (r.bytes.take m)) = destinationOf table name.text := by
  apply routed_of_name
  simp only [nameCheck,nameFrom,peekTimeout,first_byte_plain r n,if_false]
  exact http_name r hfit hm

theorem tls_routed {hello : List UInt8} (hc : ClientHello.CompleteRecord settings hello)
    {sni : Str} (hs : acceptor.serverName (hello.take (chSize hello + 5)) = some sni)
    (stream : StreamId) (remote : SocketAddr) :
    routed acceptor settings table stream remote (.arrived hello) (.arrived hello) =
      destinationOf table sni :=
  routed_of_name acceptor settings table
    ((ClientHello.nameCheck_complete acceptor hc).trans hs) stream remote

theorem destinationOf_eq_iff (hlow : ∀ key ∈ table, toAsciiLowercase key = key) (name : Str) :
    destinationOf table name = destinationOf table (toAsciiLowercase name) ↔
      toAsciiLowercase name = name ∨ toAsciiLowercase name ∉ table := by
  constructor
  · intro h
    by_contra hc
    obtain ⟨hn,hm⟩ := not_or.mp hc
    have hname : name ∉ table := fun hk => hn (hlow name hk)
    rw [destinationOf,Std.ExtTreeMap.getElem?_eq_none hname,destinationOf,
      Std.ExtTreeMap.getElem?_eq_some_getElem (not_not.mp hm)] at h
    cases h
  · rintro (h | h)
    · rw [h]
    · have hname : name ∉ table := fun hk => h (by rwa [hlow name hk])
      rw [destinationOf,destinationOf,Std.ExtTreeMap.getElem?_eq_none hname,
        Std.ExtTreeMap.getElem?_eq_none h]

end Destinations

-- The keys of a file as its parser hands them over.
def LowerKeys (configMap : SectionMaps) : Prop :=
  ∀ e ∈ configMap.entries, ∀ key ∈ e.2.keys, toAsciiLowercase key = key

theorem loaded_hosts_lower {parse : FromStr} {env : LogEnvironment}
    {load : Str → Except Str SectionMaps} (hkeys : ∀ path configMap, load path = .ok configMap →
      LowerKeys configMap) {b b' : ConfigBuilder} (hb : Loading.Fresh b) {log : LoggerConfig}
    (h : b.getIniConfig parse env load = .ok (b',log)) :
    ∀ key ∈ b'.tlsRpDestProvider, toAsciiLowercase key = key := by
  intro key hk
  cases hp : b.configFilePath with
  | none => simp [ConfigBuilder.getIniConfig,hp] at h
  | some path =>
    cases hl : load path with
    | error e => simp [ConfigBuilder.getIniConfig,hp,hl] at h
    | ok configMap =>
      simp only [ConfigBuilder.getIniConfig,hp,hl] at h
      obtain ⟨tlsRpMap,ht,hm⟩ := Loading.loaded_host parse hb h hk
      exact hkeys path configMap hl _ (AList.mem_lookup_iff.mp ht) key hm

theorem same_route_iff {parse : FromStr} {env : LogEnvironment} {load : Str → Except Str SectionMaps}
    (hkeys : ∀ path configMap, load path = .ok configMap → LowerKeys configMap)
    {debugAssertions : Bool} {config : Option Str} {b : ConfigBuilder} {log : LoggerConfig}
    (hload : (ConfigBuilder.new.getOpts debugAssertions config).getIniConfig parse env load =
      .ok (b,log))
    {name : DnsName} (r : HostRequest name) (hfit : r.head.length ≤ 512) (n : ℕ) {m : ℕ}
    (hm : r.head.length ≤ m)
    {acceptor : Acceptor} {settings : TlsConnectionSettings} {hello : List UInt8}
    (hc : ClientHello.CompleteRecord settings hello)
    (hsni : acceptor.serverName (hello.take (chSize hello + 5)) = some (toAsciiLowercase name.text))
    (httpStream tlsStream : StreamId) (httpRemote tlsRemote : SocketAddr) :
    routed acceptor settings b.tlsRpDestProvider httpStream httpRemote (.arrived (r.bytes.take n))
        (.arrived (r.bytes.take m)) =
      routed acceptor settings b.tlsRpDestProvider tlsStream tlsRemote (.arrived hello)
        (.arrived hello) ↔
      toAsciiLowercase name.text = name.text ∨
        toAsciiLowercase name.text ∉ b.tlsRpDestProvider := by
  rw [http_routed acceptor settings _ r hfit hm n,tls_routed acceptor settings _ hc hsni]
  exact destinationOf_eq_iff _
    (loaded_hosts_lower hkeys (Loading.new_fresh debugAssertions config) hload) name.text

section Example

def exampleSections : SectionMaps :=
  (AList.singleton "rusty-valve".toList (∅ : Section)).insert "tls-rp-ports".toList
    (AList.singleton "example.com".toList (some "1337".toList))

theorem exampleSections_lower : LowerKeys exampleSections := by
  unfold LowerKeys
  decide

def exampleEnv : LogEnvironment := ⟨fun _ => none,none,true⟩

def exampleBuilder : ConfigBuilder :=
  { ConfigBuilder.new.getOpts true none with
    tlsRpListenPort := []
    tlsRpDestProvider := ConfigBuilder.insertHosts FromStr.std (.portOnly 4443)
      (AList.singleton "example.com".toList (some "1337".toList)) ∅ }

theorem exampleBuilder_loaded :
    (ConfigBuilder.new.getOpts true none).getIniConfig FromStr.std exampleEnv
      (fun _ => .ok exampleSections) = .ok (exampleBuilder,.default exampleEnv) := rfl

def requestFor (name : DnsName) : HostRequest name where
  front := Utf8.encode "GET / HTTP/1.1\r".toList
  field := "Host".toList
  pad := " ".toList
  port := "80".toList
  padEnd := []
  rest := Utf8.encode "\r\n".toList
  plain := by decide
  notHost := by decide
  isHost := HostValue.capital_host_field
  blank := forall_char (by decide)
  digits := forall_char (by decide)
  blankEnd := forall_char (by decide)

def lowerName : DnsName := ⟨"example.com".toList,by decide,forall_char (by decide)⟩

def capitalName : DnsName := ⟨"Example.com".toList,by decide,forall_char (by decide)⟩

def exampleHello : List UInt8 := ClientHello.helloFor (Utf8.encode "Example.com".toList)

def exampleAcceptor : Acceptor := ClientHello.recognising exampleHello "example.com".toList

theorem exampleHello_complete :
    ClientHello.CompleteRecord ClientHello.defaultSettings exampleHello :=
  ⟨by decide,by decide⟩

theorem exampleHello_name :
    exampleAcceptor.serverName (exampleHello.take (chSize exampleHello + 5)) =
      some "example.com".toList := by
  decide +kernel

theorem lower_name_same_route :
    routed exampleAcceptor ClientHello.defaultSettings exampleBuilder.tlsRpDestProvider 0
        ⟨.v4 0x7F000001#32,40000⟩ (.arrived ((requestFor lowerName).bytes.take 5))
        (.arrived ((requestFor lowerName).bytes.take 200)) =
      routed exampleAcceptor ClientHello.defaultSettings exampleBuilder.tlsRpDestProvider 1
        ⟨.v4 0x7F000001#32,40001⟩ (.arrived exampleHello) (.arrived exampleHello) :=
  (same_route_iff (fun _ _ h => Except.ok.inj h ▸ exampleSections_lower) exampleBuilder_loaded
    (requestFor lowerName) (by decide) 5 (by decide) exampleHello_complete exampleHello_name
    0 1 _ _).mpr (.inl (by decide))

theorem capital_name_other_route :
    routed exampleAcceptor ClientHello.defaultSettings exampleBuilder.tlsRpDestProvider 0
        ⟨.v4 0x7F000001#32,40000⟩ (.arrived ((requestFor capitalName).bytes.take 5))
        (.arrived ((requestFor capitalName).bytes.take 200)) = none ∧
      routed exampleAcceptor ClientHello.defaultSettings exampleBuilder.tlsRpDestProvider 1
        ⟨.v4 0x7F000001#32,40001⟩ (.arrived exampleHello) (.arrived exampleHello) =
          some (.portOnly 1337) := by
  rw [http_routed _ _ _ (requestFor capitalName) (by decide) (by decide),
    tls_routed _ _ _ exampleHello_complete exampleHello_name]
  exact ⟨by decide,by decide⟩

end Example

end SameRoute

end RustyValve
