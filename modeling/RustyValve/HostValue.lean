import RustyValve.PartialRequest

namespace RustyValve

namespace HostHeader

theorem host_field_char {field : Str} (h : eqIgnoreAsciiCase field "host".toList) {c : Char}
    (hc : c ∈ field) : c.toLower ∈ "host".toList := by
  rw [eqIgnoreAsciiCase,beq_iff_eq] at h
  change c.toLower ∈ toAsciiLowercase "host".toList
  rw [← h]
  exact List.mem_map_of_mem hc

theorem field_no_colon {field : Str} (h : eqIgnoreAsciiCase field "host".toList) : ':' ∉ field :=
  fun hc => absurd (host_field_char h hc) (by decide)

theorem field_no_newline {field : Str} (h : eqIgnoreAsciiCase field "host".toList) : '\n' ∉ field :=
  fun hc => absurd (host_field_char h hc) (by decide)

-- The lines in front of a Host field: complete, decodable, and none of them a Host field.
structure Front where
  bytes : List UInt8
  whole : bytes = [] ∨ ∃ t, bytes = t ++ [Lines.lf]
  notHost : ∀ l ∈ Lines.lines bytes, decides l = false

theorem Front.lines_append (front : Front) (bs : List UInt8) :
    Lines.lines (front.bytes ++ bs) = Lines.lines front.bytes ++ Lines.lines bs := by
  rcases front.whole with h | ⟨t,h⟩
  · rw [h]
    rfl
  · rw [h]
    exact Lines.lines_append t bs

inductive LineEnd where
  | lf
  | crlf
deriving DecidableEq, Repr

def LineEnd.bytes : LineEnd → List UInt8
  | lf => [Lines.lf]
  | crlf => [Lines.cr,Lines.lf]

theorem lines_host_line {line : Str} (hn : '\n' ∉ line) (hr : line.getLast? ≠ some '\r')
    (lineEnd : LineEnd) (tail : List UInt8) :
    Lines.lines (Utf8.encode line ++ lineEnd.bytes ++ tail) = some line :: Lines.lines tail := by
  have hl : Lines.lf ∉ Utf8.encode line := fun h => hn (Lines.lf_mem_encode.mp h)
  cases lineEnd with
  | lf =>
    have hs : Lines.stripCr line = line := if_neg hr
    rw [LineEnd.bytes,List.append_assoc,List.singleton_append,Lines.lines_cons_append hl,
      Lines.readLine_terminated,hs]
  | crlf =>
    have hs : Lines.stripCr (line ++ ['\r']) = line := by simp [Lines.stripCr]
    have he : Utf8.encode line ++ [Lines.cr] = Utf8.encode (line ++ ['\r']) := by
      rw [Utf8.encode_append]
      rfl
    have hc : Lines.lf ∉ Utf8.encode (line ++ ['\r']) := by
      rw [← he]
      simp [hl,Lines.lf,Lines.cr]
    rw [LineEnd.bytes,List.append_cons,he,List.append_assoc,List.singleton_append,
      Lines.lines_cons_append hc,Lines.readLine_terminated,hs]

theorem extract_host_line (front : Front) {line : Str} {name : Str} (hn : '\n' ∉ line)
    (hr : line.getLast? ≠ some '\r') (hf : hostField line = some name) (lineEnd : LineEnd)
    (hfit : (front.bytes ++ (Utf8.encode line ++ lineEnd.bytes)).length ≤ 512) (rest : List UInt8) :
    extractHostFromHttpHeader
      (.arrived (front.bytes ++ (Utf8.encode line ++ lineEnd.bytes) ++ rest)) = some name := by
  obtain ⟨tail,ht⟩ := peekBuffer_prefix hfit rest
  have hd : ¬ ∃ l ∈ Lines.lines front.bytes, decides l := by
    rintro ⟨l,hl,hd⟩
    rw [front.notHost l hl] at hd
    cases hd
  rw [extractHostFromHttpHeader,peekTimeout,ht]
  dsimp only
  rw [scan_lines,List.append_assoc,front.lines_append,lines_host_line hn hr,
    firstDecision_append_of_not _ hd,firstDecision_some_cons,hf,Option.some_or]

end HostHeader

namespace HostValue

open HostHeader

def Bracketed (host : Str) : Prop :=
  ∃ t bits, host = '[' :: t ++ [']'] ∧ NetParser.ipAddrFromStr t = some (.v6 bits)

structure FieldValue where
  pad : Padding
  host : Str
  port : Option Str
  padEnd : Padding
  nonempty : host ≠ []
  solid : ∀ c ∈ host, ¬ isWhitespace c
  shape : ':' ∉ host ∨ Bracketed host
  digits : ∀ ds, port = some ds → ∀ c ∈ ds, c.isDigit

namespace FieldValue

def portText (v : FieldValue) : Str := (v.port.map (':' :: ·)).getD []

def text (v : FieldValue) : Str := v.pad.text ++ v.host ++ v.portText ++ v.padEnd.text

theorem digits_solid {ds : Str} (h : ∀ c ∈ ds, c.isDigit) {c : Char} (hc : c ∈ ds) :
    ¬ isWhitespace c := fun hw => digit_not_separator (h c hc) (.inr (.inr hw))

theorem hostName_with_port (v : FieldValue) {ds : Str} (h : v.port = some ds) :
    hostName v.text = v.host := by
  have hc : ':' ∉ ds ++ v.padEnd.text := by
    have hd : ':' ∉ ds := fun hm => absurd (v.digits ds h ':' hm) (by decide)
    simp [hd,v.padEnd.not_mem (c := ':') (by decide)]
  have ht : v.text = (v.pad.text ++ v.host) ++ ':' :: (ds ++ v.padEnd.text) := by
    simp [text,portText,h]
  rw [ht,PartialRequest.hostName_append hc,
    Delimiter.trimStart_append_of_all isWhitespace _ _ v.pad.whitespace,
    Delimiter.trimStart_of_forall_not isWhitespace v.solid]

-- Without a port the untrimmed value is taken, or what stands before the last colon of the host.
theorem hostName_without_port (v : FieldValue) (h : v.port = none) :
    hostName v.text = v.host ↔ ':' ∉ v.host ∧ v.pad.text = [] ∧ v.padEnd.text = [] := by
  have ht : v.text = v.pad.text ++ v.host ++ v.padEnd.text := by
    simp [text,portText,h]
  have hp : ':' ∉ v.pad.text := v.pad.not_mem (by decide)
  have he : ':' ∉ v.padEnd.text := v.padEnd.not_mem (by decide)
  by_cases hc : ':' ∈ v.host
  · refine iff_of_false (fun hn => ?_) (fun hn => hn.1 hc)
    obtain ⟨⟨a,b⟩,hs⟩ := Option.ne_none_iff_exists'.mp
      (fun hn => Delimiter.rsplitOnce_eq_none.mp hn hc)
    obtain ⟨hx,hb⟩ := Delimiter.rsplitOnce_eq_some.mp hs
    have hsplit : v.text = (v.pad.text ++ a) ++ ':' :: (b ++ v.padEnd.text) := by
      simp [ht,hx]
    rw [hsplit,PartialRequest.hostName_append (by simp [hb,he]),
      Delimiter.trimStart_append_of_all isWhitespace _ _ v.pad.whitespace] at hn
    have hle := (List.dropWhile_suffix isWhitespace (l := a)).length_le
    rw [← Delimiter.trimStart,hn,hx] at hle
    simp at hle
  · have hn : ':' ∉ v.text := by simp [ht,hp,he,hc]
    rw [PartialRequest.hostName_of_not_mem hn,ht]
    constructor
    · intro hl
      have hlen := congrArg List.length hl
      simp only [List.length_append] at hlen
      exact ⟨hc,List.eq_nil_of_length_eq_zero (by omega),List.eq_nil_of_length_eq_zero (by omega)⟩
    · rintro ⟨-,h1,h2⟩
      simp [h1,h2]

def Extracted (v : FieldValue) : Prop :=
  v.port.isSome ∨ (':' ∉ v.host ∧ v.pad.text = [] ∧ v.padEnd.text = [])

theorem hostName_text (v : FieldValue) : hostName v.text = v.host ↔ v.Extracted := by
  unfold Extracted
  cases h : v.port with
  | none => simp [v.hostName_without_port h]
  | some ds => simp [v.hostName_with_port h]

end FieldValue

structure Request (v : FieldValue) where
  front : Front
  field : Str
  lineEnd : LineEnd
  rest : List UInt8
  isHost : eqIgnoreAsciiCase field "host".toList
  fits : (front.bytes ++ (Utf8.encode (field ++ ':' :: v.text) ++ lineEnd.bytes)).length ≤ 512

def Request.bytes {v : FieldValue} (r : Request v) : List UInt8 :=
  r.front.bytes ++ (Utf8.encode (r.field ++ ':' :: v.text) ++ r.lineEnd.bytes) ++ r.rest

theorem FieldValue.text_chars (v : FieldValue) {c : Char} (h : c ∈ v.text) :
    c = ' ' ∨ c = '\t' ∨ ¬ isWhitespace c := by
  simp only [text,portText,List.mem_append] at h
  rcases h with ((h | h) | h) | h
  · exact (v.pad.blank c h).elim .inl (fun h => .inr (.inl h))
  · exact .inr (.inr (v.solid c h))
  · cases hp : v.port with
    | none => simp [hp] at h
    | some ds =>
      simp only [hp,Option.map_some,Option.getD_some,List.mem_cons] at h
      rcases h with rfl | h
      · exact .inr (.inr (by decide))
      · exact .inr (.inr (digits_solid (v.digits ds hp) h))
  · exact (v.padEnd.blank c h).elim .inl (fun h => .inr (.inl h))

theorem FieldValue.not_mem_text (v : FieldValue) {c : Char} (hw : isWhitespace c) (hs : c ≠ ' ')
    (ht : c ≠ '\t') : c ∉ v.text := fun h => by
  rcases v.text_chars h with h | h | h
  · exact hs h
  · exact ht h
  · exact h hw

theorem extract_request {v : FieldValue} (r : Request v) :
    extractHostFromHttpHeader (.arrived r.bytes) = some (hostName v.text) := by
  have hn : '\n' ∉ r.field ++ ':' :: v.text := by
    simp [field_no_newline r.isHost,v.not_mem_text (c := '\n') (by decide) (by decide) (by decide)]
  have hr : (r.field ++ ':' :: v.text).getLast? ≠ some '\r' := by
    intro hl
    rw [List.getLast?_append_cons] at hl
    rcases List.mem_cons.mp (List.mem_of_getLast? hl) with h | h
    · exact absurd h (by decide)
    · exact v.not_mem_text (by decide) (by decide) (by decide) h
  exact extract_host_line r.front hn hr
    (hostField_eq_some.mpr ⟨r.field,v.text,field_no_colon r.isHost,rfl,r.isHost,rfl⟩) r.lineEnd
    r.fits r.rest

theorem host_value_iff {v : FieldValue} (r : Request v) :
    extractHostFromHttpHeader (.arrived r.bytes) = some v.host ↔ v.Extracted := by
  rw [extract_request,Option.some.injEq,v.hostName_text]

theorem capital_host_field : eqIgnoreAsciiCase "Host".toList "host".toList := by decide

def oneSpace : Padding := ⟨[' '],Padding.space_blank⟩

def spacedName : FieldValue where
  pad := oneSpace
  host := "a.example".toList
  port := none
  padEnd := .none
  nonempty := by decide
  solid := forall_char (by decide)
  shape := .inl (by decide)
  digits := by simp

def withPort (v : FieldValue) (port : Str) (h : ∀ c ∈ port, c.isDigit) : FieldValue :=
  { v with port := some port,padEnd := oneSpace,digits := fun _ hp => Option.some.inj hp ▸ h }

def bracketedName : FieldValue where
  pad := oneSpace
  host := "[::1]".toList
  port := none
  padEnd := .none
  nonempty := by decide
  solid := forall_char (by decide)
  shape := .inr ⟨"::1".toList,1#128,rfl,by decide +kernel⟩
  digits := by simp

def requestLine : Front where
  bytes := Utf8.encode "GET / HTTP/1.1\r\n".toList
  whole := .inr ⟨Utf8.encode "GET / HTTP/1.1\r".toList,by decide⟩
  notHost := by decide +kernel

def requestOf (v : FieldValue)
    (h : (requestLine.bytes ++ (Utf8.encode ("Host".toList ++ ':' :: v.text) ++
      LineEnd.crlf.bytes)).length ≤ 512) : Request v where
  front := requestLine
  field := "Host".toList
  lineEnd := .crlf
  rest := Utf8.encode "\r\n".toList
  isHost := capital_host_field
  fits := h

def spacedRequest : Request spacedName := requestOf spacedName (by decide)

-- Padding on both sides does no harm when there is a port.
theorem ported_hosts_extracted :
    extractHostFromHttpHeader (.arrived (requestOf
      (withPort spacedName "8080".toList (forall_char (by decide))) (by decide)).bytes) =
        some "a.example".toList ∧
    extractHostFromHttpHeader (.arrived (requestOf
      (withPort bracketedName "443".toList (forall_char (by decide))) (by decide)).bytes) =
        some "[::1]".toList :=
  ⟨(host_value_iff (requestOf (withPort spacedName _ _) _)).mpr (.inl rfl),
    (host_value_iff (requestOf (withPort bracketedName _ _) _)).mpr (.inl rfl)⟩

theorem spaced_name_keeps_space :
    extractHostFromHttpHeader (.arrived spacedRequest.bytes) = some " a.example".toList ∧
      extractHostFromHttpHeader (.arrived spacedRequest.bytes) ≠ some spacedName.host := by
  rw [extract_request]
  decide

end HostValue

end RustyValve
