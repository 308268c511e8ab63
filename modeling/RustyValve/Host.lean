import RustyValve.Serving

namespace RustyValve

namespace Host

open Binding Loading Serving

section Binds
variable (free : SocketAddr → Prop) (conflicts : SocketAddr → SocketAddr → Prop)

-- How the binds of those addresses end while the process holds the sockets of the ones before.
def BindsOn (tried : List SocketAddr) (outcomes : BindOutcomes) : Prop :=
  ∀ held a rest, tried = held ++ a :: rest → AllBind outcomes 0 held →
    (outcomes held.length a = none ↔ free a ∧ ∀ b ∈ held, ¬ conflicts b a)

variable {free conflicts} {tried : List SocketAddr} {outcomes : BindOutcomes}

theorem allBind_iff (h : BindsOn free conflicts tried outcomes) : AllBind outcomes 0 tried ↔
    (∀ a ∈ tried, free a) ∧ tried.Pairwise (fun a b => ¬ conflicts a b) := by
  induction tried using List.reverseRecOn with
  | nil => simp [AllBind]
  | append_singleton held a ih =>
    have hheld : BindsOn free conflicts held outcomes := fun held' b rest he =>
      h held' b (rest ++ [a]) (by rw [he,List.append_assoc,List.cons_append])
    have hlast : AllBind outcomes 0 held →
        (outcomes held.length a = none ↔ free a ∧ ∀ b ∈ held, ¬ conflicts b a) := h held a [] rfl
    rw [allBind_append,Nat.zero_add,List.pairwise_append,List.forall_mem_append]
    simp only [AllBind,and_true,List.forall_mem_singleton,List.pairwise_singleton,true_and]
    constructor
    · rintro ⟨hb,ho⟩
      obtain ⟨hfree,hnone⟩ := (hlast hb).mp ho
      obtain ⟨hfrees,hpair⟩ := (ih hheld).mp hb
      exact ⟨⟨hfrees,hfree⟩,hpair,hnone⟩
    · rintro ⟨⟨hfrees,hfree⟩,hpair,hnone⟩
      have hb := (ih hheld).mpr ⟨hfrees,hpair⟩
      exact ⟨hb,(hlast hb).mpr ⟨hfree,hnone⟩⟩

end Binds

section Addresses

theorem nodup_product_iff {A B : Type} {xs : List A} {ys : List B} (hxs : xs ≠ []) (hys : ys ≠ []) :
    (xs ×ˢ ys).Nodup ↔ xs.Nodup ∧ ys.Nodup := by
  constructor
  · intro h
    obtain ⟨hrow,hrows⟩ := List.nodup_flatMap.mp h
    obtain ⟨x,hx⟩ := List.exists_mem_of_ne_nil xs hxs
    obtain ⟨y,hy⟩ := List.exists_mem_of_ne_nil ys hys
    refine ⟨hrows.imp ?_,(hrow x hx).of_map _⟩
    rintro a b hdisjoint rfl
    exact hdisjoint (List.mem_map_of_mem hy) (List.mem_map_of_mem hy)
  · rintro ⟨hx,hy⟩
    exact hx.product hy

variable {ips : List IpAddr} {ports routed : List UInt16}

def tried (ips : List IpAddr) (ports routed : List UInt16) : List SocketAddr :=
  tlsAddrs ⟨ips,ports⟩ ++ triedAddrs ips routed

theorem nodup_tried_iff (hips : ips ≠ []) : (tried ips ports routed).Nodup ↔
    (ports ≠ [] → ips.Nodup) ∧ ports.Nodup ∧ routed.Nodup ∧ ∀ port ∈ routed, port ∉ ports := by
  have htls : (tlsAddrs ⟨ips,ports⟩).Nodup ↔ (ports ≠ [] → ips.Nodup) ∧ ports.Nodup := by
    have hinj : Function.Injective TlsRpHandler.socketAddr := by
      rintro ⟨port,ip⟩ ⟨port',ip'⟩ h
      obtain ⟨rfl,rfl⟩ := SocketAddr.mk.inj h
      rfl
    by_cases hports : ports = []
    · simp [hports,tlsAddrs]
    · rw [tlsAddrs,List.nodup_map_iff hinj,nodup_product_iff hports hips]
      tauto
  obtain ⟨ip,ips,rfl⟩ := List.exists_cons_of_ne_nil hips
  have hinj : Function.Injective (fun port => SocketAddr.mk ip port) := fun port port' h =>
    (SocketAddr.mk.inj h).2
  have htcp : (triedAddrs (ip :: ips) routed).Nodup ↔ routed.Nodup := by
    rw [triedAddrs,List.nodup_map_iff hinj,List.nodup_reverse]
  have hapart : (∀ a ∈ tlsAddrs ⟨ip :: ips,ports⟩, ∀ b ∈ triedAddrs (ip :: ips) routed, a ≠ b) ↔
      ∀ port ∈ routed, port ∉ ports := by
    simp only [tlsAddrs,triedAddrs,List.mem_map,List.mem_reverse,Prod.exists,List.mem_product]
    constructor
    · rintro h port hr hp
      exact h ⟨ip,port⟩ ⟨port,ip,⟨hp,List.mem_cons_self⟩,rfl⟩ ⟨ip,port⟩ ⟨port,hr,rfl⟩ rfl
    · rintro h a ⟨port,ip',⟨hp,-⟩,rfl⟩ b ⟨port',hr,rfl⟩ he
      obtain ⟨-,rfl⟩ := SocketAddr.mk.inj he
      exact h port hr hp
  rw [tried,List.nodup_append,htls,htcp,hapart]
  tauto

theorem filter_tried (keep : UInt16 → Bool) :
    (tried ips ports routed).filter (fun a => keep a.port) =
      tried ips (ports.filter keep) (routed.filter keep) := by
  have htls : (tlsAddrs ⟨ips,ports⟩).filter (fun a => keep a.port) =
      tlsAddrs ⟨ips,ports.filter keep⟩ := by
    simp only [tlsAddrs,List.filter_map]
    congr 1
    induction ports with
    | nil => rfl
    | cons port ports ih =>
      rw [List.product_cons,List.filter_append,ih,List.filter_map]
      cases hk : keep port <;> simp [Function.comp_def,TlsRpHandler.socketAddr,hk]
  have htcp : (triedAddrs ips routed).filter (fun a => keep a.port) =
      triedAddrs ips (routed.filter keep) := by
    cases ips with
    | nil => rfl
    | cons ip ips => simp [triedAddrs,List.filter_map,Function.comp_def]
  rw [tried,tried,List.filter_append,htls,htcp]

-- Nothing is written twice, as far as a port other than 0 is concerned.
structure Unrepeated (ips : List IpAddr) (ports routed : List UInt16) : Prop where
  addresses : ∀ port ∈ ports, port ≠ 0 → ips.Nodup
  listening : (ports.filter (· ≠ 0)).Nodup
  routing : (routed.filter (· ≠ 0)).Nodup
  apart : ∀ port ∈ routed, port ≠ 0 → port ∉ ports

theorem unrepeated_of_pairwise {conflicts : SocketAddr → SocketAddr → Prop} (hips : ips ≠ [])
    (hself : ∀ a, a.port ≠ 0 → conflicts a a)
    (h : (tried ips ports routed).Pairwise (fun a b => ¬ conflicts a b)) :
    Unrepeated ips ports routed := by
  have hfixed : ((tried ips ports routed).filter (fun a => a.port ≠ 0)).Nodup := by
    refine (h.filter _).imp_of_mem ?_
    rintro a b ha - hab rfl
    exact hab (hself a (of_decide_eq_true (List.mem_filter.mp ha).2))
  rw [filter_tried (fun port => port ≠ 0),nodup_tried_iff hips] at hfixed
  obtain ⟨haddrs,hports,hrouted,hapart⟩ := hfixed
  refine ⟨fun port hp hz => haddrs (List.ne_nil_of_mem (a := port) ?_),hports,hrouted,
    fun port hp hz hm => ?_⟩
  · simpa using ⟨hp,hz⟩
  · exact hapart port (by simpa using ⟨hp,hz⟩) (by simpa using ⟨hm,hz⟩)

end Addresses

section Server
variable {parse : FromStr} {env : LogEnvironment} {load : Str → Except Str SectionMaps}
  {outcomes : BindOutcomes} {debugAssertions : Bool} {config : Option Str} {path : Str}
  {configMap : SectionMaps} {defaultMap tlsRpMap tcpRpMap : Section} {ips addrs : List IpAddr}
  {routes : List Route}

theorem provides_rebound {outcomes' : BindOutcomes}
    (h : Provides parse outcomes configMap defaultMap tlsRpMap tcpRpMap ips addrs routes)
    (hb : AllBind outcomes' 0 (tried ips (listenPorts parse defaultMap) (routes.map Prod.fst))) :
    Provides parse outcomes' configMap defaultMap tlsRpMap tcpRpMap ips addrs routes :=
  { h with bound := hb }

theorem main_up_iff {files : LogFiles}
    (hpath : (if debugAssertions then some "resources/config/config.ini".toList else config) =
      some path) (hload : load path = .ok configMap)
    (h : Provides parse (fun _ _ => none) configMap defaultMap tlsRpMap tcpRpMap ips addrs routes) :
    (∃ running, main parse env load files outcomes
        (ConfigBuilder.new.getOpts debugAssertions config) = .ok running) ↔
      (∀ logPath, logFile configMap = some logPath → LogOpens files logPath) ∧
      AllBind outcomes 0 (tried ips (listenPorts parse defaultMap) (routes.map Prod.fst)) := by
  constructor
  · rintro ⟨running,hrun⟩
    obtain ⟨path',configMap',_,_,_,_,_,_,hpath',hload',hlog,hprov,-⟩ := provides_of_main parse hrun
    obtain rfl := Option.some.inj (hpath.symm.trans hpath')
    obtain rfl := Except.ok.inj (hload.symm.trans hload')
    obtain rfl := Option.some.inj (h.default.symm.trans hprov.default)
    obtain rfl := Option.some.inj (h.tcpRp.symm.trans hprov.tcpRp)
    obtain rfl := Except.ok.inj (h.addresses.symm.trans hprov.addresses)
    obtain rfl := Option.some.inj (h.read.symm.trans hprov.read)
    exact ⟨hlog,hprov.bound⟩
  · rintro ⟨hlog,hb⟩
    exact ⟨_,main_of_provides parse env hpath hload hlog (provides_rebound h hb)⟩

theorem comes_up_on_host_iff {files : LogFiles} {free : SocketAddr → Prop}
    {conflicts : SocketAddr → SocketAddr → Prop}
    (hpath : (if debugAssertions then some "resources/config/config.ini".toList else config) =
      some path) (hload : load path = .ok configMap)
    (h : Provides parse (fun _ _ => none) configMap defaultMap tlsRpMap tcpRpMap ips addrs routes)
    (hhost : BindsOn free conflicts
      (tried ips (listenPorts parse defaultMap) (routes.map Prod.fst)) outcomes) :
    ((∃ running, main parse env load files outcomes
        (ConfigBuilder.new.getOpts debugAssertions config) = .ok running) ↔
      (∀ logPath, logFile configMap = some logPath → LogOpens files logPath) ∧
      (∀ a ∈ tried ips (listenPorts parse defaultMap) (routes.map Prod.fst), free a) ∧
      (tried ips (listenPorts parse defaultMap) (routes.map Prod.fst)).Pairwise
        (fun a b => ¬ conflicts a b)) ∧
    ((∀ a, a.port ≠ 0 → conflicts a a) →
      (∃ running, main parse env load files outcomes
        (ConfigBuilder.new.getOpts debugAssertions config) = .ok running) →
      Unrepeated ips (listenPorts parse defaultMap) (routes.map Prod.fst)) := by
  rw [main_up_iff hpath hload h,allBind_iff hhost]
  exact ⟨Iff.rfl,fun hself hb => unrepeated_of_pairwise h.listens hself hb.2.2⟩

end Server

section Example

-- The binds of a host on which every address is free and the sockets held conflict so.
def heldOutcomes (conflicts : SocketAddr → SocketAddr → Bool) (tried : List SocketAddr) :
    BindOutcomes := fun attempt a =>
  if (tried.take attempt).any (fun b => conflicts b a) then
    some (.foreign "Address already in use (os error 98)".toList)
  else none

theorem heldOutcomes_bindsOn (conflicts : SocketAddr → SocketAddr → Bool) (tried : List SocketAddr) :
    BindsOn (fun _ => True) (fun a b => conflicts a b) tried (heldOutcomes conflicts tried) := by
  intro held a rest he _
  rw [heldOutcomes,he,List.take_left]
  cases hc : held.any (fun b => conflicts b a) with
  | true =>
    obtain ⟨b,hb,hba⟩ := List.any_eq_true.mp hc
    exact iff_of_false (by simp only [if_true]; exact nofun) (fun h => h.2 b hb hba)
  | false => exact iff_of_true rfl ⟨trivial,fun b hb => List.any_eq_false.mp hc b hb⟩

-- A socket on a wildcard address stands in the way of every address of its kind; that on `::`
-- takes the IPv4 addresses too unless the host keeps the kinds apart.
def covers (v6only : Bool) (a b : IpAddr) : Bool :=
  match a,b with
  | .v6 bits,.v4 _ => bits = 0 && !v6only
  | .v4 bits,.v4 bits' => bits = 0 || bits = bits'
  | .v6 bits,.v6 bits' => bits = 0 || bits = bits'
  | .v4 _,.v6 _ => false

def inUse (v6only : Bool) (a b : SocketAddr) : Bool :=
  a.port = b.port && a.port ≠ 0 && (covers v6only a.ip b.ip || covers v6only b.ip a.ip)

-- What the program reads of the configuration file that comes with it.
def sampleDefault : Section :=
  (((AList.singleton "bind-addresses".toList (some "0.0.0.0, [::]".toList)).insert
    "destination-addresses".toList (some "[::1], 0.0.0.0".toList)).insert
    "tls-rp-listen-port".toList (some "4080, 4443".toList)).insert
    "fallback-tls-destination-port".toList (some "4443".toList)

def samplePorts : Section :=
  ((AList.singleton "4442".toList (some "1337".toList)).insert
    "465".toList (some "2100".toList)).insert "993".toList (some "2100".toList)

def sampleTarpit : Section :=
  (AList.singleton "max-connections".toList (some "1000".toList)).insert
    "banner-repeat-time".toList (some "10".toList)

def sampleLogger : Section :=
  (((AList.singleton "log-file".toList (some "debug.log".toList)).insert
    "print-log".toList (some "true".toList)).insert
    "logfile-level".toList (some "off".toList)).insert "print-level".toList (some "trace".toList)

def sampleFile : SectionMaps :=
  ((((AList.singleton "rusty-valve".toList sampleDefault).insert
    "tls-rp-ports".toList Startup.hostSection).insert
    "tcp-rp-ports".toList samplePorts).insert "ssh-tarpit".toList sampleTarpit).insert
    "logger".toList sampleLogger

def sampleRoutes : List Route :=
  [(993,.withoutElse (.portOnly 2100)),(465,.withoutElse (.portOnly 2100)),
    (4442,.withoutElse (.portOnly 1337))]

theorem sampleFile_provides : Provides .std (fun _ _ => none) sampleFile sampleDefault
    Startup.hostSection samplePorts [.v4 0,.v6 0] [.v6 1,.v4 0] sampleRoutes where
  default := rfl
  tlsRp := rfl
  tcpRp := rfl
  addresses := by decide +kernel
  listens := by decide
  destinations := by decide +kernel
  balances := by decide
  hosts := by decide
  ports := by decide
  read := by decide
  routed := by decide
  bound := allBind_of_none _ (fun _ _ => rfl) 0 _

def sampleTried : List SocketAddr := tried [.v4 0,.v6 0] [4080,4443] [993,465,4442]

def sampleUp (v6only : Bool) : Prop := ∃ running,
  main .std .silent (fun _ => .ok sampleFile) .writable (heldOutcomes (inUse v6only) sampleTried)
    (ConfigBuilder.new.getOpts true none) = .ok running

theorem sample_up_where_kinds_apart :
    sampleUp true ∧ ¬ sampleUp false ∧ Unrepeated [.v4 0,.v6 0] [4080,4443] [993,465,4442] := by
  have hports : listenPorts .std sampleDefault = [4080,4443] := by decide +kernel
  have htried : tried [.v4 0,.v6 0] (listenPorts .std sampleDefault) (sampleRoutes.map Prod.fst) =
      sampleTried := by
    rw [hports]
    rfl
  have hhost (v6only : Bool) : BindsOn (fun _ => True) (fun a b => inUse v6only a b)
      (tried [.v4 0,.v6 0] (listenPorts .std sampleDefault) (sampleRoutes.map Prod.fst))
      (heldOutcomes (inUse v6only) sampleTried) := by
    rw [htried]
    exact heldOutcomes_bindsOn _ _
  have hup (v6only : Bool) : (sampleUp v6only ↔ _) ∧ (_ → sampleUp v6only → _) :=
    comes_up_on_host_iff rfl rfl sampleFile_provides (hhost v6only)
  rw [htried] at hup
  have hself (v6only : Bool) (a : SocketAddr) (ha : a.port ≠ 0) : inUse v6only a a := by
    obtain ⟨ip,port⟩ := a
    cases ip <;> simpa [inUse,covers] using ha
  have htrue : sampleUp true :=
    (hup true).1.mpr ⟨fun _ _ => ⟨fun _ => rfl,fun _ _ _ _ _ => rfl⟩,fun _ _ => trivial,
      by decide +kernel⟩
  refine ⟨htrue,fun hfalse => ?_,hports ▸ (hup true).2 (hself true) htrue⟩
  exact absurd ((hup false).1.mp hfalse).2.2 (by decide +kernel)

end Example

end Host

end RustyValve
