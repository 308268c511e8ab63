import RustyValve.Defaults
import RustyValve.Startup

namespace RustyValve

namespace ListenerKinds

open Loading Startup

def handlers (b : ConfigBuilder) : UnboundListeners :=
  ⟨if b.tlsRpDestProvider.isEmpty then none else some (tlsHandler b forwardTable),
    if b.tcpRpDestProvider = [] then none else some (tcpHandler b forwardTable)⟩

structure OneKindSuffices (b : ConfigBuilder) (config : Config) : Prop where
  starts : b.tlsRpDestProvider.isEmpty = false ∨ b.tcpRpDestProvider ≠ [] →
    ∃ server, Server.new config = .ok server ∧ server.listeners = .unbound (handlers b)
  refuses : Server.new config = .error (.anyhow "nothing to listen on".toList) →
    b.tlsRpDestProvider.isEmpty ∧ b.tcpRpDestProvider = []

theorem handlers_of_both {b : ConfigBuilder} (ht : b.tlsRpDestProvider.isEmpty = false)
    (hr : b.tcpRpDestProvider ≠ []) : listeners b = .unbound (handlers b) := by
  simp only [listeners,handlers,ht,hr,Bool.false_eq_true,if_false]

theorem one_kind_of_tables {b : ConfigBuilder} {config : Config} (hbuild : b.build = .ok config) :
    OneKindSuffices b config ↔
      (b.tlsRpDestProvider.isEmpty = false ↔ b.tcpRpDestProvider ≠ []) := by
  constructor
  · intro h
    by_contra hone
    have hn : b.tlsRpDestProvider.isEmpty ∨ b.tcpRpDestProvider = [] := by
      by_contra hboth
      obtain ⟨ht,hr⟩ := not_or.mp hboth
      exact hone (iff_of_true (Bool.eq_false_iff.mpr ht) hr)
    obtain ⟨ht,hr⟩ := h.refuses (server_new_refused hbuild hn)
    exact hone (iff_of_false (by rw [ht]; decide) (not_not.mpr hr))
  · intro h
    constructor
    case starts =>
      intro hone
      have ht := hone.elim id h.mpr
      exact ⟨_,server_new_built hbuild (Bool.eq_false_iff.mp ht) (h.mp ht),
        handlers_of_both ht (h.mp ht)⟩
    case refuses =>
      intro he
      by_contra hboth
      have ht : b.tlsRpDestProvider.isEmpty = false := by
        by_contra ht
        exact hboth ⟨by simpa using ht,not_not.mp (fun hr => ht (h.mpr hr))⟩
      rw [server_new_built hbuild (Bool.eq_false_iff.mp ht) (h.mp ht)] at he
      cases he

theorem one_kind_suffices_iff (parse : FromStr) {env : LogEnvironment}
    {load : Str → Except Str SectionMaps} {configMap : SectionMaps} {debugAssertions : Bool}
    {config : Option Str} {path : Str}
    (hpath : (ConfigBuilder.new.getOpts debugAssertions config).configFilePath = some path)
    (hload : load path = .ok configMap) {b : ConfigBuilder} {log : LoggerConfig}
    (h : (ConfigBuilder.new.getOpts debugAssertions config).getIniConfig parse env load =
      .ok (b,log)) {built : Config} (hbuild : b.build = .ok built) :
    OneKindSuffices b built ↔
      (ListsAny configMap "tls-rp-ports".toList ↔ ListsAny configMap "tcp-rp-ports".toList) := by
  simp only [ConfigBuilder.getIniConfig,hpath,hload] at h
  have hb := new_fresh debugAssertions config
  rw [one_kind_of_tables hbuild,loaded_hosts_nonempty_iff parse hb h,
    loaded_routes_nonempty_iff parse hb h]

def onlyHosts : SectionMaps := Defaults.emptyDefaults.insert "tls-rp-ports".toList hostSection

def hostsAndPorts : SectionMaps := onlyHosts.insert "tcp-rp-ports".toList portSection

theorem hosts_and_ports_suffice : ∃ b log built,
    (ConfigBuilder.new.getOpts true none).getIniConfig .std .silent
      (fun _ => .ok hostsAndPorts) = .ok (b,log) ∧ b.build = .ok built ∧ OneKindSuffices b built :=
  ⟨_,_,_,rfl,rfl,(@one_kind_suffices_iff .std .silent (fun _ => .ok hostsAndPorts) _ true none _ rfl rfl
    _ _ rfl _ rfl).mpr (iff_of_true ⟨hostSection,rfl,by decide⟩ ⟨portSection,rfl,by decide⟩)⟩

theorem hosts_alone_refused : ∃ b log built,
    (ConfigBuilder.new.getOpts true none).getIniConfig .std .silent
      (fun _ => .ok onlyHosts) = .ok (b,log) ∧ b.build = .ok built ∧
      b.tlsRpDestProvider.isEmpty = false ∧
      Server.new built = .error (.anyhow "nothing to listen on".toList) ∧
      ¬ OneKindSuffices b built := by
  refine ⟨_,_,_,rfl,rfl,rfl,rfl,fun h => ?_⟩
  have hrefused := h.refuses rfl
  cases hrefused.1

end ListenerKinds

end RustyValve
