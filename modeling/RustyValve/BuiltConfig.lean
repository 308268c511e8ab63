import RustyValve.Defaults

namespace RustyValve

namespace BuiltConfig

open Loading Defaults

section Values
variable (parse : FromStr)

def destinationAddresses (configMap : SectionMaps) : List IpAddr :=
  ((configMap.lookup "rusty-valve".toList).bind (fun defaultMap =>
    (defaultMap.takeMultiValue (TryFromConfig.ipAddr parse)
      "destination-addresses".toList).1.toOption)).getD []

def tarpitLimit (configMap : SectionMaps) : UInt64 :=
  ((configMap.lookup "ssh-tarpit".toList).bind (fun sshTarpitMap =>
    (sshTarpitMap.takeOptValue TryFromConfig.usize "max-connections".toList).1)).getD 0

theorem tarpitStage_limit (configMap : SectionMaps) {b : ConfigBuilder}
    (hb : b.sshTarpitMaxConnections = 0) :
    (tarpitStage configMap b).sshTarpitMaxConnections = tarpitLimit configMap := by
  unfold tarpitStage tarpitLimit
  cases configMap.lookup "ssh-tarpit".toList with
  | none => exact hb
  | some sshTarpitMap => rfl

theorem tarpitStage_addrs (configMap : SectionMaps) (b : ConfigBuilder) :
    (tarpitStage configMap b).loadBalancerAddrs = b.loadBalancerAddrs := by
  unfold tarpitStage
  cases configMap.lookup "ssh-tarpit".toList <;> rfl

theorem loaded_values {env : LogEnvironment} {configMap : SectionMaps} {b b' : ConfigBuilder}
    {log : LoggerConfig} (hb : Fresh b) (hlimit : b.sshTarpitMaxConnections = 0)
    (h : b.readMaps parse env configMap = .ok (b',log)) :
    b'.loadBalancerAddrs = destinationAddresses parse configMap ∧
      b'.sshTarpitMaxConnections = tarpitLimit configMap := by
  obtain ⟨defaultMap,ips,addrs,b2,hl,-,ha,ht,rfl⟩ := (readMaps_ok parse env).mp ⟨log,h⟩
  obtain ⟨fallback,ports,table,htls,-,-⟩ := tlsStage_keeps parse configMap (remaining defaultMap)
    { b with bindAddresses := ips,loadBalancerAddrs := addrs }
  rw [← remaining,htls] at ht
  obtain ⟨routes,-,rfl⟩ := (tcpStage_ok parse (by exact hb.noRoutes)).mp ht
  constructor
  · rw [tarpitStage_addrs,destinationAddresses,hl,Option.bind_some,ha]
    rfl
  · exact tarpitStage_limit configMap hlimit

end Values

section Built

def PresentWhen {T : Type} (part : Option T) (condition : Prop) (value : T) : Prop :=
  (part.isSome ↔ condition) ∧ ∀ c ∈ part, c = value

theorem presentWhen_ite {T : Type} {condition p : Prop} [Decidable p] {value : T} :
    PresentWhen (if p then some value else none) condition value ↔ (p ↔ condition) := by
  by_cases h : p <;> simp [PresentWhen,h]

structure BuildsConfigured (parse : FromStr) (configMap : SectionMaps) (b : ConfigBuilder)
    (config : Config) : Prop where
  sshTarpit : PresentWhen config.sshTarpitConfig (tarpitLimit configMap ≠ 0)
    ⟨b.sshTarpitMaxConnections,b.sshTarpitBannerRepeatTime⟩
  loadBalancer : PresentWhen config.loadBalancerConfig (destinationAddresses parse configMap ≠ [])
    ⟨b.loadBalancerAddrs⟩
  tlsRp : PresentWhen config.tlsRpConfig (b.tlsRpDestProvider.isEmpty = false)
    ⟨⟨b.connectionSettings,b.connTlsChMax⟩,b.tlsRpDestProvider⟩
  tcpRp : PresentWhen config.tcpRpConfig (b.tcpRpDestProvider ≠ [])
    ⟨b.connectionSettings,b.tcpRpDestProvider⟩

theorem complement_eq_zero (n : UInt64) : ~~~n = 0 ↔ n = 18446744073709551615 := by
  rw [UInt64.not_eq_comm]
  rfl

theorem build_tarpit_iff (n : UInt64) :
    (~~~n = 0 ↔ n ≠ 0) ↔ n = 0 ∨ n = 18446744073709551615 := by
  rw [complement_eq_zero]
  constructor
  · intro h
    by_cases hn : n = 0
    · exact .inl hn
    · exact .inr (h.mpr hn)
  · rintro (rfl | rfl) <;> decide

theorem builds_configured_of_values {parse : FromStr} {configMap : SectionMaps} {b : ConfigBuilder}
    {config : Config} (haddrs : b.loadBalancerAddrs = destinationAddresses parse configMap)
    (hlimit : b.sshTarpitMaxConnections = tarpitLimit configMap) (hbuild : b.build = .ok config) :
    BuildsConfigured parse configMap b config ↔
      tarpitLimit configMap = 0 ∨ tarpitLimit configMap = 18446744073709551615 := by
  obtain rfl := Except.ok.inj hbuild
  rw [← build_tarpit_iff,← hlimit]
  constructor
  · intro h
    simpa only [← hlimit,beq_iff_eq] using presentWhen_ite.mp h.sshTarpit
  · intro h
    constructor
    case sshTarpit => exact presentWhen_ite.mpr (by simpa only [← hlimit,beq_iff_eq] using h)
    case loadBalancer => exact presentWhen_ite.mpr (by simp [← haddrs])
    case tlsRp => exact presentWhen_ite.mpr (by simp)
    case tcpRp => exact presentWhen_ite.mpr (by simp)

theorem configured_is_built_iff (parse : FromStr) {env : LogEnvironment}
    {load : Str → Except Str SectionMaps} {configMap : SectionMaps} {debugAssertions : Bool}
    {config : Option Str} {path : Str}
    (hpath : (ConfigBuilder.new.getOpts debugAssertions config).configFilePath = some path)
    (hload : load path = .ok configMap) {b : ConfigBuilder} {log : LoggerConfig}
    (h : (ConfigBuilder.new.getOpts debugAssertions config).getIniConfig parse env load =
      .ok (b,log)) {built : Config} (hbuild : b.build = .ok built) :
    BuildsConfigured parse configMap b built ↔
      tarpitLimit configMap = 0 ∨ tarpitLimit configMap = 18446744073709551615 := by
  simp only [ConfigBuilder.getIniConfig,hpath,hload] at h
  obtain ⟨haddrs,hlimit⟩ := loaded_values parse (new_fresh debugAssertions config) rfl h
  exact builds_configured_of_values haddrs hlimit hbuild

def limited (limit : Str) : SectionMaps :=
  emptyDefaults.insert "ssh-tarpit".toList (AList.singleton "max-connections".toList (some limit))

-- Everything is configured, with the one limit that gets the tarpit built.
def fullFile : SectionMaps :=
  (((limited "18446744073709551615".toList).insert "rusty-valve".toList
    (AList.singleton "destination-addresses".toList (some "::1".toList))).insert
    "tls-rp-ports".toList (AList.singleton "example.com".toList (some "1337".toList))).insert
    "tcp-rp-ports".toList (AList.singleton "465".toList (some "2100".toList))

theorem greatest_limit_built : ∃ b log built,
    (ConfigBuilder.new.getOpts true none).getIniConfig .std .silent (fun _ => .ok fullFile) =
      .ok (b,log) ∧ b.build = .ok built ∧
    built.sshTarpitConfig.isSome ∧ built.loadBalancerConfig.isSome ∧ built.tlsRpConfig.isSome ∧
    built.tcpRpConfig.isSome ∧ BuildsConfigured .std fullFile b built :=
  ⟨_,_,_,rfl,rfl,rfl,rfl,rfl,rfl,(@configured_is_built_iff .std .silent (fun _ => .ok fullFile) _ true none
    _ rfl rfl _ _ rfl _ rfl).mpr (.inr (by decide +kernel))⟩

theorem thousand_not_built : ∃ b log built,
    (ConfigBuilder.new.getOpts true none).getIniConfig .std .silent
      (fun _ => .ok (limited "1000".toList)) = .ok (b,log) ∧ b.build = .ok built ∧
      b.sshTarpitMaxConnections = 1000 ∧ built.sshTarpitConfig = none ∧
      ¬ BuildsConfigured .std (limited "1000".toList) b built := by
  refine ⟨_,_,_,rfl,rfl,rfl,rfl,fun h => ?_⟩
  have hs := h.sshTarpit.1.mpr (by decide)
  cases hs

end Built

end BuiltConfig

end RustyValve
