import RustyValve.Loading

namespace RustyValve

namespace Section
variable {T : Type} (tryFromConfig : Str → Except Error T)

theorem takeMultiValue_absent {key : Str} {self : Section} (h : self.lookup key = none) :
    (takeMultiValue tryFromConfig key self).1 = .ok [] := by
  simp [takeMultiValue,h]

theorem takeOptValue_absent {key : Str} {self : Section} (h : self.lookup key = none) :
    (takeOptValue tryFromConfig key self).1 = none := by
  simp [takeOptValue,h]

theorem takeOptValue_getD {key : Str} {self : Section} (h : self.lookup key = none) (d : T) :
    (takeOptValue tryFromConfig key self).1.getD d = d := by
  rw [takeOptValue_absent tryFromConfig h,Option.getD_none]

theorem lookup_erase_of_none {key : Str} {self : Section} (h : self.lookup key = none) (key' : Str) :
    (self.erase key').lookup key = none := by
  by_cases hk : key = key'
  · rw [hk,AList.lookup_erase]
  · rw [AList.lookup_erase_ne hk,h]

end Section

namespace Defaults

open Loading

def Absent (configMap : SectionMaps) (sectionName key : Str) : Prop :=
  ∀ s, configMap.lookup sectionName = some s → s.lookup key = none

structure KeepsLogger (env : LogEnvironment) (configMap : SectionMaps) (log : LoggerConfig) :
    Prop where
  logFile : Absent configMap "logger".toList "log-file".toList →
    log.logPath = (LoggerConfig.default env).logPath
  printLog : Absent configMap "logger".toList "print-log".toList →
    log.stdoutLog = (LoggerConfig.default env).stdoutLog
  printLevel : Absent configMap "logger".toList "print-level".toList →
    log.printLevel = (LoggerConfig.default env).printLevel
  logfileLevel : Absent configMap "logger".toList "logfile-level".toList →
    log.logfileLevel = (LoggerConfig.default env).logfileLevel

structure KeepsDefaults (env : LogEnvironment) (configMap : SectionMaps) (b : ConfigBuilder)
    (log : LoggerConfig) : Prop where
  bindAddresses : Absent configMap "rusty-valve".toList "bind-addresses".toList →
    b.bindAddresses = ConfigBuilder.default.bindAddresses
  destinationAddresses : Absent configMap "rusty-valve".toList "destination-addresses".toList →
    b.loadBalancerAddrs = ConfigBuilder.default.loadBalancerAddrs
  fallback : Absent configMap "rusty-valve".toList "fallback-tls-destination-port".toList →
    b.fallbackTlsDestinationPort = ConfigBuilder.default.fallbackTlsDestinationPort
  listenPort : Absent configMap "rusty-valve".toList "tls-rp-listen-port".toList →
    b.tlsRpListenPort = ConfigBuilder.default.tlsRpListenPort
  maxConnections : Absent configMap "ssh-tarpit".toList "max-connections".toList →
    b.sshTarpitMaxConnections = ConfigBuilder.default.sshTarpitMaxConnections
  bannerRepeatTime : Absent configMap "ssh-tarpit".toList "banner-repeat-time".toList →
    b.sshTarpitBannerRepeatTime = ConfigBuilder.default.sshTarpitBannerRepeatTime
  logger : KeepsLogger env configMap log

section Stages
variable (parse : FromStr) (env : LogEnvironment)

theorem loggerStage_keeps (configMap : SectionMaps) :
    KeepsLogger env configMap (loggerStage env configMap) := by
  unfold loggerStage
  cases hl : configMap.lookup "logger".toList with
  | none => exact ⟨fun _ => rfl,fun _ => rfl,fun _ => rfl,fun _ => rfl⟩
  | some logMap =>
    have erased {key : Str} (h : logMap.lookup key = none) (key₁ key₂ key₃ : Str) :
        (((logMap.erase key₁).erase key₂).erase key₃).lookup key = none :=
      Section.lookup_erase_of_none (Section.lookup_erase_of_none
        (Section.lookup_erase_of_none h key₁) key₂) key₃
    constructor
    case logFile => exact fun h => Section.takeOptValue_absent _ (h logMap hl)
    case printLog =>
      exact fun h => Section.takeOptValue_absent _ (Section.lookup_erase_of_none (h logMap hl) _)
    case printLevel =>
      intro h
      have hk := Section.lookup_erase_of_none (h logMap hl) "log-file".toList
      exact Section.takeOptValue_getD _ (Section.lookup_erase_of_none hk "print-log".toList) _
    case logfileLevel =>
      intro h
      exact Section.takeOptValue_getD _
        (erased (h logMap hl) "log-file".toList "print-log".toList "print-level".toList) _

theorem tarpitStage_keeps (configMap : SectionMaps) (b : ConfigBuilder) :
    ∃ maxConnections bannerRepeatTime, tarpitStage configMap b =
        { b with
          sshTarpitMaxConnections := maxConnections
          sshTarpitBannerRepeatTime := bannerRepeatTime } ∧
      (Absent configMap "ssh-tarpit".toList "max-connections".toList → b.sshTarpitMaxConnections = 0 →
        maxConnections = 0) ∧
      (Absent configMap "ssh-tarpit".toList "banner-repeat-time".toList →
        bannerRepeatTime = b.sshTarpitBannerRepeatTime) := by
  unfold tarpitStage
  cases hl : configMap.lookup "ssh-tarpit".toList with
  | none => exact ⟨_,_,rfl,fun _ h => h,fun _ => rfl⟩
  | some sshTarpitMap =>
    refine ⟨_,_,rfl,fun h _ => ?_,fun h => ?_⟩
    · exact Section.takeOptValue_getD _ (h sshTarpitMap hl) 0
    · exact Section.takeOptValue_getD _ (Section.lookup_erase_of_none (h sshTarpitMap hl) _) _

-- The absent list of listening ports is read as an empty list, not as an error.
theorem tlsStage_keeps (configMap : SectionMaps) (defaultMap : Section) (b : ConfigBuilder) :
    ∃ fallback ports table, tlsStage parse configMap defaultMap b =
        { b with
          fallbackTlsDestinationPort := fallback
          tlsRpListenPort := ports
          tlsRpDestProvider := table } ∧
      (defaultMap.lookup "fallback-tls-destination-port".toList = none →
        fallback = b.fallbackTlsDestinationPort) ∧
      (defaultMap.lookup "tls-rp-listen-port".toList = none →
        ports = if (configMap.lookup "tls-rp-ports".toList).isSome then [] else b.tlsRpListenPort) := by
  unfold tlsStage
  cases hl : configMap.lookup "tls-rp-ports".toList with
  | none => exact ⟨_,_,_,rfl,fun _ => rfl,fun _ => rfl⟩
  | some tlsRpMap =>
    refine ⟨_,_,_,rfl,fun h => ?_,fun h => ?_⟩
    · exact Section.takeOptValue_getD _ h _
    · have hm := Section.takeMultiValue_absent (TryFromConfig.u16 parse)
        (Section.lookup_erase_of_none h "fallback-tls-destination-port".toList)
      exact congrArg (fun r => r.toOption.getD b.tlsRpListenPort) hm

end Stages

def ListenPortSettled (configMap : SectionMaps) : Prop :=
  ¬ Absent configMap "rusty-valve".toList "tls-rp-listen-port".toList ∨
    configMap.lookup "tls-rp-ports".toList = none

theorem readMaps_keeps_iff (parse : FromStr) {env : LogEnvironment} {configMap : SectionMaps}
    {b : ConfigBuilder} {log : LoggerConfig} {path : Option Str}
    (h : ({ ConfigBuilder.default with configFilePath := path }).readMaps parse env configMap =
      .ok (b,log)) : KeepsDefaults env configMap b log ↔ ListenPortSettled configMap := by
  obtain ⟨defaultMap,ips,addrs,b2,hl,hi,ha,ht,rfl⟩ := (readMaps_ok parse env).mp ⟨log,h⟩
  obtain rfl := readMaps_log parse env h
  have look {key : Str} (hk : Absent configMap "rusty-valve".toList key) :
      (remaining defaultMap).lookup key = none :=
    Section.lookup_erase_of_none (Section.lookup_erase_of_none (hk defaultMap hl) _) _
  obtain ⟨fallback,ports,table,htls,hfallback,hports⟩ := tlsStage_keeps parse configMap
    (remaining defaultMap) { ConfigBuilder.default with
      configFilePath := path,bindAddresses := ips,loadBalancerAddrs := addrs }
  rw [← remaining,htls] at ht
  obtain ⟨routes,-,rfl⟩ := (tcpStage_ok parse rfl).mp ht
  obtain ⟨maxConnections,bannerRepeatTime,htarpit,hmax,hbanner⟩ :=
    tarpitStage_keeps configMap { ConfigBuilder.default with
      configFilePath := path,bindAddresses := ips,loadBalancerAddrs := addrs
      fallbackTlsDestinationPort := fallback,tlsRpListenPort := ports,tlsRpDestProvider := table
      tcpRpDestProvider := routes }
  rw [htarpit]
  constructor
  · intro hk
    by_contra hc
    obtain ⟨hn,hs⟩ := not_or.mp hc
    have hp := hk.listenPort (not_not.mp hn)
    rw [hports (look (not_not.mp hn)),if_pos (Option.isSome_iff_ne_none.mpr hs)] at hp
    cases hp
  · intro hs
    constructor
    case bindAddresses =>
      intro hk
      rw [Section.takeMultiValue_absent _ (hk defaultMap hl),Except.ok.injEq] at hi
      exact hi.symm
    case destinationAddresses =>
      intro hk
      rw [Section.takeMultiValue_absent _ (hk defaultMap hl),Except.ok.injEq] at ha
      exact ha.symm
    case fallback => exact fun hk => hfallback (look hk)
    case listenPort =>
      intro hk
      rcases hs with hs | hs
      · exact absurd hk hs
      · rw [hports (look hk),hs]
        rfl
    case maxConnections => exact fun hk => hmax hk rfl
    case bannerRepeatTime => exact hbanner
    case logger => exact loggerStage_keeps env configMap

theorem absent_keys_keep_defaults_iff (parse : FromStr) {env : LogEnvironment}
    {load : Str → Except Str SectionMaps} {configMap : SectionMaps} {debugAssertions : Bool}
    {config : Option Str} {path : Str}
    (hpath : (ConfigBuilder.new.getOpts debugAssertions config).configFilePath = some path)
    (hload : load path = .ok configMap) {b : ConfigBuilder} {log : LoggerConfig}
    (h : (ConfigBuilder.new.getOpts debugAssertions config).getIniConfig parse env load =
      .ok (b,log)) : KeepsDefaults env configMap b log ↔ ListenPortSettled configMap := by
  simp only [ConfigBuilder.getIniConfig,hpath,hload] at h
  exact readMaps_keeps_iff parse h

def emptyDefaults : SectionMaps := AList.singleton "rusty-valve".toList (∅ : Section)

def hostsWithoutPorts : SectionMaps :=
  emptyDefaults.insert "tls-rp-ports".toList (AList.singleton "example.com".toList (some "1337".toList))

def hostsWithPort : SectionMaps :=
  hostsWithoutPorts.insert "rusty-valve".toList
    (AList.singleton "tls-rp-listen-port".toList (some "4443".toList))

theorem present_listen_port_keeps_defaults :
    ∃ b log, (ConfigBuilder.new.getOpts true none).getIniConfig .std .silent
        (fun _ => .ok hostsWithPort) = .ok (b,log) ∧ b.tlsRpListenPort = [4443] ∧
      KeepsDefaults .silent hostsWithPort b log := by
  refine ⟨_,_,rfl,rfl,(@absent_keys_keep_defaults_iff .std .silent (fun _ => .ok hostsWithPort)
    hostsWithPort true none _ rfl rfl _ _ rfl).mpr (.inl fun habsent => ?_)⟩
  exact absurd (habsent _ rfl) (by decide)

theorem absent_listen_port_emptied :
    ∃ b log, (ConfigBuilder.new.getOpts true none).getIniConfig .std .silent
        (fun _ => .ok hostsWithoutPorts) = .ok (b,log) ∧
      Absent hostsWithoutPorts "rusty-valve".toList "tls-rp-listen-port".toList ∧
      b.tlsRpListenPort = [] ∧ ConfigBuilder.default.tlsRpListenPort = [4080,4443] := by
  refine ⟨_,_,rfl,?_,rfl,rfl⟩
  intro s hs
  have he : hostsWithoutPorts.lookup "rusty-valve".toList = some ∅ := rfl
  rw [he,Option.some.injEq] at hs
  rw [← hs]
  rfl

end Defaults

end RustyValve
