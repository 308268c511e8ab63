import RustyValve.SectionText
import RustyValve.Serving

namespace RustyValve

namespace Loadable

open Loading Serving

section Written
variable (env : LogEnvironment)

-- A level that some line of the logger section gives, or its absence.
def LevelWritten (level : LevelFilter) : Prop :=
  ∃ value : Option Str, (value.bind env.levelFromStr).getD (LoggerConfig.default env).printLevel = level

structure Loads (path : Option Str) (b : ConfigBuilder) (log : LoggerConfig) : Prop where
  configFilePath : b.configFilePath = path
  serverSettings : b.serverSettings = ⟨50⟩
  connectionSettings : b.connectionSettings = ⟨5⟩
  connTlsChMax : b.connTlsChMax = 16358
  fallback : b.fallbackTlsDestinationPort.Normal
  hosts : ∀ (name : Str) (d : PossibleDestinations), b.tlsRpDestProvider[name]? = some d → d.Normal
  routes : ∀ r ∈ b.tcpRpDestProvider, r.2.Normal
  printLevel : LevelWritten env log.printLevel
  logfileLevel : LevelWritten env log.logfileLevel

end Written

section Reads
variable {parse : FromStr} {env : LogEnvironment}

theorem toOption_eq_some {E T : Type} {x : Except E T} {v : T} : x.toOption = some v ↔ x = .ok v := by
  cases x <;> simp [Except.toOption]

theorem normal_destinationOr {fallback : Destination} (hf : fallback.Normal) (value : Option Str) :
    (ConfigBuilder.destinationOr parse fallback value).Normal := by
  rw [ConfigBuilder.destinationOr]
  cases hr : value.bind (fun s => (TryFromConfig.possibleDestinations parse s).toOption) with
  | none => exact ⟨hf,fun _ h => by cases h⟩
  | some d =>
    obtain ⟨s,-,hs⟩ := Option.bind_eq_some_iff.mp hr
    exact PossibleDestinations.normal_of_read (toOption_eq_some.mp hs)

theorem takeOptValue_eq_some {T : Type} {tryFromConfig : Str → Except Error T} {self : Section}
    {key : Str} {v : T} (h : (self.takeOptValue tryFromConfig key).1 = some v) :
    ∃ value, tryFromConfig value = .ok v := by
  cases hl : self.lookup key with
  | none => simp [Section.takeOptValue,hl] at h
  | some value =>
    rw [Section.takeOptValue_line hl,Option.bind_eq_some_iff] at h
    obtain ⟨s,-,hs⟩ := h
    exact ⟨s,toOption_eq_some.mp hs⟩

theorem normal_fallback (defaultMap : Section) {fallback : Destination} (hf : fallback.Normal) :
    ((defaultMap.takeOptValue (TryFromConfig.destination parse)
      "fallback-tls-destination-port".toList).1.getD fallback).Normal := by
  cases ht : (defaultMap.takeOptValue (TryFromConfig.destination parse)
      "fallback-tls-destination-port".toList).1 with
  | none => exact hf
  | some d =>
    obtain ⟨value,hv⟩ := takeOptValue_eq_some ht
    exact Destination.normal_of_fromStr hv

theorem levelWritten_line (logMap : Section) (key : Str) : LevelWritten env
    ((logMap.takeOptValue (ConfigBuilder.levelFilter env) key).1.getD
      (LoggerConfig.default env).printLevel) := by
  cases hl : logMap.lookup key with
  | none => exact ⟨none,by simp [Section.takeOptValue,hl]⟩
  | some value =>
    refine ⟨value,?_⟩
    rw [Section.takeOptValue_line hl]
    cases value with
    | none => rfl
    | some s =>
      simp only [Option.bind_some,ConfigBuilder.levelFilter,TryFromConfig.ofOption]
      cases env.levelFromStr s <;> rfl

-- What no line of a file changes.
def fixed (b : ConfigBuilder) : Option Str × ServerSettings × ConnectionSettings × ℕ :=
  (b.configFilePath,b.serverSettings,b.connectionSettings,b.connTlsChMax)

theorem fixed_tarpitStage (configMap : SectionMaps) (b : ConfigBuilder) :
    fixed (tarpitStage configMap b) = fixed b := by
  unfold tarpitStage
  cases configMap.lookup "ssh-tarpit".toList <;> rfl

theorem fixed_tlsStage (configMap : SectionMaps) (defaultMap : Section) (b : ConfigBuilder) :
    fixed (tlsStage parse configMap defaultMap b) = fixed b := by
  unfold tlsStage
  cases configMap.lookup "tls-rp-ports".toList <;> rfl

theorem fallback_tarpitStage (configMap : SectionMaps) (b : ConfigBuilder) :
    (tarpitStage configMap b).fallbackTlsDestinationPort = b.fallbackTlsDestinationPort := by
  unfold tarpitStage
  cases configMap.lookup "ssh-tarpit".toList <;> rfl

theorem normal_tlsStage (configMap : SectionMaps) (defaultMap : Section) {b : ConfigBuilder}
    (hb : b.fallbackTlsDestinationPort.Normal) :
    (tlsStage parse configMap defaultMap b).fallbackTlsDestinationPort.Normal := by
  unfold tlsStage
  cases configMap.lookup "tls-rp-ports".toList with
  | none => exact hb
  | some tlsRpMap => exact normal_fallback defaultMap hb

theorem levelWritten_loggerStage (configMap : SectionMaps) :
    LevelWritten env (loggerStage env configMap).printLevel ∧
      LevelWritten env (loggerStage env configMap).logfileLevel := by
  unfold loggerStage
  cases configMap.lookup "logger".toList with
  | none => exact ⟨⟨none,rfl⟩,⟨none,rfl⟩⟩
  | some logMap => exact ⟨levelWritten_line _ _,levelWritten_line _ _⟩

theorem normal_routes {configMap : SectionMaps} {routes : List Route}
    (h : RoutesFrom parse configMap routes) : ∀ r ∈ routes, r.2.Normal := by
  intro r hr
  unfold RoutesFrom at h
  split at h
  · subst h
    cases hr
  · obtain ⟨⟨text,value⟩,-,hread⟩ := Traversal.mem_of_mapM_eq_some h hr
    obtain ⟨port,-,rfl⟩ := Option.map_eq_some_iff.mp hread
    exact @normal_destinationOr parse (.portOnly port) trivial value

variable {configMap : SectionMaps} {b b' : ConfigBuilder} {log : LoggerConfig}

theorem kept_by_readMaps (hb : Fresh b) (h : b.readMaps parse env configMap = .ok (b',log))
    (hf : b.fallbackTlsDestinationPort.Normal) :
    fixed b' = fixed b ∧ b'.fallbackTlsDestinationPort.Normal := by
  obtain ⟨defaultMap,ips,addrs,b2,-,-,-,ht,rfl⟩ := (readMaps_ok parse env).mp ⟨log,h⟩
  obtain ⟨routes,-,rfl⟩ :=
    (tcpStage_ok parse (by rw [tlsStage_routes]; exact hb.noRoutes)).mp ht
  rw [fixed_tarpitStage,fallback_tarpitStage]
  exact ⟨fixed_tlsStage configMap _ _,normal_tlsStage configMap _ hf⟩

theorem loads_of_readMaps {path : Option Str}
    (h : (fresh path).readMaps parse env configMap = .ok (b,log)) : Loads env path b log := by
  have hfresh : Fresh (fresh path) := ⟨rfl,rfl,rfl⟩
  obtain ⟨hfixed,hfallback⟩ := kept_by_readMaps hfresh h trivial
  have hlog := @levelWritten_loggerStage env configMap
  rw [← readMaps_log parse env h] at hlog
  simp only [fixed,Prod.mk.injEq] at hfixed
  refine ⟨hfixed.1,hfixed.2.1,hfixed.2.2.1,hfixed.2.2.2,hfallback,?_,
    normal_routes (loaded_routes parse hfresh h),hlog.1,hlog.2⟩
  intro name d hd
  rw [loaded_hosts parse hfresh h,Option.map_eq_some_iff] at hd
  obtain ⟨value,-,rfl⟩ := hd
  exact normal_destinationOr hfallback value

end Reads

section Writes

def defaultSection (b : ConfigBuilder) : Section :=
  ((((∅ : Section).insert "bind-addresses".toList
    (some (listText (b.bindAddresses.map IpAddr.text)))).insert "destination-addresses".toList
    (some (listText (b.loadBalancerAddrs.map IpAddr.text)))).insert
    "fallback-tls-destination-port".toList (some b.fallbackTlsDestinationPort.text)).insert
    "tls-rp-listen-port".toList
    (some (listText (b.tlsRpListenPort.map (fun port => padded 0 port.toNat))))

def tarpitSection (b : ConfigBuilder) : Section :=
  ((∅ : Section).insert "max-connections".toList
    (some (padded 0 b.sshTarpitMaxConnections.toNat))).insert "banner-repeat-time".toList
    (some (padded 0 b.sshTarpitBannerRepeatTime.toNat))

def boolText (value : Bool) : Str := if value then "true".toList else "false".toList

def loggerSection (log : LoggerConfig) (printLevel logfileLevel : Option Str) : Section :=
  ((((∅ : Section).insert "log-file".toList log.logPath).insert "print-log".toList
    (log.stdoutLog.map boolText)).insert "print-level".toList printLevel).insert
    "logfile-level".toList logfileLevel

def sectionMaps (b : ConfigBuilder) (loggerSection : Section) : SectionMaps :=
  (((((∅ : SectionMaps).insert "rusty-valve".toList (defaultSection b)).insert
    "tls-rp-ports".toList (HostTable.toSection b.tlsRpDestProvider)).insert
    "tcp-rp-ports".toList (Routes.toSection b.tcpRpDestProvider)).insert
    "ssh-tarpit".toList (tarpitSection b)).insert "logger".toList loggerSection

variable {env : LogEnvironment} {b : ConfigBuilder} {log : LoggerConfig}

theorem bool_reads (value : Bool) : (TryFromConfig.bool (boolText value)).toOption = some value := by
  cases value <;> decide

theorem level_reads (value : Option Str) :
    (value.map (fun v => (ConfigBuilder.levelFilter env v).toOption)).join =
      value.bind env.levelFromStr := by
  cases value with
  | none => rfl
  | some s =>
    simp only [Option.map_some,Option.join_some,Option.bind_some,ConfigBuilder.levelFilter,
      TryFromConfig.ofOption]
    cases env.levelFromStr s <;> rfl

theorem loggerSection_reads {printLevel logfileLevel : Option Str}
    (hprint : (printLevel.bind env.levelFromStr).getD (LoggerConfig.default env).printLevel =
      log.printLevel)
    (hfile : (logfileLevel.bind env.levelFromStr).getD (LoggerConfig.default env).logfileLevel =
      log.logfileLevel) :
    ConfigBuilder.takeLogger env (loggerSection log printLevel logfileLevel) (.default env) = log := by
  have hpath : (log.logPath.map (fun v => (TryFromConfig.pathBuf v).toOption)).join = log.logPath := by
    cases log.logPath <;> rfl
  have hstdout : ((log.stdoutLog.map boolText).map
      (fun v => (TryFromConfig.bool v).toOption)).join = log.stdoutLog := by
    cases log.stdoutLog with
    | none => rfl
    | some value => exact bool_reads value
  simp (disch := decide) only [ConfigBuilder.takeLogger,loggerSection,Section.takeOptValue,
    AList.lookup_erase_ne,AList.lookup_insert_ne,AList.lookup_insert,Option.map_some,Option.join_some,
    level_reads,hpath,hstdout,hprint,hfile]

theorem duration_reads (n : UInt64) :
    TryFromConfig.duration (padded 0 n.toNat) = .ok n ∧ TryFromConfig.usize (padded 0 n.toNat) = .ok n := by
  simp only [TryFromConfig.duration,TryFromConfig.usize,TryFromConfig.ofOption,u64FromStr_padded,
    and_self]

theorem tarpitSection_reads (b b' : ConfigBuilder) : b'.takeSshTarpit (tarpitSection b) =
    { b' with
      sshTarpitMaxConnections := b.sshTarpitMaxConnections
      sshTarpitBannerRepeatTime := b.sshTarpitBannerRepeatTime } := by
  simp (disch := decide) only [ConfigBuilder.takeSshTarpit,tarpitSection,Section.takeOptValue,
    AList.lookup_erase_ne,AList.lookup_insert_ne,AList.lookup_insert,Option.map_some,Option.join_some,
    duration_reads,Except.toOption,Option.getD_some]

theorem fallback_reads (hf : b.fallbackTlsDestinationPort.Normal) :
    Serving.fallback .std (defaultSection b) = b.fallbackTlsDestinationPort := by
  have hl : (defaultSection b).lookup "fallback-tls-destination-port".toList =
      some (some b.fallbackTlsDestinationPort.text) := by
    simp (disch := decide) only [defaultSection,AList.lookup_insert_ne,AList.lookup_insert]
  rw [Serving.fallback,Section.takeOptValue_line hl,Option.bind_some,TryFromConfig.destination,
    Destination.fromStr_text hf]
  rfl

theorem listenPorts_reads : listenPorts .std (defaultSection b) = b.tlsRpListenPort := by
  have hl : (defaultSection b).lookup "tls-rp-listen-port".toList =
      some (some (listText (b.tlsRpListenPort.map (fun port => padded 0 port.toNat)))) :=
    AList.lookup_insert _
  rw [listenPorts,Section.takeMultiValue_line Section.writes_u16 hl]
  rfl

theorem addresses_read :
    ((defaultSection b).takeMultiValue (TryFromConfig.ipAddr .std) "bind-addresses".toList).1 =
        .ok b.bindAddresses ∧
      ((defaultSection b).takeMultiValue (TryFromConfig.ipAddr .std)
        "destination-addresses".toList).1 = .ok b.loadBalancerAddrs := by
  constructor
  · refine Section.takeMultiValue_line Section.writes_ipAddr ?_
    simp (disch := decide) only [defaultSection,AList.lookup_insert_ne,AList.lookup_insert]
  · refine Section.takeMultiValue_line Section.writes_ipAddr ?_
    simp (disch := decide) only [defaultSection,AList.lookup_insert_ne,AList.lookup_insert]

theorem builder_reads {path : Option Str} (h : Loads env path b log) :
    builder .std path (defaultSection b) (HostTable.toSection b.tlsRpDestProvider)
        b.bindAddresses b.loadBalancerAddrs b.tcpRpDestProvider =
      { b with sshTarpitMaxConnections := 0,sshTarpitBannerRepeatTime := 10 } := by
  rw [builder,fallback_reads h.fallback,listenPorts_reads,HostTable.insertHosts_toSection h.hosts]
  simp only [fresh,ConfigBuilder.default,← h.configFilePath,← h.serverSettings,← h.connectionSettings,
    ← h.connTlsChMax]

theorem lookup_sectionMaps (loggerSection : Section) :
    (sectionMaps b loggerSection).lookup "rusty-valve".toList = some (defaultSection b) ∧
      (sectionMaps b loggerSection).lookup "tls-rp-ports".toList =
        some (HostTable.toSection b.tlsRpDestProvider) ∧
      (sectionMaps b loggerSection).lookup "tcp-rp-ports".toList =
        some (Routes.toSection b.tcpRpDestProvider) ∧
      (sectionMaps b loggerSection).lookup "ssh-tarpit".toList = some (tarpitSection b) ∧
      (sectionMaps b loggerSection).lookup "logger".toList = some loggerSection := by
  simp (disch := decide) only [sectionMaps,AList.lookup_insert_ne,AList.lookup_insert,and_self]

theorem readMaps_of_loads {path : Option Str} (h : Loads env path b log) :
    ∃ configMap, (fresh path).readMaps .std env configMap = .ok (b,log) := by
  obtain ⟨printLevel,hprint⟩ := h.printLevel
  obtain ⟨logfileLevel,hfile⟩ := h.logfileLevel
  let configMap := sectionMaps b (loggerSection log printLevel logfileLevel)
  obtain ⟨hdefault,htls,htcp,htarpit,hlogger⟩ :=
    lookup_sectionMaps (b := b) (loggerSection log printLevel logfileLevel)
  have hroutes : RoutesFrom .std configMap b.tcpRpDestProvider := by
    rw [RoutesFrom,htcp]
    exact Routes.read_lines h.routes 5
  obtain ⟨hips,haddrs⟩ := addresses_read (b := b)
  have hloaded : ∃ log', (fresh path).readMaps .std env configMap = .ok (b,log') := by
    refine (readMaps_ok .std env).mpr ⟨_,_,_,builder .std path (defaultSection b)
      (HostTable.toSection b.tlsRpDestProvider) b.bindAddresses b.loadBalancerAddrs b.tcpRpDestProvider,
      hdefault,hips,haddrs,?_,?_⟩
    · rw [← remaining,tlsStage_builder .std path htls]
      exact (tcpStage_ok .std rfl).mpr ⟨b.tcpRpDestProvider,hroutes,rfl⟩
    · rw [builder_reads h,tarpitStage,htarpit]
      exact (tarpitSection_reads b
        { b with sshTarpitMaxConnections := 0,sshTarpitBannerRepeatTime := 10 }).symm
  obtain ⟨log',hread⟩ := hloaded
  have hlog : log' = log := by
    rw [readMaps_log .std env hread,loggerStage,hlogger]
    exact loggerSection_reads hprint hfile
  exact ⟨configMap,hlog ▸ hread⟩

end Writes

theorem loadable_iff (env : LogEnvironment) (debugAssertions : Bool) (config : Option Str)
    (b : ConfigBuilder) (log : LoggerConfig) :
    (∃ configMap, (ConfigBuilder.new.getOpts debugAssertions config).readMaps .std env configMap =
        .ok (b,log)) ↔
      Loads env (if debugAssertions then some "resources/config/config.ini".toList else config)
        b log := by
  constructor
  · rintro ⟨configMap,h⟩
    exact loads_of_readMaps h
  · exact readMaps_of_loads

end Loadable

end RustyValve
