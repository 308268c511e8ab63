import RustyValve.Balance
import RustyValve.Defaults
import RustyValve.InternalRoutes

namespace RustyValve

namespace Serving

open Binding Loading Startup

section Launched
variable {outcomes : BindOutcomes} {b : ConfigBuilder}

def listening (b : ConfigBuilder) : Listening where
  tlsHttpRp := ⟨(tlsAddrs (bindSettings b)).map TcpListener.mk,⟨b.connectionSettings,b.connTlsChMax⟩,
    b.tlsRpDestProvider,forwardTable⟩
  tcpRp := ⟨opened b.bindAddresses b.tcpRpDestProvider,b.connectionSettings,forwardTable⟩

def serving (b : ConfigBuilder) : Running :=
  ⟨.ok (listening b),⟨Balance.configured b.loadBalancerAddrs⟩⟩

theorem listens_listening {l : Listening}
    (h : Listens outcomes (tlsHandler b forwardTable) (tcpHandler b forwardTable) (bindSettings b) l) :
    l = listening b := by
  obtain ⟨attempt,attempt',bound,hb,hl⟩ := h
  rw [both_bind] at hb
  cases htls : (tlsHandler b forwardTable).bind outcomes (bindSettings b) attempt with
  | error e => simp [htls] at hb
  | ok p =>
    cases htcp : (tcpHandler b forwardTable).bind outcomes (bindSettings b) p.2 with
    | error e => simp [htls,htcp] at hb
    | ok q =>
      simp only [htls,htcp,Except.ok.injEq,Prod.mk.injEq] at hb
      obtain ⟨rfl,-⟩ := hb
      obtain rfl := Except.ok.inj hl
      rw [tls_bound_listeners htls,tcp_bound_handler htcp]
      rfl

variable (outcomes) in
structure Serves (b : ConfigBuilder) : Prop where
  balances : b.loadBalancerAddrs ≠ []
  hosts : b.tlsRpDestProvider.isEmpty = false
  routes : b.tcpRpDestProvider ≠ []
  addresses : b.bindAddresses ≠ []
  ports : b.tlsRpListenPort ≠ []
  bound : AllBind outcomes 0 (boundAddrs b)

theorem launch_of_serves (h : Serves outcomes b) : launch outcomes b = .ok (serving b) := by
  have hne : tlsAddrs (bindSettings b) ≠ [] := fun he =>
    (tlsAddrs_eq_nil.mp he).elim h.ports h.addresses
  obtain ⟨tls,tcp,attempt,hok⟩ := listeners_bind_of_allBind outcomes hne h.bound
  have hl : (⟨tls,tcp⟩ : Listening) = listening b := listens_listening ⟨0,attempt,_,hok,rfl⟩
  rw [launch_with_listeners outcomes (by rw [h.hosts]; decide) h.routes,hok]
  simp only [Server.run,server,balancer,h.balances,if_false,ListenerInner.listen,hl]
  rfl

theorem serves_of_launch {running : Running} (h : launch outcomes b = .ok running) :
    Serves outcomes b := by
  by_cases hl : b.tlsRpDestProvider.isEmpty ∨ b.tcpRpDestProvider = []
  · obtain ⟨e,he⟩ := launch_without_listener outcomes hl
    rw [he] at h
    cases h
  · obtain ⟨ht,hr⟩ := not_or.mp hl
    rw [launch_with_listeners outcomes ht hr] at h
    by_cases hb : tlsAddrs (bindSettings b) = [] ∨ ¬ AllBind outcomes 0 (boundAddrs b)
    · obtain ⟨e,he⟩ := listeners_bind_fails outcomes hb
      rw [he] at h
      cases h
    · obtain ⟨hne,hall⟩ := not_or.mp hb
      obtain ⟨hports,haddrs⟩ := not_or.mp (fun hn => hne (tlsAddrs_eq_nil.mpr hn))
      obtain ⟨tls,tcp,attempt,hok⟩ := listeners_bind_of_allBind outcomes hne (not_not.mp hall)
      refine ⟨fun hlb => ?_,Bool.eq_false_iff.mpr ht,hr,haddrs,hports,not_not.mp hall⟩
      rw [hok] at h
      simp [Server.run,server,balancer,hlb] at h

theorem launch_ok_iff {running : Running} :
    launch outcomes b = .ok running ↔ Serves outcomes b ∧ running = serving b := by
  constructor
  · intro h
    have hs := serves_of_launch h
    rw [launch_of_serves hs] at h
    exact ⟨hs,(Except.ok.inj h).symm⟩
  · rintro ⟨hs,rfl⟩
    exact launch_of_serves hs

end Launched

section Maps
variable (parse : FromStr)

def fallback (defaultMap : Section) : Destination :=
  (defaultMap.takeOptValue (TryFromConfig.destination parse)
    "fallback-tls-destination-port".toList).1.getD (.portOnly 4443)

structure Provides (outcomes : BindOutcomes) (configMap : SectionMaps)
    (defaultMap tlsRpMap tcpRpMap : Section) (ips addrs : List IpAddr) (routes : List Route) :
    Prop where
  default : configMap.lookup "rusty-valve".toList = some defaultMap
  tlsRp : configMap.lookup "tls-rp-ports".toList = some tlsRpMap
  tcpRp : configMap.lookup "tcp-rp-ports".toList = some tcpRpMap
  addresses : (defaultMap.takeMultiValue (TryFromConfig.ipAddr parse)
    "bind-addresses".toList).1 = .ok ips
  listens : ips ≠ []
  destinations : (defaultMap.takeMultiValue (TryFromConfig.ipAddr parse)
    "destination-addresses".toList).1 = .ok addrs
  balances : addrs ≠ []
  hosts : tlsRpMap.entries ≠ []
  ports : listenPorts parse defaultMap ≠ []
  read : tcpRpMap.entries.mapM (route parse) = some routes
  routed : routes ≠ []
  bound : AllBind outcomes 0
    (tlsAddrs ⟨ips,listenPorts parse defaultMap⟩ ++ triedAddrs ips (routes.map Prod.fst))

-- Every listening port is taken on every address, the port of a route on the first address only.
def provided (defaultMap tlsRpMap : Section) (ips addrs : List IpAddr) (routes : List Route) :
    Running where
  listeners := .ok {
    tlsHttpRp := ⟨(listenPorts parse defaultMap ×ˢ ips).map (fun p => ⟨⟨p.2,p.1⟩⟩),⟨⟨5⟩,16358⟩,
      ConfigBuilder.insertHosts parse (fallback parse defaultMap) tlsRpMap ∅,forwardTable⟩
    tcpRp := ⟨opened ips routes,⟨5⟩,forwardTable⟩ }
  loadBalancer := ⟨Balance.configured addrs⟩

def fresh (path : Option Str) : ConfigBuilder :=
  { ConfigBuilder.default with configFilePath := path }

def builder (path : Option Str) (defaultMap tlsRpMap : Section) (ips addrs : List IpAddr)
    (routes : List Route) : ConfigBuilder :=
  { fresh path with
    bindAddresses := ips
    tlsRpDestProvider := ConfigBuilder.insertHosts parse (fallback parse defaultMap) tlsRpMap ∅
    fallbackTlsDestinationPort := fallback parse defaultMap
    tlsRpListenPort := listenPorts parse defaultMap
    tcpRpDestProvider := routes
    loadBalancerAddrs := addrs }

variable (path : Option Str) {outcomes : BindOutcomes} {configMap : SectionMaps}
  {defaultMap tlsRpMap tcpRpMap : Section} {ips addrs : List IpAddr} {routes : List Route}

theorem serving_builder :
    serving (builder parse path defaultMap tlsRpMap ips addrs routes) =
      provided parse defaultMap tlsRpMap ips addrs routes := by
  simp [serving,listening,builder,provided,tlsAddrs,bindSettings,TlsRpHandler.socketAddr,fresh,
    ConfigBuilder.default,Function.comp_def]

theorem serving_tarpitStage (b : ConfigBuilder) : serving (tarpitStage configMap b) = serving b := by
  unfold tarpitStage
  cases configMap.lookup "ssh-tarpit".toList <;> rfl

theorem serves_tarpitStage {b : ConfigBuilder} :
    Serves outcomes (tarpitStage configMap b) ↔ Serves outcomes b := by
  unfold tarpitStage
  cases configMap.lookup "ssh-tarpit".toList with
  | none => rfl
  | some m => exact ⟨fun h => ⟨h.1,h.2,h.3,h.4,h.5,h.6⟩,fun h => ⟨h.1,h.2,h.3,h.4,h.5,h.6⟩⟩

theorem fallback_remaining (defaultMap : Section) :
    ((remaining defaultMap).takeOptValue (TryFromConfig.destination parse)
      "fallback-tls-destination-port".toList).1.getD (.portOnly 4443) = fallback parse defaultMap := by
  simp (disch := decide) only [fallback,remaining,Section.takeOptValue,AList.lookup_erase_ne]

theorem tlsStage_builder (htls : configMap.lookup "tls-rp-ports".toList = some tlsRpMap) :
    tlsStage parse configMap (remaining defaultMap)
        { fresh path with bindAddresses := ips,loadBalancerAddrs := addrs } =
      builder parse path defaultMap tlsRpMap ips addrs [] := by
  simp only [tlsStage,htls,ConfigBuilder.takeTlsRp,builder,← listenPorts_erase parse defaultMap,
    ← fallback_remaining parse defaultMap]
  rfl

theorem serves_builder_iff (hd : configMap.lookup "rusty-valve".toList = some defaultMap)
    (htls : configMap.lookup "tls-rp-ports".toList = some tlsRpMap)
    (htcp : configMap.lookup "tcp-rp-ports".toList = some tcpRpMap)
    (hi : (defaultMap.takeMultiValue (TryFromConfig.ipAddr parse) "bind-addresses".toList).1 = .ok ips)
    (ha : (defaultMap.takeMultiValue (TryFromConfig.ipAddr parse)
      "destination-addresses".toList).1 = .ok addrs)
    (hm : tcpRpMap.entries.mapM (route parse) = some routes) :
    Serves outcomes (builder parse path defaultMap tlsRpMap ips addrs routes) ↔
      Provides parse outcomes configMap defaultMap tlsRpMap tcpRpMap ips addrs routes := by
  have hhosts : (ConfigBuilder.insertHosts parse (fallback parse defaultMap) tlsRpMap ∅).isEmpty =
      false ↔ tlsRpMap.entries ≠ [] := by
    rw [insertHosts_isEmpty]
    simp
  constructor
  · intro h
    exact ⟨hd,htls,htcp,hi,h.addresses,ha,h.balances,hhosts.mp h.hosts,h.ports,hm,h.routes,h.bound⟩
  · intro h
    exact ⟨h.balances,hhosts.mpr h.hosts,h.routed,h.listens,h.ports,h.bound⟩

theorem readMaps_launch_iff (env : LogEnvironment) {running : Running} :
    (∃ b log, (fresh path).readMaps parse env configMap = .ok (b,log) ∧
        launch outcomes b = .ok running) ↔
      ∃ defaultMap tlsRpMap tcpRpMap ips addrs routes,
        Provides parse outcomes configMap defaultMap tlsRpMap tcpRpMap ips addrs routes ∧
        running = provided parse defaultMap tlsRpMap ips addrs routes := by
  constructor
  · rintro ⟨b,log,hb,hrun⟩
    obtain ⟨hs,rfl⟩ := launch_ok_iff.mp hrun
    obtain ⟨defaultMap,ips,addrs,b2,hd,hi,ha,ht,rfl⟩ := (readMaps_ok parse env).mp ⟨log,hb⟩
    rw [serves_tarpitStage] at hs
    rw [serving_tarpitStage]
    cases htls : configMap.lookup "tls-rp-ports".toList with
    | none =>
      rw [tlsStage_none parse htls] at ht
      obtain ⟨routes,-,rfl⟩ := (tcpStage_ok parse rfl).mp ht
      have hh := hs.hosts
      simp [fresh,ConfigBuilder.default] at hh
    | some tlsRpMap =>
      rw [← remaining,tlsStage_builder parse path htls] at ht
      obtain ⟨routes,hr,rfl⟩ := (tcpStage_ok parse rfl).mp ht
      obtain ⟨tcpRpMap,htcp,hm⟩ := hr.section_of_ne_nil parse hs.routes
      exact ⟨defaultMap,tlsRpMap,tcpRpMap,ips,addrs,routes,
        (serves_builder_iff parse path hd htls htcp hi ha hm).mp hs,serving_builder parse path⟩
  · rintro ⟨defaultMap,tlsRpMap,tcpRpMap,ips,addrs,routes,h,rfl⟩
    have hr : RoutesFrom parse configMap routes := by
      rw [RoutesFrom,h.tcpRp]
      exact h.read
    have ht : tcpStage parse configMap (tlsStage parse configMap (remaining defaultMap)
        { fresh path with bindAddresses := ips,loadBalancerAddrs := addrs }) =
        .ok (builder parse path defaultMap tlsRpMap ips addrs routes) := by
      rw [tlsStage_builder parse path h.tlsRp]
      exact (tcpStage_ok parse rfl).mpr ⟨routes,hr,rfl⟩
    obtain ⟨log,hb⟩ := (readMaps_ok parse env).mpr
      ⟨defaultMap,ips,addrs,_,h.default,h.addresses,h.destinations,ht,rfl⟩
    refine ⟨_,log,hb,launch_ok_iff.mpr ⟨serves_tarpitStage.mpr ?_,?_⟩⟩
    · exact (serves_builder_iff parse path h.default h.tlsRp h.tcpRp h.addresses h.destinations
        h.read).mpr h
    · rw [serving_tarpitStage]
      exact (serving_builder parse path).symm

theorem getIniConfig_fresh (env : LogEnvironment) {load : Str → Except Str SectionMaps}
    {debugAssertions : Bool} {config : Option Str} {path : Str}
    (hpath : (ConfigBuilder.new.getOpts debugAssertions config).configFilePath = some path)
    (hload : load path = .ok configMap) :
    (ConfigBuilder.new.getOpts debugAssertions config).getIniConfig parse env load =
      (fresh (some path)).readMaps parse env configMap := by
  have hb : ConfigBuilder.new.getOpts debugAssertions config = fresh (some path) := by
    rw [← hpath]
    rfl
  rw [hb]
  simp only [ConfigBuilder.getIniConfig,fresh,hload]

theorem start_of_provides (env : LogEnvironment) {load : Str → Except Str SectionMaps}
    {debugAssertions : Bool} {config : Option Str} {path : Str}
    (hpath : (ConfigBuilder.new.getOpts debugAssertions config).configFilePath = some path)
    (hload : load path = .ok configMap)
    (h : Provides parse outcomes configMap defaultMap tlsRpMap tcpRpMap ips addrs routes) :
    start parse env load outcomes (ConfigBuilder.new.getOpts debugAssertions config) =
      .ok (provided parse defaultMap tlsRpMap ips addrs routes) := by
  obtain ⟨b,log,hr,hlaunch⟩ := (readMaps_launch_iff parse (some path) env).mpr
    ⟨defaultMap,tlsRpMap,tcpRpMap,ips,addrs,routes,h,rfl⟩
  rw [start_eq,getIniConfig_fresh parse env hpath hload,hr]
  exact hlaunch

theorem provides_of_start {env : LogEnvironment} {load : Str → Except Str SectionMaps}
    {debugAssertions : Bool} {config : Option Str} {running : Running}
    (h : start parse env load outcomes (ConfigBuilder.new.getOpts debugAssertions config) =
      .ok running) :
    ∃ path configMap defaultMap tlsRpMap tcpRpMap ips addrs routes,
      (if debugAssertions then some "resources/config/config.ini".toList else config) = some path ∧
      load path = .ok configMap ∧
      Provides parse outcomes configMap defaultMap tlsRpMap tcpRpMap ips addrs routes ∧
      running = provided parse defaultMap tlsRpMap ips addrs routes := by
  rw [start_eq] at h
  cases hp : (ConfigBuilder.new.getOpts debugAssertions config).configFilePath with
  | none => simp [ConfigBuilder.getIniConfig,hp] at h
  | some path =>
    cases hl : load path with
    | error e => simp [ConfigBuilder.getIniConfig,hp,hl] at h
    | ok configMap =>
      rw [getIniConfig_fresh parse env hp hl] at h
      cases hr : (fresh (some path)).readMaps parse env configMap with
      | error e => simp [hr] at h
      | ok p =>
        rw [hr] at h
        obtain ⟨defaultMap,tlsRpMap,tcpRpMap,ips,addrs,routes,hprov,hrun⟩ :=
          (readMaps_launch_iff parse (some path) env).mp ⟨p.1,p.2,hr,h⟩
        exact ⟨path,configMap,defaultMap,tlsRpMap,tcpRpMap,ips,addrs,routes,hp,hl,hprov,hrun⟩

def logFile (configMap : SectionMaps) : Option Str :=
  ((configMap.lookup "logger".toList).bind (fun logMap => logMap.lookup "log-file".toList)).join

theorem loggerStage_logPath (env : LogEnvironment) (configMap : SectionMaps) :
    (loggerStage env configMap).logPath = logFile configMap := by
  rw [loggerStage,logFile]
  cases configMap.lookup "logger".toList with
  | none => rfl
  | some logMap =>
    simp only [ConfigBuilder.takeLogger,Section.takeOptValue,Option.bind_some]
    cases logMap.lookup "log-file".toList with
    | none => rfl
    | some value => cases value <;> rfl

theorem getIniConfig_logPath {env : LogEnvironment} {load : Str → Except Str SectionMaps}
    {debugAssertions : Bool} {config : Option Str} {path : Str}
    (hpath : (ConfigBuilder.new.getOpts debugAssertions config).configFilePath = some path)
    (hload : load path = .ok configMap) {b : ConfigBuilder} {log : LoggerConfig}
    (h : (ConfigBuilder.new.getOpts debugAssertions config).getIniConfig parse env load =
      .ok (b,log)) : log.logPath = logFile configMap := by
  rw [getIniConfig_fresh parse env hpath hload] at h
  rw [readMaps_log parse env h,loggerStage_logPath]

theorem main_of_provides (env : LogEnvironment) {load : Str → Except Str SectionMaps}
    {files : LogFiles} {debugAssertions : Bool} {config : Option Str} {path : Str}
    (hpath : (ConfigBuilder.new.getOpts debugAssertions config).configFilePath = some path)
    (hload : load path = .ok configMap)
    (hlog : ∀ logPath, logFile configMap = some logPath → LogOpens files logPath)
    (h : Provides parse outcomes configMap defaultMap tlsRpMap tcpRpMap ips addrs routes) :
    main parse env load files outcomes (ConfigBuilder.new.getOpts debugAssertions config) =
      .ok (provided parse defaultMap tlsRpMap ips addrs routes) := by
  refine (main_ok_iff outcomes parse env load files _).mpr
    ⟨start_of_provides parse env hpath hload h,fun b log hini => ?_⟩
  rw [getIniConfig_logPath parse hpath hload hini]
  exact hlog

theorem provides_of_main {env : LogEnvironment} {load : Str → Except Str SectionMaps}
    {files : LogFiles} {debugAssertions : Bool} {config : Option Str} {running : Running}
    (h : main parse env load files outcomes (ConfigBuilder.new.getOpts debugAssertions config) =
      .ok running) :
    ∃ path configMap defaultMap tlsRpMap tcpRpMap ips addrs routes,
      (if debugAssertions then some "resources/config/config.ini".toList else config) = some path ∧
      load path = .ok configMap ∧
      (∀ logPath, logFile configMap = some logPath → LogOpens files logPath) ∧
      Provides parse outcomes configMap defaultMap tlsRpMap tcpRpMap ips addrs routes ∧
      running = provided parse defaultMap tlsRpMap ips addrs routes := by
  obtain ⟨hstart,hlog⟩ := (main_ok_iff outcomes parse env load files _).mp h
  obtain ⟨path,configMap,defaultMap,tlsRpMap,tcpRpMap,ips,addrs,routes,hp,hl,hprov,hrun⟩ :=
    provides_of_start parse hstart
  obtain ⟨⟨b,log⟩,hini⟩ := InternalRoutes.start_loads hstart
  refine ⟨path,configMap,defaultMap,tlsRpMap,tcpRpMap,ips,addrs,routes,hp,hl,?_,hprov,hrun⟩
  rw [← getIniConfig_logPath parse hp hl hini]
  exact hlog b log hini

theorem server_comes_up_iff (env : LogEnvironment) (load : Str → Except Str SectionMaps)
    (files : LogFiles) (outcomes : BindOutcomes) (debugAssertions : Bool) (config : Option Str)
    (running : Running) :
    main parse env load files outcomes (ConfigBuilder.new.getOpts debugAssertions config) =
        .ok running ↔
      ∃ path configMap defaultMap tlsRpMap tcpRpMap ips addrs routes,
        (if debugAssertions then some "resources/config/config.ini".toList else config) = some path ∧
        load path = .ok configMap ∧
        (∀ logPath, logFile configMap = some logPath → LogOpens files logPath) ∧
        Provides parse outcomes configMap defaultMap tlsRpMap tcpRpMap ips addrs routes ∧
        running = provided parse defaultMap tlsRpMap ips addrs routes := by
  constructor
  · exact provides_of_main parse
  · rintro ⟨path,configMap,defaultMap,tlsRpMap,tcpRpMap,ips,addrs,routes,hp,hl,hlog,hprov,rfl⟩
    exact main_of_provides parse env hp hl hlog hprov

end Maps

section Started
variable {parse : FromStr} {env : LogEnvironment} {load : Str → Except Str SectionMaps}
  {outcomes : BindOutcomes} {configBuilder : ConfigBuilder} {l : Listening} {lb : LoadBalancer}

theorem start_serving (h : start parse env load outcomes configBuilder = .ok ⟨.ok l,lb⟩) :
    ∃ b log, configBuilder.getIniConfig parse env load = .ok (b,log) ∧ l = listening b ∧
      lb.machines = Balance.configured b.loadBalancerAddrs := by
  obtain ⟨⟨b,log⟩,hini⟩ := InternalRoutes.start_loads h
  rw [start_eq,hini] at h
  obtain ⟨-,hr⟩ := launch_ok_iff.mp h
  obtain ⟨hl,rfl⟩ := Running.mk.inj hr
  exact ⟨b,log,hini,Except.ok.inj hl,rfl⟩

theorem listening_listensTo (b : ConfigBuilder) :
    Routing.ListensTo b.tlsRpDestProvider b.tcpRpDestProvider (listening b) :=
  ⟨rfl,fun _ hp => mem_opened hp⟩

-- Its routes are those of the listeners that it has.
theorem listening_listensToOwn (b : ConfigBuilder) :
    Routing.ListensTo (listening b).tlsHttpRp.destinationProvider
      ((listening b).tcpRp.listeners.map Prod.snd) (listening b) :=
  ⟨rfl,fun p hp => ⟨List.mem_map_of_mem hp,((listening_listensTo b).ports p hp).2⟩⟩

end Started

section Example

def proxyFile : SectionMaps :=
  ((AList.singleton "rusty-valve".toList InternalRoutes.defaultSection).insert
    "tls-rp-ports".toList hostSection).insert "tcp-rp-ports".toList portSection

def mailRoute : Route := (465,.withoutElse (.portOnly 2100))

theorem proxyFile_provides : Provides .std (fun _ _ => none) proxyFile InternalRoutes.defaultSection
    hostSection portSection [Routing.loopback] [Routing.loopback] [mailRoute] where
  default := rfl
  tlsRp := rfl
  tcpRp := rfl
  addresses := by decide +kernel
  listens := by decide
  destinations := by decide +kernel
  balances := by decide
  hosts := by decide
  ports := by decide
  read := by decide
  routed := by decide
  bound := allBind_of_none _ (fun _ _ => rfl) 0 _

def startProxy : Except Failure Running :=
  start .std .silent (fun _ => .ok proxyFile) (fun _ _ => none) (ConfigBuilder.new.getOpts true none)

theorem startProxy_provided : startProxy = .ok (provided .std InternalRoutes.defaultSection
    hostSection [Routing.loopback] [Routing.loopback] [mailRoute]) :=
  start_of_provides .std .silent rfl rfl proxyFile_provides

theorem hostSection_external {name : Str} {res : PossibleDestinations}
    (h : (ConfigBuilder.insertHosts .std (fallback .std InternalRoutes.defaultSection) hostSection
      ∅)[name]? = some res) : res = .withoutElse (.portOnly 1337) := by
  rw [insertHosts_getElem?,Std.ExtTreeMap.getElem?_empty,Option.or_none,
    Option.map_eq_some_iff] at h
  obtain ⟨value,hv,rfl⟩ := h
  have hm : (⟨name,value⟩ : Sigma fun _ : Str => Option Str) ∈ hostSection.entries :=
    AList.mem_lookup_iff.mp hv
  obtain rfl : value = some "1337".toList := eq_of_heq (Sigma.mk.inj (List.mem_singleton.mp hm)).2
  decide

def twoVisits : List Action :=
  [.acceptTls 0 ⟨Routing.loopback,40000⟩,.arrive 0 (Utf8.encode "Host: localhost:80\r\n".toList),
    .peek 0 200,.peek 0 200,.acceptTcp 0 ⟨Routing.loopback,40001⟩,.send 1,.send 0]

theorem ordinary_routes_kept : ∃ b log listening lb s,
    (ConfigBuilder.new.getOpts true none).getIniConfig .std .silent (fun _ => .ok proxyFile) =
      .ok (b,log) ∧
    startProxy = .ok ⟨.ok listening,lb⟩ ∧
    Execution.run (System.step listening Routing.noHello) (System.initial lb.machines) twoVisits =
      some s ∧
    s.queue.map (·.destination) = [.portOnly 2100,.portOnly 1337] ∧
    ∀ pre u, pre <+: twoVisits →
      Execution.run (System.step listening Routing.noHello) (System.initial lb.machines) pre =
        some u →
      InternalRoutes.KeptFromBalancer b.tlsRpDestProvider b.tcpRpDestProvider listening
        Routing.noHello u := by
  obtain ⟨b,log,hini,-,-⟩ := start_serving startProxy_provided
  refine ⟨b,log,_,_,_,hini,startProxy_provided,rfl,rfl,?_⟩
  refine (InternalRoutes.internal_routes_kept_iff .std .silent _ _ hini startProxy_provided
    Routing.noHello twoVisits _ rfl).mpr (fun _ action _ u _ _ => ?_)
  refine InternalRoutes.routes_externally (fun name res hres => ?_) (by decide) u action
  rw [hostSection_external hres]
  rfl

-- The web client is bridged, another dropped; of two mail clients one is received and one queued,
-- and a third web client is being inspected.
def busy : List Action :=
  [.acceptTls 0 ⟨Routing.loopback,40000⟩,.arrive 0 (Utf8.encode "Host: localhost:80\r\n".toList),
    .peek 0 200,.peek 0 200,.send 0,.receive,.start 0 [(Routing.loopback,.new 1)],
    .proceed 0 .refused,.proceed 0 .accepted,.finish 0,.acceptTls 0 ⟨Routing.loopback,40001⟩,
    .arrive 1 (Utf8.encode "Host: elsewhere:80\r\n".toList),.peek 0 200,.peek 0 200,
    .acceptTcp 0 ⟨Routing.loopback,40002⟩,.send 0,.receive,.acceptTcp 0 ⟨Routing.loopback,40003⟩,
    .send 0,.acceptTls 0 ⟨Routing.loopback,40004⟩]

end Example

end Serving

end RustyValve
