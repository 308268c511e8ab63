import RustyValve.Binding
import RustyValve.Loading

namespace RustyValve

namespace Startup

open Binding Loading

section Launch
variable (outcomes : BindOutcomes)

def launch (b : ConfigBuilder) : Except Failure Running := do
  let config ← orErr b.build
  let server ← orErr (Server.new config)
  let bindSettings ← unwrap config.bindSettings
  let (boundServer,_) ← orErr (server.bind outcomes bindSettings 0)
  boundServer.run

theorem start_eq (parse : FromStr) (env : LogEnvironment) (load : Str → Except Str SectionMaps)
    (b : ConfigBuilder) :
    start parse env load outcomes b = match b.getIniConfig parse env load with
      | .error e => .error (.err e)
      | .ok p => launch outcomes p.1 := by
  simp only [start,launch]
  cases b.getIniConfig parse env load <;> rfl

theorem main_ok_iff (parse : FromStr) (env : LogEnvironment) (load : Str → Except Str SectionMaps)
    (files : LogFiles) (b : ConfigBuilder) {running : Running} :
    main parse env load files outcomes b = .ok running ↔
      start parse env load outcomes b = .ok running ∧
        ∀ b' log, b.getIniConfig parse env load = .ok (b',log) →
          ∀ path, log.logPath = some path → LogOpens files path := by
  rw [start_eq]
  cases hg : b.getIniConfig parse env load with
  | error e => simp [main,hg,orErr,bind,Except.bind]
  | ok p =>
    obtain ⟨b',log⟩ := p
    have hmain : main parse env load files outcomes b = match initLogger files log with
        | .error e => .error e
        | .ok _ => launch outcomes b' := by
      simp only [main,hg]
      change (initLogger files log).bind (fun _ => launch outcomes b') = _
      cases initLogger files log <;> rfl
    have hopens : (∀ b'' log', (.ok (b',log) : Except Error _) = .ok (b'',log') →
        ∀ path, log'.logPath = some path → LogOpens files path) ↔
          ∃ guard, initLogger files log = .ok guard := by
      rw [initLogger_ok_iff]
      simp
    rw [hmain,hopens]
    cases initLogger files log <;> simp

def Settled : Except Failure Running → Prop
  | .error (.err _) => True
  | .error (.panicked _) => False
  | .ok running => ∃ listening, running.listeners = .ok listening

def tlsHandler (b : ConfigBuilder) (table : ServiceForwardTable) : TlsRpHandler :=
  ⟨⟨b.connectionSettings,b.connTlsChMax⟩,b.tlsRpDestProvider,table⟩

def tcpHandler (b : ConfigBuilder) (table : ServiceForwardTable) : SimpleTcpHandler :=
  ⟨b.connectionSettings,b.tcpRpDestProvider,table⟩

def forwardTable : ServiceForwardTable := ⟨(∅ : Std.ExtTreeMap InternalService Sender).insert
  .loadBalancer ⟨50⟩⟩

def bindSettings (b : ConfigBuilder) : BindSettings := ⟨b.bindAddresses,b.tlsRpListenPort⟩

theorem add_loadBalancer :
    ServiceForwardTableBuilder.new.add .loadBalancer ⟨50⟩ = .ok ⟨forwardTable.inner⟩ := by
  simp [ServiceForwardTableBuilder.new,ServiceForwardTableBuilder.add,forwardTable]

def balancer (addrs : List IpAddr) : Option LoadBalancer :=
  if addrs = [] then none
  else some ⟨addrs.foldl (fun machines ipAddr => machines.insert ipAddr (.new 1)) ∅⟩

def listeners (b : ConfigBuilder) : ListenerInner :=
  .unbound ⟨some (tlsHandler b forwardTable),some (tcpHandler b forwardTable)⟩

def server (b : ConfigBuilder) (inner : ListenerInner) : Server :=
  ⟨inner,b.serverSettings,[],forwardTable,balancer b.loadBalancerAddrs⟩

theorem listeners_new (config : Config) (table : ServiceForwardTable) :
    ListenerInner.new config table =
      match config.tlsRpConfig,config.tcpRpConfig with
      | some tls,some tcp => .ok (.unbound
          ⟨some ⟨tls.connectionSettings,tls.destinationProvider,table⟩,
            some ⟨tcp.connectionSettings,tcp.destinationProvider,table⟩⟩)
      | _,_ => .error (.anyhow "nothing to listen on".toList) := by
  cases ht : config.tlsRpConfig <;> cases hr : config.tcpRpConfig <;>
    simp only [ListenerInner.new,ht,hr] <;> rfl

theorem balancer_new (addrs : List IpAddr) :
    (if !addrs.isEmpty then some (LoadBalancerConfig.mk addrs) else none).mapM LoadBalancer.new =
      Except.ok (balancer addrs) := by
  cases addrs <;> rfl

theorem server_new {config : Config} {settings : ServerSettings}
    {lb : Option LoadBalancer} (hs : config.serverSettings = some settings)
    (hlb : config.loadBalancerConfig.mapM LoadBalancer.new = .ok lb) :
    Server.new config = (ListenerInner.new config forwardTable).map
      (fun inner => ⟨inner,settings,[],forwardTable,lb⟩) := by
  simp only [Server.new,hlb,add_loadBalancer,bind,Except.bind,hs,ServiceForwardTableBuilder.build]
  cases ListenerInner.new config forwardTable <;> rfl

theorem server_new_refused {b : ConfigBuilder} {config : Config} (hbuild : b.build = .ok config)
    (h : b.tlsRpDestProvider.isEmpty ∨ b.tcpRpDestProvider = []) :
    Server.new config = .error (.anyhow "nothing to listen on".toList) := by
  obtain rfl := Except.ok.inj hbuild
  rw [server_new rfl (balancer_new _),listeners_new]
  rcases h with h | h
  · simp [h,Except.map]
  · cases b.tlsRpDestProvider.isEmpty <;> simp [h,Except.map]

theorem server_new_built {b : ConfigBuilder} {config : Config} (hbuild : b.build = .ok config)
    (ht : ¬ b.tlsRpDestProvider.isEmpty) (hr : b.tcpRpDestProvider ≠ []) :
    Server.new config = .ok (server b (listeners b)) := by
  obtain rfl := Except.ok.inj hbuild
  rw [server_new rfl (balancer_new _),listeners_new]
  have hr' : b.tcpRpDestProvider.isEmpty = false := by simpa using hr
  simp only [ht,hr',Bool.not_false,if_true,Except.map,server,listeners,tlsHandler,tcpHandler]

theorem launch_without_listener {b : ConfigBuilder}
    (h : b.tlsRpDestProvider.isEmpty ∨ b.tcpRpDestProvider = []) :
    ∃ e, launch outcomes b = .error (.err e) := by
  refine ⟨.anyhow "nothing to listen on".toList,?_⟩
  simp only [launch,ConfigBuilder.build,orErr,bind,Except.bind]
  rw [server_new_refused rfl h]

theorem launch_with_listeners {b : ConfigBuilder} (ht : ¬ b.tlsRpDestProvider.isEmpty)
    (hr : b.tcpRpDestProvider ≠ []) :
    launch outcomes b = match (listeners b).bind outcomes (bindSettings b) 0 with
      | .error e => .error (.err e)
      | .ok p => (server b p.1).run := by
  simp only [launch,ConfigBuilder.build,orErr,bind,Except.bind]
  rw [server_new_built rfl ht hr]
  simp only [unwrap,Server.bind,bind,StateT.bind,server,bindSettings]
  generalize ListenerInner.bind outcomes _ _ 0 = bound
  cases bound <;> rfl

def boundAddrs (b : ConfigBuilder) : List SocketAddr :=
  tlsAddrs (bindSettings b) ++ triedAddrs b.bindAddresses (b.tcpRpDestProvider.map Prod.fst)

theorem listeners_bind_of_allBind {b : ConfigBuilder} (hne : tlsAddrs (bindSettings b) ≠ [])
    (h : AllBind outcomes 0 (boundAddrs b)) :
    ∃ tls tcp attempt, (listeners b).bind outcomes (bindSettings b) 0 =
      .ok (.bound ⟨some tls,some tcp⟩,attempt) := by
  obtain ⟨htls,htcp⟩ := (allBind_append outcomes _ _ _).mp h
  obtain ⟨attempt,hb⟩ := tcp_bind_of_allBind outcomes (tcpHandler b forwardTable) (bindSettings b) htcp
  rw [listeners,both_bind,tls_bind_of_allBind outcomes _ hne htls]
  simp only [hb]
  exact ⟨_,_,_,rfl⟩

theorem listeners_bind_fails {b : ConfigBuilder}
    (h : tlsAddrs (bindSettings b) = [] ∨ ¬ AllBind outcomes 0 (boundAddrs b)) :
    ∃ e, (listeners b).bind outcomes (bindSettings b) 0 = .error e := by
  rw [listeners,both_bind]
  by_cases hne : tlsAddrs (bindSettings b) = []
  · obtain ⟨e,he⟩ := tls_bind_nothing outcomes (tlsHandler b forwardTable) 0 hne
    exact ⟨e,by rw [he]⟩
  · by_cases htls : AllBind outcomes 0 (tlsAddrs (bindSettings b))
    · rw [boundAddrs,allBind_append] at h
      have htcp := fun htcp => (h.resolve_left hne) ⟨htls,htcp⟩
      obtain ⟨e,he⟩ := tcp_bind_of_not_allBind outcomes (tcpHandler b forwardTable) (bindSettings b)
        htcp
      rw [tls_bind_of_allBind outcomes _ hne htls]
      exact ⟨e,by simp only [he]⟩
    · obtain ⟨e,he⟩ := tls_bind_of_not_allBind outcomes (tlsHandler b forwardTable) htls
      exact ⟨e,by rw [he]⟩

structure Unbalanced (b : ConfigBuilder) : Prop where
  balancer : b.loadBalancerAddrs = []
  hosts : b.tlsRpDestProvider.isEmpty = false
  routes : b.tcpRpDestProvider ≠ []
  addresses : b.bindAddresses ≠ []
  ports : b.tlsRpListenPort ≠ []
  bound : AllBind outcomes 0 (boundAddrs b)

theorem launch_settled_iff (b : ConfigBuilder) :
    Settled (launch outcomes b) ↔ ¬ Unbalanced outcomes b := by
  by_cases hl : b.tlsRpDestProvider.isEmpty ∨ b.tcpRpDestProvider = []
  · obtain ⟨e,he⟩ := launch_without_listener outcomes hl
    rw [he]
    refine iff_of_true trivial (fun h => ?_)
    rcases hl with hl | hl
    · rw [h.hosts] at hl
      cases hl
    · exact h.routes hl
  · obtain ⟨ht,hr⟩ := not_or.mp hl
    rw [launch_with_listeners outcomes ht hr]
    by_cases hb : tlsAddrs (bindSettings b) = [] ∨ ¬ AllBind outcomes 0 (boundAddrs b)
    · obtain ⟨e,he⟩ := listeners_bind_fails outcomes hb
      rw [he]
      refine iff_of_true trivial (fun h => ?_)
      rcases hb with hb | hb
      · exact (tlsAddrs_eq_nil.mp hb).elim h.ports h.addresses
      · exact hb h.bound
    · obtain ⟨hne,hall⟩ := not_or.mp hb
      obtain ⟨tls,tcp,attempt,hok⟩ := listeners_bind_of_allBind outcomes hne (not_not.mp hall)
      obtain ⟨hports,haddrs⟩ := not_or.mp (fun h => hne (tlsAddrs_eq_nil.mpr h))
      rw [hok]
      cases hlb : b.loadBalancerAddrs with
      | nil =>
        refine iff_of_false ?_ (not_not.mpr
          ⟨hlb,Bool.eq_false_iff.mpr ht,hr,haddrs,hports,not_not.mp hall⟩)
        simp [Server.run,server,balancer,hlb,Settled]
      | cons ip ips =>
        refine iff_of_true ?_ (fun h => ?_)
        · simp only [Server.run,server,balancer,hlb,List.cons_ne_nil,if_false,ListenerInner.listen]
          exact ⟨_,rfl⟩
        · rw [h.balancer] at hlb
          cases hlb

end Launch

section Maps
variable (parse : FromStr)

structure NoDestinations (outcomes : BindOutcomes) (defaultMap tlsRpMap tcpRpMap : Section)
    (ips : List IpAddr) (tcpPorts : List UInt16) : Prop where
  addresses : (defaultMap.takeMultiValue (TryFromConfig.ipAddr parse)
    "bind-addresses".toList).1 = .ok ips
  listens : ips ≠ []
  destinations : (defaultMap.takeMultiValue (TryFromConfig.ipAddr parse)
    "destination-addresses".toList).1 = .ok []
  hosts : tlsRpMap.entries ≠ []
  ports : listenPorts parse defaultMap ≠ []
  routes : tcpRpMap.entries ≠ []
  sourcePorts : tcpRpMap.keys.mapM parse.u16 = some tcpPorts
  bound : AllBind outcomes 0 (tlsAddrs ⟨ips,listenPorts parse defaultMap⟩ ++ triedAddrs ips tcpPorts)

def LacksBalancer (outcomes : BindOutcomes) (configMap : SectionMaps) : Prop :=
  ∃ defaultMap tlsRpMap tcpRpMap ips tcpPorts,
    configMap.lookup "rusty-valve".toList = some defaultMap ∧
    configMap.lookup "tls-rp-ports".toList = some tlsRpMap ∧
    configMap.lookup "tcp-rp-ports".toList = some tcpRpMap ∧
    NoDestinations parse outcomes defaultMap tlsRpMap tcpRpMap ips tcpPorts

theorem tarpitStage_unbalanced (outcomes : BindOutcomes) (configMap : SectionMaps)
    (b : ConfigBuilder) :
    Unbalanced outcomes (tarpitStage configMap b) ↔ Unbalanced outcomes b := by
  unfold tarpitStage
  cases configMap.lookup "ssh-tarpit".toList with
  | none => rfl
  | some m => exact ⟨fun h => ⟨h.1,h.2,h.3,h.4,h.5,h.6⟩,fun h => ⟨h.1,h.2,h.3,h.4,h.5,h.6⟩⟩

theorem unbalanced_iff_noDestinations (outcomes : BindOutcomes) {b : ConfigBuilder}
    {defaultMap tlsRpMap tcpRpMap : Section} {ips : List IpAddr} {routes : List Route}
    (hi : (defaultMap.takeMultiValue (TryFromConfig.ipAddr parse) "bind-addresses".toList).1 = .ok ips)
    (ha : (defaultMap.takeMultiValue (TryFromConfig.ipAddr parse)
      "destination-addresses".toList).1 = .ok b.loadBalancerAddrs)
    (hm : tcpRpMap.entries.mapM (route parse) = some routes)
    (fallback : Destination) :
    Unbalanced outcomes { b with
        bindAddresses := ips
        fallbackTlsDestinationPort := fallback
        tlsRpListenPort := listenPorts parse defaultMap
        tlsRpDestProvider := ConfigBuilder.insertHosts parse fallback tlsRpMap ∅
        tcpRpDestProvider := routes } ↔
      NoDestinations parse outcomes defaultMap tlsRpMap tcpRpMap ips (routes.map Prod.fst) := by
  have hs : tcpRpMap.keys.mapM parse.u16 = some (routes.map Prod.fst) := by
    rw [AList.keys,sourcePorts_eq,hm]
    rfl
  have hr := routes_eq_nil_iff parse hm
  constructor
  · intro h
    refine ⟨hi,h.addresses,by rw [ha,h.balancer],?_,h.ports,fun he => h.routes (hr.mpr he),hs,h.bound⟩
    have hh := h.hosts
    rw [insertHosts_isEmpty] at hh
    simpa using hh
  · intro h
    refine ⟨Except.ok.inj (ha.symm.trans h.destinations),?_,fun he => h.routes (hr.mp he),
      h.listens,h.ports,h.bound⟩
    rw [insertHosts_isEmpty]
    simpa using h.hosts

theorem readMaps_unbalanced_iff (outcomes : BindOutcomes) (env : LogEnvironment)
    (configMap : SectionMaps) {b : ConfigBuilder} (hb : Fresh b) :
    (∃ b',(∃ log, b.readMaps parse env configMap = .ok (b',log)) ∧ Unbalanced outcomes b') ↔
      LacksBalancer parse outcomes configMap := by
  simp only [readMaps_ok]
  constructor
  · rintro ⟨b',⟨defaultMap,ips,addrs,b2,hl,hi,ha,ht,rfl⟩,hu⟩
    rw [tarpitStage_unbalanced] at hu
    cases htls : configMap.lookup "tls-rp-ports".toList with
    | none =>
      rw [tlsStage_none parse htls] at ht
      obtain ⟨routes,-,rfl⟩ := (tcpStage_ok parse (by exact hb.noRoutes)).mp ht
      have hh := hu.hosts
      simp [hb.noHosts] at hh
    | some tlsRpMap =>
      obtain ⟨fallback,hf⟩ := tlsStage_some parse htls
        (b := { b with bindAddresses := ips,loadBalancerAddrs := addrs })
        ⟨hb.noHosts,hb.noRoutes,hb.defaultPorts⟩ defaultMap
      rw [← remaining,hf] at ht
      obtain ⟨routes,hr,rfl⟩ := (tcpStage_ok parse (by exact hb.noRoutes)).mp ht
      obtain ⟨tcpRpMap,htcp,hm⟩ := hr.section_of_ne_nil parse hu.routes
      exact ⟨defaultMap,tlsRpMap,tcpRpMap,ips,_,hl,htls,htcp,
        (unbalanced_iff_noDestinations parse outcomes (b := { b with loadBalancerAddrs := addrs })
          hi ha hm fallback).mp hu⟩
  · rintro ⟨defaultMap,tlsRpMap,tcpRpMap,ips,ports,hl,htls,htcp,hn⟩
    obtain ⟨fallback,hf⟩ := tlsStage_some parse htls
      (b := { b with bindAddresses := ips,loadBalancerAddrs := [] })
      ⟨hb.noHosts,hb.noRoutes,hb.defaultPorts⟩ defaultMap
    have hs := hn.sourcePorts
    rw [AList.keys,sourcePorts_eq,Option.map_eq_some_iff] at hs
    obtain ⟨routes,hm,rfl⟩ := hs
    have hr : RoutesFrom parse configMap routes := by
      rw [RoutesFrom,htcp]
      exact hm
    have ht := (tcpStage_ok parse (b := tlsStage parse configMap (remaining defaultMap)
      { b with bindAddresses := ips,loadBalancerAddrs := [] })
      (by rw [hf]; exact hb.noRoutes)).mpr ⟨routes,hr,rfl⟩
    refine ⟨_,⟨defaultMap,ips,[],_,hl,hn.addresses,hn.destinations,ht,rfl⟩,?_⟩
    rw [tarpitStage_unbalanced,hf]
    exact (unbalanced_iff_noDestinations parse outcomes (b := { b with loadBalancerAddrs := [] })
      hn.addresses hn.destinations hm fallback).mpr hn

theorem start_settled_iff (env : LogEnvironment) (load : Str → Except Str SectionMaps)
    (outcomes : BindOutcomes) {b : ConfigBuilder} (hb : Fresh b) :
    Settled (start parse env load outcomes b) ↔
      ¬ ∃ path configMap,b.configFilePath = some path ∧ load path = .ok configMap ∧
        LacksBalancer parse outcomes configMap := by
  rw [start_eq]
  cases hp : b.configFilePath with
  | none => simp [ConfigBuilder.getIniConfig,hp,Settled]
  | some path =>
    cases hl : load path with
    | error e => simp [ConfigBuilder.getIniConfig,hp,hl,Settled]
    | ok configMap =>
      have hg : b.getIniConfig parse env load = b.readMaps parse env configMap := by
        simp only [ConfigBuilder.getIniConfig,hp,hl]
      have hc : (∃ path' configMap',some path = some path' ∧ load path' = .ok configMap' ∧
          LacksBalancer parse outcomes configMap') ↔ LacksBalancer parse outcomes configMap := by
        simp [hl]
      rw [hg,hc,← readMaps_unbalanced_iff parse outcomes env configMap hb]
      cases hr : b.readMaps parse env configMap with
      | error e => simp [Settled]
      | ok p =>
        obtain ⟨b',log⟩ := p
        simp only [launch_settled_iff,Except.ok.injEq,Prod.mk.injEq,exists_and_left,exists_eq',
          and_true,exists_eq_left']

theorem startup_settles_iff (env : LogEnvironment) (load : Str → Except Str SectionMaps)
    (outcomes : BindOutcomes) (debugAssertions : Bool) (config : Option Str) :
    Settled (start parse env load outcomes (ConfigBuilder.new.getOpts debugAssertions config)) ↔
      ¬ ∃ path configMap,
        (ConfigBuilder.new.getOpts debugAssertions config).configFilePath = some path ∧
        load path = .ok configMap ∧ LacksBalancer parse outcomes configMap :=
  start_settled_iff parse env load outcomes (new_fresh debugAssertions config)

def boundSection : Section :=
  (AList.singleton "bind-addresses".toList (some "127.0.0.1".toList)).insert
    "tls-rp-listen-port".toList (some "4443".toList)

def hostSection : Section := AList.singleton "localhost".toList (some "1337".toList)

def portSection : Section := AList.singleton "465".toList (some "2100".toList)

-- A file that leaves out the optional destination-addresses.
def withoutDestinations : SectionMaps :=
  ((AList.singleton "rusty-valve".toList boundSection).insert
    "tls-rp-ports".toList hostSection).insert "tcp-rp-ports".toList portSection

theorem withoutDestinations_lacks_balancer :
    LacksBalancer FromStr.std (fun _ _ => none) withoutDestinations := by
  refine ⟨boundSection,hostSection,portSection,[.v4 0x7F000001#32],[465],rfl,rfl,rfl,?_⟩
  exact {
    addresses := by decide +kernel
    listens := by decide
    destinations := by decide
    hosts := by decide
    ports := by decide
    routes := by decide
    sourcePorts := by decide
    bound := allBind_of_none _ (fun _ _ => rfl) 0 _ }

theorem startup_without_destinations_panics :
    ¬ Settled (start FromStr.std ⟨fun _ => none,none,true⟩ (fun _ => .ok withoutDestinations)
      (fun _ _ => none) (ConfigBuilder.new.getOpts true none)) := by
  rw [start_settled_iff FromStr.std _ _ _ (new_fresh true none),not_not]
  exact ⟨_,_,rfl,rfl,withoutDestinations_lacks_balancer⟩

end Maps

end Startup

end RustyValve
