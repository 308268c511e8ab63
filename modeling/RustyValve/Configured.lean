import RustyValve.LiveRoutes
import RustyValve.Loads
import RustyValve.LoadingOrder

namespace RustyValve

namespace Configured

open Binding Loading Routing LiveRoutes Serving
open Channel (Forwards)

section File
variable (parse : FromStr) (acceptor : Acceptor) (listening : Listening)
  (defaultMap tlsRpMap tcpRpMap : Section)

-- The destination that the lines of the file give a client: the line of the name in its own bytes,
-- or the line of the port that it came to.
inductive Written : Client → Destination → Prop where
  | tls {listener : ℕ} {received headerPeek bodyPeek : List UInt8} {name : Str} {value : Option Str}
      (hlistener : listener < listening.tlsHttpRp.listeners.length)
      (hheader : headerPeek <+: received) (hbody : bodyPeek <+: received)
      (hname : nameCheck acceptor listening.tlsHttpRp.connectionSettings (.arrived headerPeek)
        (.arrived bodyPeek) = some name)
      (hline : ⟨name,value⟩ ∈ tlsRpMap.entries) :
      Written ⟨.tls listener,received,[headerPeek,bodyPeek]⟩
        (ConfigBuilder.destinationOr parse (fallback parse defaultMap) value).destination
  | tcp {listener : ℕ} {received : List UInt8} {ip : IpAddr} {port : UInt16} {text : Str}
      {value : Option Str}
      (hlistener : listening.tcpRp.listeners[listener]? =
        some (⟨⟨ip,port⟩⟩,(port,ConfigBuilder.destinationOr parse (.portOnly port) value)))
      (hline : ⟨text,value⟩ ∈ tcpRpMap.entries) (hport : parse.u16 text = some port) :
      Written ⟨.tcp listener,received,[]⟩
        (ConfigBuilder.destinationOr parse (.portOnly port) value).destination

structure Allowed (addrs : List IpAddr) (destination : Destination) (a : SocketAddr) : Prop where
  port : destination.port = some a.port
  listed : a.ip ∈ addrs
  named : ∀ ips, destination.namedIps = some ips → a.ip ∈ ips

variable {parse acceptor listening defaultMap tlsRpMap tcpRpMap} {outcomes : BindOutcomes}
  {configMap : SectionMaps} {ips addrs : List IpAddr} {routes : List Route} {lb : LoadBalancer}

theorem provided_listensTo
    (hl : ⟨.ok listening,lb⟩ = provided parse defaultMap tlsRpMap ips addrs routes) :
    ListensTo (ConfigBuilder.insertHosts parse (fallback parse defaultMap) tlsRpMap ∅) routes
      listening := by
  obtain ⟨hlistening,-⟩ := Running.mk.inj hl
  obtain rfl := Except.ok.inj hlistening
  exact ⟨rfl,fun _ hp => mem_opened hp⟩

theorem provided_forwards
    (hl : ⟨.ok listening,lb⟩ = provided parse defaultMap tlsRpMap ips addrs routes) :
    Forwards listening := by
  obtain ⟨hlistening,-⟩ := Running.mk.inj hl
  obtain rfl := Except.ok.inj hlistening
  exact ⟨rfl,rfl⟩

theorem host_line {fallback : Destination} {name : Str} {res : PossibleDestinations} :
    (ConfigBuilder.insertHosts parse fallback tlsRpMap ∅)[name]? = some res ↔ ∃ value,
      ⟨name,value⟩ ∈ tlsRpMap.entries ∧ ConfigBuilder.destinationOr parse fallback value = res := by
  rw [insertHosts_getElem?,Std.ExtTreeMap.getElem?_empty,Option.or_none,Option.map_eq_some_iff]
  simp only [← Option.mem_def,AList.mem_lookup_iff]

theorem route_line {e : Sigma fun _ : Str => Option Str} {r : Route} :
    route parse e = some r ↔ ∃ port, parse.u16 e.1 = some port ∧
      r = (port,ConfigBuilder.destinationOr parse (.portOnly port) e.2) := by
  rw [route,Option.map_eq_some_iff]
  simp only [eq_comm]

theorem written_iff (hl : ListensTo
      (ConfigBuilder.insertHosts parse (fallback parse defaultMap) tlsRpMap ∅) routes listening)
    (hread : tcpRpMap.entries.mapM (route parse) = some routes) {client : Client}
    {destination : Destination} :
    Written parse acceptor listening defaultMap tlsRpMap tcpRpMap client destination ↔
      RouteOf (ConfigBuilder.insertHosts parse (fallback parse defaultMap) tlsRpMap ∅) routes listening
        acceptor client destination := by
  constructor
  · intro h
    cases h with
    | tls hlistener hheader hbody hname hline =>
      exact .tls hlistener hheader hbody hname (host_line.mpr ⟨_,hline,rfl⟩)
    | tcp hlistener =>
      exact @RouteOf.tcp _ _ _ _ _ _ _ _ hlistener
        (hl.ports _ (List.mem_of_getElem? hlistener)).1 rfl
  · intro h
    cases h with
    | tls hlistener hheader hbody hname hres =>
      obtain ⟨value,hline,rfl⟩ := host_line.mp hres
      exact .tls hlistener hheader hbody hname hline
    | @tcp listener received tcpListener r hlistener hroute hport =>
      obtain ⟨⟨text,value⟩,hline,he⟩ := Traversal.mem_of_mapM_eq_some hread hroute
      obtain ⟨port,hp,rfl⟩ := route_line.mp he
      obtain ⟨⟨ip,port'⟩⟩ := tcpListener
      obtain rfl : port' = port := hport
      exact .tcp hlistener hline hp

theorem served_iff {destination : Destination} {a : SocketAddr} :
    Served (Balance.configured addrs) destination a ↔ Allowed addrs destination a := by
  have hmem : a.ip ∈ Balance.configured addrs ↔ a.ip ∈ addrs := by
    rw [← Std.ExtTreeMap.isSome_getElem?_iff_mem,Loads.configured_getElem?]
    by_cases hi : a.ip ∈ addrs <;> simp [hi]
  exact ⟨fun h => ⟨h.port,hmem.mp h.configured,h.named⟩,fun h => ⟨h.port,hmem.mpr h.listed,h.named⟩⟩

end File

section Server
variable {parse : FromStr} {env : LogEnvironment} {load : Str → Except Str SectionMaps}
  {outcomes : BindOutcomes} {debugAssertions : Bool} {config : Option Str} {listening : Listening}
  {lb : LoadBalancer}

theorem file_decides_bridges (hstart : start parse env load outcomes
      (ConfigBuilder.new.getOpts debugAssertions config) = .ok ⟨.ok listening,lb⟩) :
    ∃ path configMap defaultMap tlsRpMap tcpRpMap ips addrs routes,
      (if debugAssertions then some "resources/config/config.ini".toList else config) = some path ∧
      load path = .ok configMap ∧
      Provides parse outcomes configMap defaultMap tlsRpMap tcpRpMap ips addrs routes ∧
      ⟨.ok listening,lb⟩ = provided parse defaultMap tlsRpMap ips addrs routes ∧
      ∀ acceptor s,
        Execution.Reachable (System.step listening acceptor) (System.initial lb.machines) s →
          (∀ bridge ∈ s.bridges ++ s.closed, ∃ client destination,
            s.accepted[bridge.stream]? = some client ∧
            Written parse acceptor listening defaultMap tlsRpMap tcpRpMap client destination ∧
            Allowed addrs destination bridge.backend) ∧
          (s.receiverOpen = true → ∀ sort client a,
            LiveRoutes.Serves sort listening acceptor s client a ↔ ∃ destination,
              Written parse acceptor listening defaultMap tlsRpMap tcpRpMap client destination ∧
              Allowed addrs destination a) := by
  obtain ⟨path,configMap,defaultMap,tlsRpMap,tcpRpMap,ips,addrs,routes,hpath,hload,hprov,hrun⟩ :=
    provides_of_start parse hstart
  have hl := provided_listensTo hrun
  have hm : lb.machines = Balance.configured addrs := by
    obtain ⟨-,rfl⟩ := Running.mk.inj hrun
    rfl
  refine ⟨path,configMap,defaultMap,tlsRpMap,tcpRpMap,ips,addrs,routes,hpath,hload,hprov,hrun,?_⟩
  intro acceptor s hs
  rw [hm] at hs
  constructor
  · intro bridge hb
    obtain ⟨client,destination,hc,hr,hserved⟩ := bridge_routed (inv_reachable hl hs) hb
    exact ⟨client,destination,hc,(written_iff hl hprov.read).mpr hr,served_iff.mp hserved⟩
  · intro hopen sort client a
    obtain ⟨b,-,-,rfl,-⟩ := start_serving hstart
    rw [serves_iff hl (provided_forwards hrun) (Draining.listening_roomy b) hs hopen]
    simp only [written_iff hl hprov.read,served_iff]

theorem written_destination {acceptor : Acceptor} {defaultMap : Section} {client : Client}
    {destination : Destination} (h : Written .std acceptor listening defaultMap Startup.hostSection
      Startup.portSection client destination) :
    destination = .portOnly 1337 ∨ destination = .portOnly 2100 := by
  cases h with
  | tls _ _ _ _ hline =>
    cases List.mem_singleton.mp hline
    exact .inl rfl
  | tcp _ hline hport =>
    cases List.mem_singleton.mp hline
    cases hport
    exact .inr rfl

theorem proxyFile_bridges : ∃ listening lb, startProxy = .ok ⟨.ok listening,lb⟩ ∧ ∀ acceptor s,
    Execution.Reachable (System.step listening acceptor) (System.initial lb.machines) s →
      ∀ bridge ∈ s.bridges ++ s.closed, bridge.backend = ⟨loopback,1337⟩ ∨
        bridge.backend = ⟨loopback,2100⟩ := by
  refine ⟨_,_,startProxy_provided,fun acceptor s hs bridge hb => ?_⟩
  obtain ⟨_,configMap,defaultMap,tlsRpMap,tcpRpMap,_,addrs,_,-,hload,hprov,-,hall⟩ :=
    file_decides_bridges startProxy_provided
  obtain rfl : proxyFile = configMap := Except.ok.inj hload
  obtain rfl : Startup.hostSection = tlsRpMap := Option.some.inj hprov.tlsRp
  obtain rfl : Startup.portSection = tcpRpMap := Option.some.inj hprov.tcpRp
  obtain rfl : InternalRoutes.defaultSection = defaultMap := Option.some.inj hprov.default
  obtain rfl : [loopback] = addrs :=
    Except.ok.inj (proxyFile_provides.destinations.symm.trans hprov.destinations)
  obtain ⟨_,destination,-,hw,ha⟩ := (hall acceptor s hs).1 bridge hb
  obtain ⟨stream,⟨ip,port⟩⟩ := bridge
  obtain rfl : ip = loopback := List.mem_singleton.mp ha.listed
  rcases written_destination hw with rfl | rfl
  · obtain rfl : 1337 = port := Option.some.inj ha.port
    exact .inl rfl
  · obtain rfl : 2100 = port := Option.some.inj ha.port
    exact .inr rfl

end Server

end Configured

end RustyValve
