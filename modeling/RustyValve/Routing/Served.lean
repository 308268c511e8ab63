import RustyValve.Failover
import RustyValve.System

namespace RustyValve

def Destination.port : Destination → Option UInt16
  | portOnly port => some port
  | socket addr => some addr.port
  | portAndAddrs port _ => some port
  | internalService _ => none

def Destination.namedIps : Destination → Option (List IpAddr)
  | socket addr => some [addr.ip]
  | portAndAddrs _ addrs => some addrs
  | _ => none

namespace Routing

-- The destination that the tables give a connection: by the name in its own bytes, or by the
-- port of the listener that accepted it.
inductive RouteOf (hosts : HostTable) (routes : List Route) (listening : Listening)
    (acceptor : Acceptor) : Client → Destination → Prop where
  | tls {listener : ℕ} {received headerPeek bodyPeek : List UInt8} {name : Str}
      {res : PossibleDestinations} (hlistener : listener < listening.tlsHttpRp.listeners.length)
      (hheader : headerPeek <+: received) (hbody : bodyPeek <+: received)
      (hname : nameCheck acceptor listening.tlsHttpRp.connectionSettings (.arrived headerPeek)
        (.arrived bodyPeek) = some name)
      (hres : hosts[name]? = some res) :
      RouteOf hosts routes listening acceptor ⟨.tls listener,received,[headerPeek,bodyPeek]⟩
        res.destination
  | tcp {listener : ℕ} {received : List UInt8} {tcpListener : TcpListener} {route : Route}
      (hlistener : listening.tcpRp.listeners[listener]? = some (tcpListener,route))
      (hroute : route ∈ routes) (hport : tcpListener.localAddr.port = route.1) :
      RouteOf hosts routes listening acceptor ⟨.tcp listener,received,[]⟩ route.2.destination

structure Served (machines : Machines) (destination : Destination) (addr : SocketAddr) : Prop where
  port : destination.port = some addr.port
  configured : addr.ip ∈ machines
  named : ∀ ips, destination.namedIps = some ips → addr.ip ∈ ips

def targets : Handling → List SocketAddr
  | .looping port _ backendList => Run.sockets port backendList
  | .connecting port _ socketAddr backendList => socketAddr :: Run.sockets port backendList
  | .connectingOnly _ socketAddr => [socketAddr]
  | .returned _ _ => []

section Targets

theorem connect_backend (outcome : ConnectOutcome) (inner : ConnectionInner)
    (socketAddr : SocketAddr) :
    ∀ b ∈ (DestinationMachine.connect outcome inner socketAddr).2, b.backend = socketAddr := by
  cases inner with
  | quic => simp [DestinationMachine.connect]
  | tcp stream => cases outcome <;> simp [DestinationMachine.connect]

theorem sockets_of_getLast {backends : List (IpAddr × DestinationMachine)} {ip : IpAddr}
    {machine : DestinationMachine} (h : backends.getLast? = some (ip,machine)) (port : UInt16) :
    Run.sockets port backends = Run.sockets port backends.dropLast ++ [⟨ip,port⟩] := by
  obtain ⟨front,rfl⟩ := List.getLast?_eq_some_iff.mp h
  simp [Run.sockets]

variable (outcome : SocketAddr → ConnectOutcome)

theorem step_targets (point : Handling) :
    (∀ a ∈ targets (point.step outcome).1, a ∈ targets point) ∧
      ∀ b ∈ (point.step outcome).2, b.backend ∈ targets point := by
  cases point with
  | looping port innerOpt backends =>
    cases hg : backends.getLast? with
    | none => simp [Handling.step,hg,targets]
    | some backend =>
      obtain ⟨ip,machine⟩ := backend
      cases innerOpt with
      | none => simp [Handling.step,hg,targets]
      | some inner => simp [Handling.step,hg,targets,sockets_of_getLast hg,or_comm]
  | connecting port inner socketAddr backends =>
    have hb := connect_backend (outcome socketAddr) inner socketAddr
    rcases hc : DestinationMachine.connect (outcome socketAddr) inner socketAddr with ⟨left,bridge⟩
    rw [hc] at hb
    cases left with
    | none => simpa [Handling.step,hc,targets] using fun b hm => .inl (hb b hm)
    | some inner =>
      simp only [Handling.step,hc,targets,List.mem_cons]
      exact ⟨fun a ha => .inr ha,fun b hm => .inl (hb b hm)⟩
  | connectingOnly inner socketAddr =>
    have hb := connect_backend (outcome socketAddr) inner socketAddr
    rcases hc : DestinationMachine.connect (outcome socketAddr) inner socketAddr with ⟨left,bridge⟩
    rw [hc] at hb
    simpa [Handling.step,hc,targets] using hb
  | returned attempt innerOpt => simp [Handling.step,targets]

theorem served_eligible {machines : Machines} {providedIp : Option (List IpAddr)} {port : UInt16}
    {order : List (IpAddr × DestinationMachine)} (h : order.Perm (eligible providedIp machines)) :
    ∀ a ∈ Run.sockets port order.reverse, Served machines (.overMachines port providedIp) a := by
  intro a ha
  obtain ⟨rfl,hi⟩ := (Run.mem_sockets port).mp ha
  rw [List.map_reverse,List.mem_reverse,List.mem_map] at hi
  obtain ⟨⟨ip,machine⟩,hp,rfl⟩ := hi
  obtain ⟨hm,hips⟩ := mem_eligible.mp (h.mem_iff.mp hp)
  refine ⟨by cases providedIp <;> rfl,?_,fun ips hn => hips ips ?_⟩
  · exact Std.ExtTreeMap.mem_iff_isSome_getElem?.mpr (by simp [hm])
  · cases providedIp with
    | none => simp [Destination.overMachines,Destination.namedIps] at hn
    | some addrs => exact hn

theorem dispatch_targets {machines : Machines} {conn : ForwardedConnection}
    {order : List (IpAddr × DestinationMachine)}
    (h : order.Perm (eligible conn.destination.providedIp machines)) :
    ∀ a ∈ targets (dispatch (fun _ => order) conn machines), Served machines conn.destination a := by
  unfold dispatch
  cases hd : conn.destination with
  | portOnly port =>
    rw [hd] at h
    exact @served_eligible machines none port order h
  | portAndAddrs port addrs =>
    rw [hd] at h
    exact @served_eligible machines (some addrs) port order h
  | internalService service => simp [targets]
  | socket socketAddr =>
    cases hm : machines[socketAddr.ip]? with
    | none => simp [hm,targets]
    | some machine =>
      simp only [hm,targets,List.mem_singleton]
      rintro a rfl
      refine ⟨rfl,Std.ExtTreeMap.mem_iff_isSome_getElem?.mpr (by simp [hm]),fun ips hn => ?_⟩
      rw [← Option.some.inj hn]
      exact List.mem_singleton.mpr rfl

end Targets

end Routing

end RustyValve
