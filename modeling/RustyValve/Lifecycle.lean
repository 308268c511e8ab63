import RustyValve.AcceptLoop
import RustyValve.Custody.Trades
import RustyValve.Library.Proxying

namespace RustyValve

namespace Lifecycle

open Custody Routing
open Exchange (each Swaps)
open Relation (ReflGen ReflTransGen)

section Untried

def untried : Handling → List SocketAddr
  | .looping port _ backendList => (Run.sockets port backendList).reverse
  | .connecting port _ socketAddr backendList =>
    socketAddr :: (Run.sockets port backendList).reverse
  | .connectingOnly _ socketAddr => [socketAddr]
  | .returned _ _ => []

theorem untried_attempt (connInner : ConnectionInner) (port : UInt16)
    (order : List (IpAddr × DestinationMachine)) :
    untried (attemptConnections connInner port order.reverse) = Run.sockets port order := by
  simp [untried,attemptConnections,Run.sockets]

variable {machines : Machines} {order : List (IpAddr × DestinationMachine)}

theorem served_overMachines {port : UInt16} {providedIp : Option (List IpAddr)} {a : SocketAddr} :
    Served machines (.overMachines port providedIp) a ↔
      a.port = port ∧ MayTry machines providedIp a.ip := by
  have hmem : a.ip ∈ machines ↔ ∃ machine, machines[a.ip]? = some machine := by
    rw [Std.ExtTreeMap.mem_iff_isSome_getElem?,Option.isSome_iff_exists]
  constructor
  · intro h
    have hp := h.port
    have hn := h.named
    cases providedIp with
    | none => exact ⟨(Option.some.inj hp).symm,hmem.mp h.configured,fun ips hi => by cases hi⟩
    | some addrs => exact ⟨(Option.some.inj hp).symm,hmem.mp h.configured,hn⟩
  · rintro ⟨rfl,hc,hn⟩
    cases providedIp with
    | none => exact ⟨rfl,hmem.mpr hc,fun ips hi => by cases hi⟩
    | some addrs => exact ⟨rfl,hmem.mpr hc,hn⟩

theorem sockets_served {port : UInt16} {providedIp : Option (List IpAddr)}
    (h : order.Perm (eligible providedIp machines)) (a : SocketAddr) :
    a ∈ Run.sockets port order ↔ Served machines (.overMachines port providedIp) a := by
  rw [Run.mem_sockets,order_keys h,served_overMachines]

theorem served_socket {socketAddr a : SocketAddr} :
    Served machines (.socket socketAddr) a ↔ a = socketAddr ∧ socketAddr.ip ∈ machines := by
  constructor
  · intro h
    have hp : socketAddr.port = a.port := Option.some.inj h.port
    have hi : a.ip = socketAddr.ip := List.mem_singleton.mp (h.named _ rfl)
    have ha : a = socketAddr := by
      obtain ⟨ip,port⟩ := a
      obtain rfl : ip = socketAddr.ip := hi
      obtain rfl : socketAddr.port = port := hp
      rfl
    exact ⟨ha,ha ▸ h.configured⟩
  · rintro ⟨rfl,hc⟩
    refine ⟨rfl,hc,fun ips hn => ?_⟩
    obtain rfl := Option.some.inj hn
    exact List.mem_singleton_self _

structure Candidates (machines : Machines) (destination : Destination) (l : List SocketAddr) :
    Prop where
  nodup : l.Nodup
  served : ∀ a, a ∈ l ↔ Served machines destination a

theorem candidates_overMachines {port : UInt16} {providedIp : Option (List IpAddr)}
    (h : order.Perm (eligible providedIp machines)) (inner : ConnectionInner) :
    Candidates machines (.overMachines port providedIp)
      (untried (attemptConnections inner port order.reverse)) := by
  rw [untried_attempt]
  exact ⟨Run.sockets_nodup port h,sockets_served h⟩

theorem dispatch_candidates {conn : ForwardedConnection}
    (h : order.Perm (eligible conn.destination.providedIp machines)) :
    Candidates machines conn.destination (untried (dispatch (fun _ => order) conn machines)) := by
  unfold dispatch
  cases hd : conn.destination with
  | portOnly port =>
    rw [hd] at h
    exact @candidates_overMachines _ _ port none h conn.inner
  | portAndAddrs port addrs =>
    rw [hd] at h
    exact @candidates_overMachines _ _ port (some addrs) h conn.inner
  | internalService service =>
    refine ⟨List.nodup_nil,fun a => iff_of_false List.not_mem_nil (fun hs => ?_)⟩
    exact absurd hs.port (by simp [Destination.port])
  | socket socketAddr =>
    cases hm : machines[socketAddr.ip]? with
    | none =>
      have hc : socketAddr.ip ∉ machines := by
        rw [Std.ExtTreeMap.mem_iff_isSome_getElem?,hm]
        simp
      simp only [hm,untried]
      exact ⟨List.nodup_nil,fun a => iff_of_false List.not_mem_nil
        (fun hs => hc (served_socket.mp hs).2)⟩
    | some machine =>
      have hc : socketAddr.ip ∈ machines :=
        Std.ExtTreeMap.mem_iff_isSome_getElem?.mpr (by simp [hm])
      simp only [hm,untried]
      exact ⟨List.nodup_singleton _,fun a => by
        rw [served_socket,List.mem_singleton,and_iff_left hc]⟩

section Step
variable (outcome : SocketAddr → ConnectOutcome) {stream : StreamId}

theorem connect_stream {inner : ConnectionInner} (h : stream ∈ inner.streams)
    (result : ConnectOutcome) (a : SocketAddr) :
    DestinationMachine.connect result inner a =
      if result = .accepted then (none,some ⟨stream,a⟩) else (some inner,none) := by
  cases inner with
  | quic => cases h
  | tcp other =>
    obtain rfl := List.mem_singleton.mp h
    cases result <;> rfl

-- Where a stream is after a step of its handling: still there, with the same addresses left or one
-- fewer, or bridged to the address that came next.
inductive Steps (point next : Handling) (bridge : Option Bridge) (stream : StreamId) : Prop where
  | keeps (hs : stream ∈ pointStreams next) (hu : untried next = untried point)
      (hp : point.attempt = none)
  | refused (a : SocketAddr) (ha : outcome a ≠ .accepted) (hs : stream ∈ pointStreams next)
      (hu : untried point = a :: untried next) (hp : point.attempt = some a)
  | connected (a : SocketAddr) (rest : List SocketAddr) (ha : outcome a = .accepted)
      (hu : untried point = a :: rest) (hb : bridge = some ⟨stream,a⟩)
      (hp : point.attempt = some a)

theorem step_steps {point : Handling} (h : stream ∈ pointStreams point) :
    Steps outcome point (point.step outcome).1 (point.step outcome).2 stream := by
  cases point with
  | looping port innerOpt backends =>
    cases hg : backends.getLast? with
    | none =>
      obtain rfl := List.getLast?_eq_none_iff.mp hg
      exact .keeps h rfl rfl
    | some backend =>
      obtain ⟨ip,machine⟩ := backend
      cases innerOpt with
      | none => cases h
      | some inner =>
        refine .keeps ?_ ?_ rfl
        · simpa [Handling.step,hg,pointStreams] using h
        · simp [Handling.step,hg,untried,sockets_of_getLast hg]
  | connecting port inner a backends =>
    have hs : stream ∈ inner.streams := by simpa [pointStreams] using h
    have hc := connect_stream hs (outcome a) a
    by_cases ha : outcome a = .accepted
    · rw [if_pos ha] at hc
      simp only [Handling.step,hc]
      exact .connected a _ ha rfl rfl rfl
    · rw [if_neg ha] at hc
      simp only [Handling.step,hc]
      exact .refused a ha (by simpa [pointStreams] using hs) rfl rfl
  | connectingOnly inner a =>
    have hs : stream ∈ inner.streams := by simpa [pointStreams] using h
    have hc := connect_stream hs (outcome a) a
    by_cases ha : outcome a = .accepted
    · rw [if_pos ha] at hc
      simp only [Handling.step,hc]
      exact .connected a _ ha rfl rfl rfl
    · rw [if_neg ha] at hc
      simp only [Handling.step,hc]
      exact .refused a ha (by simpa [pointStreams] using hs) rfl rfl
  | returned attempt innerOpt => exact .keeps h rfl rfl

end Step

end Untried

abbrev Stage := Proxy.Stage Inspection Destination SocketAddr

def proxy (listening : Listening) (machines : Machines) :
    Proxy Inspection Destination SocketAddr where
  opens i j := i = .header ∧ ∃ recordHeader, j = .body recordHeader
  names i d := (∃ recordHeader, i = .body recordHeader) ∧
    ∃ (name : Str) (res : PossibleDestinations),
      listening.tlsHttpRp.destinationProvider[name]? = some res ∧ res.destination = d
  serves := Served machines

def stage : Holder → Stage
  | .inspecting task => .inspected task.stage
  | .sending task => .waiting task.conn.destination
  | .queued conn => .queued conn.destination
  | .handling (.received conn) => .received conn.destination
  | .handling (.running destination point) => .trying destination (untried point)
  | .bridged bridge => .bridged bridge.backend
  | .closed bridge => .closed bridge.backend
  | .dropped _ => .dropped

def At (s : System) (stream : StreamId) (x : Stage) : Prop :=
  ∃ holder ∈ holders s, stream ∈ streams holder ∧ stage holder = x

section Runs
variable {hosts : HostTable} {routes : List Route} {listening : Listening} {acceptor : Acceptor}
  {machines : Machines} {s t : System}

theorem at_unique (hi : Inv hosts routes listening acceptor machines s) {stream : StreamId}
    {x y : Stage} (hx : At s stream x) (hy : At s stream y) : x = y := by
  obtain ⟨h,hm,hs,rfl⟩ := hx
  obtain ⟨h',hm',hs',rfl⟩ := hy
  have hn : ((holders s).bind streams).Nodup := by
    rw [← owned,hi.owned]
    exact Multiset.nodup_range _
  rw [Exchange.held_unique hn hm hm' hs hs']

theorem at_lt (hi : Inv hosts routes listening acceptor machines s) {stream : StreamId} {x : Stage}
    (hx : At s stream x) : stream < s.accepted.length := by
  obtain ⟨holder,hm,hs,-⟩ := hx
  have ho : stream ∈ owned s := Multiset.mem_bind.mpr ⟨holder,hm,hs⟩
  rwa [hi.owned,Multiset.mem_range] at ho

def Passes (listening : Listening) (machines : Machines) (h h' : Holder) : Prop :=
  ReflGen (Proxy.Next (proxy listening machines)) (stage h) (stage h')

theorem mem_each_dropped {ids : List StreamId} {stream : StreamId} (h : stream ∈ ids) :
    ∃ holder ∈ each .dropped ids, stream ∈ streams holder ∧ stage holder = .dropped :=
  ⟨.dropped stream,Exchange.mem_each.mpr ⟨stream,h,rfl⟩,Multiset.mem_singleton_self _,rfl⟩

theorem passes_dropped {holder : Holder} {ids : List StreamId} {stream : StreamId}
    (h : stream ∈ ids) (hn : Proxy.Next (proxy listening machines) (stage holder) .dropped) :
    ∃ holder' ∈ each .dropped ids, stream ∈ streams holder' ∧
      Passes listening machines holder holder' := by
  obtain ⟨holder',hm,hs,hd⟩ := mem_each_dropped h
  exact ⟨holder',hm,hs,by rw [Passes,hd]; exact .single hn⟩

theorem passes_forwarded {t : Inspecting} {forwardTable : ServiceForwardTable}
    {conn : ForwardedConnection} {stream : StreamId} (hs : stream ∈ conn.inner.streams)
    (hn : (proxy listening machines).names t.stage conn.destination) :
    ∃ holder ∈ forwarded forwardTable none conn, stream ∈ streams holder ∧
      Passes listening machines (.inspecting t) holder := by
  unfold forwarded
  cases forwardTable.forwarder .loadBalancer with
  | error e => exact passes_dropped hs (.unnamed _)
  | ok sender => exact ⟨_,Multiset.mem_singleton_self _,hs,.single (.named hn)⟩

theorem passes_proceed {destination : Destination} {point : Handling} (outcome : ConnectOutcome)
    {stream : StreamId} (hs : stream ∈ pointStreams point) :
    ∃ holder ∈ ({.handling (.running destination (point.step (fun _ => outcome)).1)} +
        each .bridged (point.step (fun _ => outcome)).2.toList : Multiset Holder),
      stream ∈ streams holder ∧
        Passes listening machines (.handling (.running destination point)) holder := by
  cases step_steps (fun _ => outcome) hs with
  | keeps hn hu =>
    refine ⟨_,Multiset.mem_add.mpr (.inl (Multiset.mem_singleton_self _)),hn,?_⟩
    rw [Passes,stage,stage,hu]
  | refused a ha hn hu =>
    refine ⟨_,Multiset.mem_add.mpr (.inl (Multiset.mem_singleton_self _)),hn,?_⟩
    rw [Passes,stage,stage,hu]
    exact .single (.refused _ _ _)
  | connected a rest ha hu hb =>
    refine ⟨.bridged ⟨stream,a⟩,Multiset.mem_add.mpr (.inr ?_),Multiset.mem_singleton_self _,?_⟩
    · rw [hb]
      exact Exchange.mem_each.mpr ⟨_,List.mem_singleton_self _,rfl⟩
    · rw [Passes,stage,stage,hu]
      exact .single (.connected _ _ _)

theorem trades_pass (hi : Inv hosts routes listening acceptor machines s) {action : Action}
    {old new : Multiset Holder} (h : Trades listening s action old new) :
    ∀ holder ∈ old, ∀ stream ∈ streams holder, ∃ holder' ∈ new, stream ∈ streams holder' ∧
      Passes listening machines holder holder' := by
  intro holder hm stream hs
  cases h with
  | acceptTls | acceptTcp | arrive => exact absurd hm (Multiset.notMem_zero _)
  | peekDrops | peekFails =>
    obtain rfl := Multiset.mem_singleton.mp hm
    exact passes_dropped (List.mem_singleton.mpr (Multiset.mem_singleton.mp hs)) (.unnamed _)
  | peekGoesOn _ _ recordHeader hstage =>
    obtain rfl := Multiset.mem_singleton.mp hm
    exact ⟨_,Multiset.mem_singleton_self _,hs,.single (.opened ⟨hstage,recordHeader,rfl⟩)⟩
  | peekForwards _ _ settings hstage hr =>
    obtain rfl := Multiset.mem_singleton.mp hm
    exact passes_forwarded (List.mem_singleton.mpr (Multiset.mem_singleton.mp hs))
      ⟨⟨_,hstage⟩,_,_,hr,rfl⟩
  | sends w =>
    obtain rfl := Multiset.mem_singleton.mp hm
    exact ⟨_,Multiset.mem_singleton_self _,hs,.single (.entered _)⟩
  | sendFails w =>
    obtain rfl := Multiset.mem_singleton.mp hm
    exact passes_dropped hs (.turnedAway _)
  | receive conn =>
    obtain rfl := Multiset.mem_singleton.mp hm
    exact ⟨_,Multiset.mem_singleton_self _,hs,.single (.taken _)⟩
  | closeReceiver =>
    obtain ⟨conn,hq,rfl⟩ := Exchange.mem_each.mp hm
    exact passes_dropped (List.mem_flatMap.mpr ⟨conn,hq,hs⟩) (.discarded _)
  | @start conn order _ ho =>
    obtain rfl := Multiset.mem_singleton.mp hm
    have hc := dispatch_candidates ho
    refine ⟨_,Multiset.mem_singleton_self _,?_,.single (.dispatched hc.nodup (fun a => ?_))⟩
    · change stream ∈ pointStreams (dispatch (fun _ => order) conn s.machines)
      rw [dispatch_streams]
      exact hs
    · rw [hc.served]
      exact ⟨fun h => ⟨h.port,(hi.configured _).mp h.configured,h.named⟩,
        fun h => ⟨h.port,(hi.configured _).mpr h.configured,h.named⟩⟩
  | proceed _ destination point outcome =>
    obtain rfl := Multiset.mem_singleton.mp hm
    exact passes_proceed outcome hs
  | finish _ destination attempt innerOpt =>
    obtain rfl := Multiset.mem_singleton.mp hm
    rw [streams,taskStreams,pointStreams,Run.pointHolders_returned] at hs
    exact passes_dropped hs (.exhausted _)
  | bridgeEnds b =>
    obtain rfl := Multiset.mem_singleton.mp hm
    exact ⟨_,Multiset.mem_singleton_self _,hs,.single (.ended _)⟩

theorem step_lifecycle (hi : Inv hosts routes listening acceptor machines s) {action : Action}
    (h : s.step listening acceptor action = some t) {stream : StreamId} {x : Stage}
    (hx : At s stream x) :
    ∃ y, At t stream y ∧ ReflGen (Proxy.Next (proxy listening machines)) x y := by
  obtain ⟨holder,hm,hs,rfl⟩ := hx
  obtain ⟨old,new,htrades,hswap⟩ := moves_trades (System.step_moves h)
  obtain ⟨holder',hm',hs',hp⟩ := Exchange.swaps_held hswap streams (R := Passes listening machines)
    (fun _ => .refl) (trades_pass hi htrades) hm hs
  exact ⟨_,⟨holder',hm',hs',rfl⟩,hp⟩

theorem run_lifecycle (hl : ListensTo hosts routes listening)
    (hi : Inv hosts routes listening acceptor machines s) {actions : List Action}
    (h : Execution.run (System.step listening acceptor) s actions = some t) {stream : StreamId}
    {x : Stage} (hx : At s stream x) :
    ∃ y, At t stream y ∧ ReflTransGen (Proxy.Next (proxy listening machines)) x y :=
  Execution.run_follows _ (inv_step hl) (fun _ _ _ _ hi ht hx => step_lifecycle hi ht hx) hi hx h

-- Where a connection starts: a TLS listener hands it to an inspection, a TCP listener sends it off.
inductive Born (listening : Listening) : Origin → Stage → Prop where
  | tls (listener : ℕ) : Born listening (.tls listener) (.inspected .header)
  | tcp {listener : ℕ} {tcpListener : TcpListener} {route : Route}
      (hl : listening.tcpRp.listeners[listener]? = some (tcpListener,route)) :
      Born listening (.tcp listener) (.waiting route.2.destination)

-- Where the accept of a connection leaves it.
def Enters (listening : Listening) (machines : Machines) (s : System) (stream : StreamId)
    (origin : Origin) : Prop :=
  ∃ x y, Born listening origin x ∧ At s stream y ∧
    ReflGen (Proxy.Next (proxy listening machines)) x y

theorem enters_of_holder {u : System} {new : Holder} {rest : Multiset Holder} {origin : Origin}
    {stream : StreamId} {x : Stage} (hb : Born listening origin x) (hu : holders u = {new} + rest)
    (hs : stream ∈ streams new)
    (hx : ReflGen (Proxy.Next (proxy listening machines)) x (stage new)) :
    Enters listening machines u stream origin :=
  ⟨x,_,hb,⟨new,by rw [hu]; exact Multiset.mem_add.mpr (.inl (Multiset.mem_singleton_self _)),hs,rfl⟩,
    hx⟩

theorem enters_acceptTcp {listener : ℕ} {tcpListener : TcpListener} {route : Route}
    (hl : listening.tcpRp.listeners[listener]? = some (tcpListener,route)) (s : System)
    (stream : StreamId) (remote : SocketAddr) :
    Enters listening machines (s.forwardConn listening.tcpRp.forwardSender (some listener)
      (.newTcpConn stream remote listening.tcpRp.connectionSettings route.2.destination)) stream
      (.tcp listener) := by
  have hh := holders_forwardConn s listening.tcpRp.forwardSender (some listener)
    (.newTcpConn stream remote listening.tcpRp.connectionSettings route.2.destination)
  unfold forwarded at hh
  cases hf : listening.tcpRp.forwardSender.forwarder .loadBalancer with
  | error e =>
    rw [hf] at hh
    exact enters_of_holder (.tcp hl) hh (Multiset.mem_singleton_self _) (.single (.turnedAway _))
  | ok sender =>
    rw [hf] at hh
    exact enters_of_holder (.tcp hl) hh (Multiset.mem_singleton_self _) .refl

theorem moves_origins {action : Action} (h : System.Moves listening acceptor s action t) :
    AcceptLoop.origins t = AcceptLoop.origins s ∨
      ∃ origin, AcceptLoop.origins t = AcceptLoop.origins s ++ [origin] ∧
        Enters listening machines t s.accepted.length origin := by
  cases h with
  | @acceptTls listener remote hl =>
    exact .inr ⟨.tls listener,by simp [AcceptLoop.origins,System.inspect,System.accept],
      enters_of_holder (.tls listener) (holders_inspect _ _) (Multiset.mem_singleton_self _) .refl⟩
  | acceptTcp remote hl hfree =>
    exact .inr ⟨_,by simp [AcceptLoop.origins,accepted_forwardConn,System.accept],
      enters_acceptTcp hl _ _ _⟩
  | arrive stream bytes =>
    exact .inl (AcceptLoop.origins_modify s.accepted stream _ (fun _ => rfl))
  | @peekDrops _ _ held => exact .inl (AcceptLoop.origins_modify s.accepted held.stream _ (fun _ => rfl))
  | @peekGoesOn _ _ held => exact .inl (AcceptLoop.origins_modify s.accepted held.stream _ (fun _ => rfl))
  | @peekForwards _ _ held =>
    rw [AcceptLoop.origins,accepted_forwardConn]
    exact .inl (AcceptLoop.origins_modify s.accepted held.stream _ (fun _ => rfl))
  | peekFails | sends | sendFails | receive | closeReceiver | start | proceed | finish | bridgeEnds =>
    exact .inl rfl

theorem moves_keep_origins {action : Action} (h : System.Moves listening acceptor s action t) :
    AcceptLoop.origins s <+: AcceptLoop.origins t := by
  rcases @moves_origins _ _ ∅ _ _ _ h with he | ⟨origin,he,-⟩ <;> rw [he]
  exact List.prefix_append _ _

theorem run_origins {actions : List Action}
    (h : Execution.run (System.step listening acceptor) s actions = some t) :
    AcceptLoop.origins s <+: AcceptLoop.origins t :=
  Execution.run_invariant (P := fun u => AcceptLoop.origins s <+: AcceptLoop.origins u) _
    (fun _ _ _ hu hv => hu.trans (moves_keep_origins (System.step_moves hv)))
    (List.prefix_refl _) h

-- The step of a run in which a connection was accepted.
theorem run_enters {actions : List Action}
    (h : Execution.run (System.step listening acceptor) (System.initial machines) actions = some s)
    {stream : StreamId} {origin : Origin} (ho : (AcceptLoop.origins s)[stream]? = some origin) :
    ∃ pre action post u v, actions = pre ++ action :: post ∧
      Execution.run (System.step listening acceptor) (System.initial machines) pre = some u ∧
      System.step listening acceptor u action = some v ∧
      Execution.run (System.step listening acceptor) v post = some s ∧ u.accepted.length = stream ∧
      Enters listening machines v stream origin := by
  have hlt : ¬ s.accepted.length ≤ stream := by
    rw [← AcceptLoop.origins_length]
    exact not_le.mpr (List.getElem?_eq_some_iff.mp ho).1
  obtain ⟨pre,action,post,u,v,rfl,hu,hv,hpost,hle,hnot⟩ := Execution.run_crosses _
    (P := fun u => u.accepted.length ≤ stream) (Nat.zero_le stream) hlt h
  have hlater : stream < v.accepted.length := not_le.mp hnot
  rw [← AcceptLoop.origins_length] at hlater
  rcases @moves_origins _ _ machines _ _ _ (System.step_moves hv) with he | ⟨origin',he,henters⟩
  · rw [he,AcceptLoop.origins_length] at hlater
    exact absurd hle (not_le.mpr hlater)
  · rw [he,List.length_append,AcceptLoop.origins_length,List.length_singleton] at hlater
    have hstream : u.accepted.length = stream := Nat.le_antisymm hle (Nat.le_of_lt_succ hlater)
    have hlast : (AcceptLoop.origins v)[stream]? = some origin' := by
      rw [he,← hstream,← AcceptLoop.origins_length]
      exact List.getElem?_concat_length
    obtain ⟨hl,hget⟩ := List.getElem?_eq_some_iff.mp hlast
    have hkept : (AcceptLoop.origins s)[stream]? = some origin' := by
      rw [List.prefix_iff_getElem?.mp (run_origins hpost) stream hl,hget]
    obtain rfl := Option.some.inj (ho.symm.trans hkept)
    exact ⟨pre,action,post,u,v,rfl,hu,hv,hpost,hstream,hstream ▸ henters⟩

theorem lived_reachable (hl : ListensTo hosts routes listening)
    (h : Execution.Reachable (System.step listening acceptor) (System.initial machines) s)
    {stream : StreamId} {origin : Origin} (ho : (AcceptLoop.origins s)[stream]? = some origin) :
    ∃ x y, Born listening origin x ∧ At s stream y ∧
      ReflTransGen (Proxy.Next (proxy listening machines)) x y := by
  obtain ⟨actions,hrun⟩ := h
  obtain ⟨pre,action,post,u,v,rfl,hu,hv,hpost,-,x,y,hb,hy,hxy⟩ := run_enters hrun ho
  obtain ⟨z,hz,hyz⟩ := run_lifecycle hl (inv_step hl u action v (inv_reachable hl ⟨pre,hu⟩) hv) hpost hy
  exact ⟨x,z,hb,hz,hxy.to_reflTransGen.trans hyz⟩

theorem at_bridged {stream : StreamId} {a : SocketAddr} (h : At s stream (.bridged a)) :
    (⟨stream,a⟩ : Bridge) ∈ s.bridges := by
  obtain ⟨holder,hm,hs,hst⟩ := h
  cases holder with
  | bridged bridge =>
    obtain rfl := Multiset.mem_singleton.mp hs
    obtain rfl := Proxy.Stage.bridged.inj hst
    simpa [holders,Exchange.mem_each] using hm
  | handling task => cases task <;> cases hst
  | inspecting | sending | queued | closed | dropped => cases hst

theorem at_closed {stream : StreamId} {a : SocketAddr} (h : At s stream (.closed a)) :
    (⟨stream,a⟩ : Bridge) ∈ s.closed := by
  obtain ⟨holder,hm,hs,hst⟩ := h
  cases holder with
  | closed bridge =>
    obtain rfl := Multiset.mem_singleton.mp hs
    obtain rfl := Proxy.Stage.closed.inj hst
    simpa [holders,Exchange.mem_each] using hm
  | handling task => cases task <;> cases hst
  | inspecting | sending | queued | bridged | dropped => cases hst

theorem at_dropped {stream : StreamId} (h : At s stream .dropped) : stream ∈ s.dropped := by
  obtain ⟨holder,hm,hs,hst⟩ := h
  cases holder with
  | dropped other =>
    obtain rfl := Multiset.mem_singleton.mp hs
    simpa [holders,Exchange.mem_each] using hm
  | handling task => cases task <;> cases hst
  | inspecting | sending | queued | bridged | closed => cases hst

end Runs

section History
variable (listening : Listening) (acceptor : Acceptor) (machines : Machines)

-- The stages of a connection in the states of a run, from the step that accepts it to the end.
structure Seen (pre : List Action) (action : Action) (post : List Action) (stream : StreamId)
    (stages : List Stage) : Prop where
  accepted : ∃ u, Execution.run (System.step listening acceptor) (System.initial machines) pre =
    some u ∧ u.accepted.length = stream
  length : stages.length = post.length + 1
  seen : ∀ n ≤ post.length, ∀ u,
    Execution.run (System.step listening acceptor) (System.initial machines)
      (pre ++ action :: post.take n) = some u → ∀ z, At u stream z ↔ stages[n]? = some z

variable {listening acceptor machines} {hosts : HostTable} {routes : List Route}

theorem run_history (hl : ListensTo hosts routes listening) {actions : List Action} {s : System}
    (h : Execution.run (System.step listening acceptor) (System.initial machines) actions = some s)
    {stream : StreamId} {origin : Origin} (ho : (AcceptLoop.origins s)[stream]? = some origin) :
    ∃ pre action post x stages, actions = pre ++ action :: post ∧ Born listening origin x ∧
      Seen listening acceptor machines pre action post stream stages ∧
      (x :: stages).IsChain (ReflGen (Proxy.Next (proxy listening machines))) := by
  obtain ⟨pre,action,post,u,v,rfl,hu,hv,hpost,hstream,x,y,hb,hy,hxy⟩ := run_enters h ho
  have hiv := inv_step hl u action v (inv_reachable hl ⟨pre,hu⟩) hv
  obtain ⟨ys,hlen,hchain,hseen⟩ := Execution.run_seen _ (inv_step hl)
    (V := fun u z => At u stream z) (fun _ _ _ _ hi ht hx => step_lifecycle hi ht hx) hiv hy hpost
  refine ⟨pre,action,post,x,y :: ys,rfl,hb,⟨⟨u,hu,hstream⟩,congrArg Nat.succ hlen,?_⟩,
    List.isChain_cons_cons.mpr ⟨hxy,hchain⟩⟩
  intro n hn w hw z
  rw [Execution.run_append,hu,Option.bind_some,Execution.run_cons,hv,Option.bind_some] at hw
  obtain ⟨z',hz',hat⟩ := hseen n hn w hw
  have hiw := Execution.run_invariant _ (inv_step hl) hiv hw
  rw [hz',Option.some.injEq]
  exact ⟨fun hz => at_unique hiw hat hz,fun hz => hz ▸ hat⟩

end History

-- Whatever the interleaving, each connection does on its own what the abstract proxy does with one.
theorem each_connection_follows_proxy (outcomes : BindOutcomes) (tls : TlsRpHandler)
    (tcp : SimpleTcpHandler) (settings : BindSettings) (listening : Listening) (acceptor : Acceptor)
    (machines : Machines) (hl : Binding.Listens outcomes tls tcp settings listening)
    (actions : List Action) (s : System)
    (h : Execution.run (System.step listening acceptor) (System.initial machines) actions =
      some s) :
    ∀ stream client, s.accepted[stream]? = some client →
      ∃ pre action post x stages, actions = pre ++ action :: post ∧
        Born listening client.origin x ∧
        Seen listening acceptor machines pre action post stream stages ∧
        (x :: stages).IsChain (ReflGen (Proxy.Next (proxy listening machines))) := by
  intro stream client hc
  have hlistens : ListensTo tls.destinationProvider tcp.destinationProvider listening :=
    ⟨(Binding.listens_tables hl).1,(Binding.listens_tables hl).2⟩
  exact run_history hlistens h (by simp [AcceptLoop.origins,hc])

theorem both_follow_proxy : ∃ s, s.bridges = [⟨1,⟨loopback,22⟩⟩,⟨0,⟨loopback,1337⟩⟩] ∧
    Execution.run (System.step exampleListening noHello) (System.initial exampleMachines)
      bothBridged = some s ∧
    ∀ stream client, s.accepted[stream]? = some client →
      ∃ pre action post x stages, bothBridged = pre ++ action :: post ∧
        Born exampleListening client.origin x ∧
        Seen exampleListening noHello exampleMachines pre action post stream stages ∧
        (x :: stages).IsChain (ReflGen (Proxy.Next (proxy exampleListening exampleMachines))) := by
  obtain ⟨s,hr,hb⟩ := Option.map_eq_some_iff.mp bothBridged_bridges
  exact ⟨s,hb,hr,each_connection_follows_proxy _ exampleTls exampleTcp _ exampleListening noHello
    exampleMachines exampleListening_listens bothBridged s hr⟩

end Lifecycle

end RustyValve
