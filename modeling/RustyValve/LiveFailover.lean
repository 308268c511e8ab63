import RustyValve.Lifecycle

namespace RustyValve

namespace Lifecycle

open Custody Routing
open Relation (ReflTransGen)

section Tasks
variable {hosts : HostTable} {routes : List Route} {listening : Listening} {acceptor : Acceptor}
  {machines : Machines} {s t : System}

theorem at_task {destination : Destination} {point : Handling} {stream : StreamId}
    (h : Task.running destination point ∈ s.tasks) (hs : stream ∈ pointStreams point) :
    At s stream (.trying destination (untried point)) :=
  ⟨.handling (.running destination point),by simp [holders,Exchange.mem_each,h],hs,rfl⟩

theorem received_at {conn : ForwardedConnection} {stream : StreamId}
    (h : Task.received conn ∈ s.tasks) (hs : stream ∈ conn.inner.streams) :
    At s stream (.received conn.destination) :=
  ⟨.handling (.received conn),by simp [holders,Exchange.mem_each,h],hs,rfl⟩

theorem at_bridge {bridge : Bridge} (h : bridge ∈ s.bridges) :
    At s bridge.stream (.bridged bridge.backend) :=
  ⟨.bridged bridge,by simp [holders,Exchange.mem_each,h],Multiset.mem_singleton_self _,rfl⟩

theorem at_ended {bridge : Bridge} (h : bridge ∈ s.closed) :
    At s bridge.stream (.closed bridge.backend) :=
  ⟨.closed bridge,by simp [holders,Exchange.mem_each,h],Multiset.mem_singleton_self _,rfl⟩

theorem at_given_up {stream : StreamId} (h : stream ∈ s.dropped) : At s stream .dropped :=
  ⟨.dropped stream,by simp [holders,Exchange.mem_each,h],Multiset.mem_singleton_self _,rfl⟩

-- A task leaves the list when it starts or is polled, and when it ends.
theorem mem_eraseIdx_or {task : Task} {tasks : List Task} {i : ℕ} (h : task ∈ tasks) :
    task ∈ tasks.eraseIdx i ∨ tasks[i]? = some task := by
  obtain ⟨j,hj,rfl⟩ := List.mem_iff_getElem.mp h
  by_cases hij : j = i
  · subst hij
    exact .inr (List.getElem?_eq_getElem hj)
  · exact .inl (List.mem_eraseIdx_iff_getElem.mpr ⟨j,hj,hij,rfl⟩)

theorem tasks_forwardConn (forwardTable : ServiceForwardTable) (listener : Option ℕ)
    (conn : ForwardedConnection) (s : System) :
    (s.forwardConn forwardTable listener conn).tasks = s.tasks := by
  unfold System.forwardConn
  cases forwardTable.forwarder .loadBalancer <;> rfl

inductive Leaves (s t : System) (task : Task) : Action → Prop where
  | start {i : ℕ} {conn : ForwardedConnection} {order : List (IpAddr × DestinationMachine)}
      (ht : task = .received conn) (ho : order.Perm (eligible conn.destination.providedIp s.machines))
      (hn : .running conn.destination (dispatch (fun _ => order) conn s.machines) ∈ t.tasks) :
      Leaves s t task (.start i order)
  | proceed {i : ℕ} {destination : Destination} {point : Handling} {outcome : ConnectOutcome}
      (ht : task = .running destination point) (hi : s.tasks[i]? = some task)
      (hn : .running destination (point.step (fun _ => outcome)).1 ∈ t.tasks)
      (hb : ∀ b ∈ (point.step (fun _ => outcome)).2, b ∈ t.bridges) :
      Leaves s t task (.proceed i outcome)
  | finish {i : ℕ} {destination : Destination} {attempt : Option (Except Error Unit)}
      {connInnerOpt : Option ConnectionInner}
      (ht : task = .running destination (.returned attempt connInnerOpt)) :
      Leaves s t task (.finish i)

theorem moves_leaves {action : Action} (h : System.Moves listening acceptor s action t) {task : Task}
    (hm : task ∈ s.tasks) : task ∈ t.tasks ∨ Leaves s t task action := by
  cases h with
  | acceptTcp | peekForwards =>
    left
    rw [tasks_forwardConn]
    exact hm
  | receive => exact .inl (List.mem_append_left _ hm)
  | @start i conn order hi ho =>
    rcases mem_eraseIdx_or (i := i) hm with hm | hm
    · exact .inl (List.mem_append_left _ hm)
    · obtain rfl := Option.some.inj (hi.symm.trans hm)
      exact .inr (.start rfl ho (List.mem_append_right _ (List.mem_singleton_self _)))
  | @proceed i destination point outcome hi =>
    rcases mem_eraseIdx_or (i := i) hm with hm | hm
    · exact .inl (List.mem_append_left _ hm)
    · obtain rfl := Option.some.inj (hi.symm.trans hm)
      exact .inr (.proceed rfl hi (List.mem_append_right _ (List.mem_singleton_self _))
        (fun b hb => List.mem_append_right _ (Option.mem_toList.mpr hb)))
  | @finish i destination attempt innerOpt hi =>
    rcases mem_eraseIdx_or (i := i) hm with hm | hm
    · exact .inl hm
    · obtain rfl := Option.some.inj (hi.symm.trans hm)
      exact .inr (.finish rfl)
  | acceptTls | arrive | peekDrops | peekGoesOn | peekFails | sends | sendFails | closeReceiver
  | bridgeEnds => exact .inl hm

end Tasks

-- One call of `connect` for the stream returns.
def Attempts (s : System) (action : Action) (stream : StreamId) (a : SocketAddr)
    (outcome : ConnectOutcome) : Prop :=
  ∃ task destination point, action = .proceed task outcome ∧
    s.tasks[task]? = some (.running destination point) ∧ stream ∈ pointStreams point ∧
    point.attempt = some a

section Attempts
variable {hosts : HostTable} {routes : List Route} {listening : Listening} {acceptor : Acceptor}
  {machines : Machines} {s t : System} {stream : StreamId} {a : SocketAddr}
  {outcome : ConnectOutcome}

theorem attempt_untried {point : Handling} (h : point.attempt = some a) :
    ∃ rest, untried point = a :: rest := by
  cases point with
  | connecting port inner b backends =>
    obtain rfl : b = a := Option.some.inj h
    exact ⟨_,rfl⟩
  | connectingOnly inner b =>
    obtain rfl : b = a := Option.some.inj h
    exact ⟨_,rfl⟩
  | looping | returned => cases h

theorem attempts_at {action : Action} (h : Attempts s action stream a outcome) :
    ∃ destination rest, At s stream (.trying destination (a :: rest)) := by
  obtain ⟨task,destination,point,-,ht,hs,ha⟩ := h
  obtain ⟨rest,hu⟩ := attempt_untried ha
  exact ⟨destination,rest,hu ▸ at_task (List.mem_of_getElem? ht) hs⟩

-- After an attempt the connection is bridged, or left with the addresses after this one.
theorem step_attempts {action : Action} (h : Attempts s action stream a outcome)
    (hstep : s.step listening acceptor action = some t) :
    (outcome = .accepted ∧ At t stream (.bridged a)) ∨ (outcome ≠ .accepted ∧
      ∃ destination rest, At s stream (.trying destination (a :: rest)) ∧
        At t stream (.trying destination rest)) := by
  obtain ⟨task,destination,point,rfl,ht,hs,ha⟩ := h
  have hm := List.mem_of_getElem? ht
  simp only [System.step,System.proceed,ht,Option.some.injEq] at hstep
  subst hstep
  obtain ⟨rest,hu⟩ := attempt_untried ha
  cases step_steps (fun _ => outcome) hs with
  | keeps hn hk hp =>
    rw [ha] at hp
    cases hp
  | refused b hb hn hk hp =>
    obtain rfl := Option.some.inj (ha.symm.trans hp)
    refine .inr ⟨hb,destination,_,hk ▸ at_task hm hs,at_task (List.mem_append_right _ ?_) hn⟩
    exact List.mem_singleton_self _
  | connected b rest hb hk hbridge hp =>
    obtain rfl := Option.some.inj (ha.symm.trans hp)
    refine .inl ⟨hb,@at_bridge _ ⟨stream,a⟩ (List.mem_append_right _ ?_)⟩
    rw [hbridge]
    exact List.mem_singleton_self _

end Attempts

section Runs
variable {hosts : HostTable} {routes : List Route} {listening : Listening} {acceptor : Acceptor}
  {machines : Machines} {s t : System} {stream : StreamId} {actions : List Action}

theorem at_received {destination : Destination} (h : At s stream (.received destination)) :
    ∃ conn, Task.received conn ∈ s.tasks ∧ stream ∈ conn.inner.streams ∧
      conn.destination = destination := by
  obtain ⟨holder,hm,hs,hst⟩ := h
  cases holder with
  | handling task =>
    cases task with
    | received conn =>
      obtain rfl := Proxy.Stage.received.inj hst
      exact ⟨conn,by simpa [holders,Exchange.mem_each] using hm,hs,rfl⟩
    | running => cases hst
  | inspecting | sending | queued | bridged | closed | dropped => cases hst

theorem not_dropped_of_bridged (hl : ListensTo hosts routes listening)
    (hi : Inv hosts routes listening acceptor machines s) {a : SocketAddr}
    (hb : At s stream (.bridged a))
    (h : Execution.run (System.step listening acceptor) s actions = some t) :
    ¬ At t stream .dropped := by
  intro hd
  obtain ⟨y,hy,hp⟩ := run_lifecycle hl hi h hb
  obtain rfl := at_unique (Execution.run_invariant _ (inv_step hl) hi h) hy hd
  rcases Proxy.run_bridged hp with he | he <;> cases he

theorem starts_before_dropped (hl : ListensTo hosts routes listening)
    (hi : Inv hosts routes listening acceptor machines s) {conn : ForwardedConnection}
    (hm : Task.received conn ∈ s.tasks) (hs : stream ∈ conn.inner.streams)
    (h : Execution.run (System.step listening acceptor) s actions = some t)
    (hd : At t stream .dropped) :
    ∃ pre post u point, actions = pre ++ post ∧
      Execution.run (System.step listening acceptor) s pre = some u ∧
      Execution.run (System.step listening acceptor) u post = some t ∧
      .running conn.destination point ∈ u.tasks ∧ stream ∈ pointStreams point ∧
      Candidates machines conn.destination (untried point) := by
  have ht : .received conn ∉ t.tasks := by
    intro hm'
    cases at_unique (Execution.run_invariant _ (inv_step hl) hi h) (received_at hm' hs) hd
  obtain ⟨pre,action,post,u,v,rfl,hu,hv,hpost,hmu,hmv⟩ :=
    Execution.run_crosses _ (P := fun u => .received conn ∈ u.tasks) hm ht h
  have hiu := Execution.run_invariant _ (inv_step hl) hi hu
  rcases moves_leaves (System.step_moves hv) hmu with hmv' | hleaves
  · exact absurd hmv' hmv
  · cases hleaves with
    | @start i _ order he ho hn =>
      obtain rfl := Task.received.inj he
      have hc := dispatch_candidates ho
      refine ⟨pre ++ [.start i order],post,v,_,by simp,?_,hpost,hn,?_,hc.nodup,fun a => ?_⟩
      · rw [Execution.run_append,hu,Option.bind_some,Execution.run_cons,hv]
        rfl
      · rw [dispatch_streams]
        exact hs
      · rw [hc.served]
        exact ⟨fun h => ⟨h.port,(hiu.configured _).mp h.configured,h.named⟩,
          fun h => ⟨h.port,(hiu.configured _).mpr h.configured,h.named⟩⟩
    | proceed he => cases he
    | finish he => cases he

theorem refused_before_dropped (hl : ListensTo hosts routes listening)
    (hi : Inv hosts routes listening acceptor machines s) {destination : Destination}
    {point : Handling} {a : SocketAddr} (hm : Task.running destination point ∈ s.tasks)
    (hs : stream ∈ pointStreams point) (ha : a ∈ untried point)
    (h : Execution.run (System.step listening acceptor) s actions = some t)
    (hd : At t stream .dropped) :
    ∃ pre action post u outcome, actions = pre ++ action :: post ∧
      Execution.run (System.step listening acceptor) s pre = some u ∧
      Attempts u action stream a outcome ∧ outcome ≠ .accepted := by
  let P (u : System) : Prop :=
    ∃ point, .running destination point ∈ u.tasks ∧ stream ∈ pointStreams point ∧ a ∈ untried point
  have ht : ¬ P t := by
    rintro ⟨point,hm',hs',-⟩
    cases at_unique (Execution.run_invariant _ (inv_step hl) hi h) (at_task hm' hs') hd
  obtain ⟨pre,action,post,u,v,rfl,hu,hv,hpost,⟨point,hmu,hsu,hau⟩,hpv⟩ :=
    Execution.run_crosses _ (P := P) ⟨point,hm,hs,ha⟩ ht h
  rcases moves_leaves (System.step_moves hv) hmu with hmv | hleaves
  · exact absurd ⟨point,hmv,hsu,hau⟩ hpv
  · cases hleaves with
    | start he => cases he
    | finish he =>
      obtain ⟨rfl,rfl⟩ := Task.running.inj he
      cases hau
    | @proceed i _ _ outcome he hget hn hb =>
      obtain ⟨rfl,rfl⟩ := Task.running.inj he
      cases step_steps (fun _ => outcome) hsu with
      | keeps hsn hun => exact absurd ⟨_,hn,hsn,hun ▸ hau⟩ hpv
      | refused b ho hsn hun hp =>
        rw [hun] at hau
        rcases List.mem_cons.mp hau with rfl | hau
        · exact ⟨pre,_,post,u,outcome,rfl,hu,⟨i,destination,point,rfl,hget,hsu,hp⟩,ho⟩
        · exact absurd ⟨_,hn,hsn,hau⟩ hpv
      | connected b rest ho hun hbridge =>
        have hbv := at_bridge (hb _ hbridge)
        have hiv := inv_step hl u _ v (Execution.run_invariant _ (inv_step hl) hi hu) hv
        exact absurd hd (not_dropped_of_bridged hl hiv hbv hpost)

theorem attempts_later (hl : ListensTo hosts routes listening)
    (hi : Inv hosts routes listening acceptor machines s) {x y : Action} {mid : List Action}
    {a b : SocketAddr} {outcome outcome' : ConnectOutcome}
    (honce : ∀ z, At s stream z → z.TriesOnce) (hx : Attempts s x stream a outcome)
    (h : Execution.run (System.step listening acceptor) s (x :: mid) = some t)
    (hy : Attempts t y stream b outcome') : outcome ≠ .accepted ∧ a ≠ b := by
  simp only [Execution.run_cons,Option.bind_eq_some_iff] at h
  obtain ⟨u,hu,hmid⟩ := h
  have hiu := inv_step hl s x u hi hu
  have hit := Execution.run_invariant _ (inv_step hl) hiu hmid
  obtain ⟨destination',rest',hat⟩ := attempts_at hy
  rcases step_attempts hx hu with ⟨-,hbridged⟩ | ⟨ho,destination,rest,hs,hrest⟩
  · obtain ⟨z,hz,hp⟩ := run_lifecycle hl hiu hmid hbridged
    obtain rfl := at_unique hit hz hat
    rcases Proxy.run_bridged hp with he | he <;> cases he
  · obtain ⟨z,hz,hp⟩ := run_lifecycle hl hiu hmid hrest
    obtain rfl := at_unique hit hz hat
    obtain ⟨hl'⟩ := Proxy.run_follows hp
    refine ⟨ho,fun hab => ?_⟩
    have hn : (a :: rest).Nodup := honce _ hs
    exact (List.nodup_cons.mp hn).1 (hl'.subset (hab ▸ List.mem_cons_self))

end Runs

-- What the attempts of one connection are, in a run that ends with the connection dropped.
structure FailsOver (listening : Listening) (acceptor : Acceptor) (machines : Machines) (s : System)
    (actions : List Action) (stream : StreamId) (destination : Destination) : Prop where
  every : ∀ a, Served machines destination a → ∃ pre action post u outcome,
    actions = pre ++ action :: post ∧
    Execution.run (System.step listening acceptor) s pre = some u ∧
    Attempts u action stream a outcome ∧ outcome ≠ .accepted
  only : ∀ pre action post u a outcome, actions = pre ++ action :: post →
    Execution.run (System.step listening acceptor) s pre = some u →
    Attempts u action stream a outcome → Served machines destination a ∧ outcome ≠ .accepted
  once : ∀ pre x mid y post u v a b outcome outcome', actions = pre ++ x :: mid ++ y :: post →
    Execution.run (System.step listening acceptor) s pre = some u →
    Execution.run (System.step listening acceptor) u (x :: mid) = some v →
    Attempts u x stream a outcome → Attempts v y stream b outcome' → a ≠ b

section Dropped
variable {hosts : HostTable} {routes : List Route} {listening : Listening} {acceptor : Acceptor}
  {machines : Machines} {s t : System} {stream : StreamId} {actions : List Action}

theorem born_triesOnce {origin : Origin} {x : Stage} (h : Born listening origin x) :
    x.TriesOnce := by
  cases h <;> trivial

theorem triesOnce_reachable (hl : ListensTo hosts routes listening)
    (h : Execution.Reachable (System.step listening acceptor) (System.initial machines) s)
    {x : Stage} (hx : At s stream x) : x.TriesOnce := by
  have hi := inv_reachable hl h
  have hlt := at_lt hi hx
  obtain ⟨y,z,hb,hz,hp⟩ := lived_reachable hl h
    (show (AcceptLoop.origins s)[stream]? = some s.accepted[stream].origin by
      simp [AcceptLoop.origins,hlt])
  obtain rfl := at_unique hi hx hz
  exact Proxy.run_triesOnce hp (born_triesOnce hb)

theorem fails_over (hl : ListensTo hosts routes listening)
    (hs : Execution.Reachable (System.step listening acceptor) (System.initial machines) s)
    (h : Execution.run (System.step listening acceptor) s actions = some t)
    {destination : Destination} (hr : At s stream (.received destination))
    (hd : At t stream .dropped) :
    FailsOver listening acceptor machines s actions stream destination := by
  have hi := inv_reachable hl hs
  constructor
  case every =>
    intro a ha
    obtain ⟨conn,hm,hstream,rfl⟩ := at_received hr
    obtain ⟨pre,post,u,point,rfl,hu,hpost,hrunning,hpoint,hc⟩ :=
      starts_before_dropped hl hi hm hstream h hd
    obtain ⟨pre',action,post',v,outcome,rfl,hv,hattempts,ho⟩ :=
      refused_before_dropped hl (Execution.run_invariant _ (inv_step hl) hi hu) hrunning hpoint
        ((hc.served a).mpr ha) hpost hd
    refine ⟨pre ++ pre',action,post',v,outcome,by simp,?_,hattempts,ho⟩
    rw [Execution.run_append,hu,Option.bind_some,hv]
  case only =>
    rintro pre action post u a outcome rfl hu hattempts
    have hiu := Execution.run_invariant _ (inv_step hl) hi hu
    obtain ⟨d,rest,hat⟩ := attempts_at hattempts
    obtain ⟨y,hy,hp⟩ := run_lifecycle hl hi hu hr
    obtain rfl := at_unique hiu hy hat
    constructor
    · cases Proxy.run_boundFor hp .received with
      | trying hserved => exact hserved a List.mem_cons_self
    · rintro rfl
      rw [Execution.run_append,hu,Option.bind_some,Execution.run_cons,Option.bind_eq_some_iff] at h
      obtain ⟨v,hv,hpost⟩ := h
      rcases step_attempts hattempts hv with ⟨-,hbridged⟩ | ⟨ho,-⟩
      · exact not_dropped_of_bridged hl (inv_step hl u action v hiu hv) hbridged hpost hd
      · exact ho rfl
  case once =>
    rintro pre x mid y post u v a b outcome outcome' - hu hv hx hy
    obtain ⟨before,hbefore⟩ := hs
    have hru : Execution.Reachable (System.step listening acceptor) (System.initial machines) u :=
      ⟨before ++ pre,by rw [Execution.run_append,hbefore,Option.bind_some,hu]⟩
    exact (attempts_later hl (inv_reachable hl hru) (fun z hz => triesOnce_reachable hl hru hz)
      hx hv hy).2

end Dropped

-- A connection is given up by the balancer only when each machine that may serve it has refused it.
theorem given_up_after_every_machine (outcomes : BindOutcomes) (tls : TlsRpHandler)
    (tcp : SimpleTcpHandler) (settings : BindSettings) (listening : Listening) (acceptor : Acceptor)
    (machines : Machines) (hl : Binding.Listens outcomes tls tcp settings listening) (s t : System)
    (hs : Execution.Reachable (System.step listening acceptor) (System.initial machines) s)
    (actions : List Action)
    (h : Execution.run (System.step listening acceptor) s actions = some t) (stream : StreamId)
    (destination : Destination) (hr : At s stream (.received destination))
    (hd : stream ∈ t.dropped) :
    FailsOver listening acceptor machines s actions stream destination :=
  fails_over ⟨(Binding.listens_tables hl).1,(Binding.listens_tables hl).2⟩ hs h hr (at_given_up hd)

def secondMachine : IpAddr := .v4 0x0A000001#32

def twoMachines : Machines := exampleMachines.insert secondMachine (.new 1)

def refusedConn : ForwardedConnection := .newTcpConn 0 ⟨loopback,40000⟩ ⟨5⟩ (.portOnly 1337)

def arrivals : List Action :=
  [.acceptTls 0 ⟨loopback,40000⟩,.arrive 0 (Utf8.encode "Host: a.example:80\r\n".toList),.peek 0 200,
    .peek 0 200,.send 0,.receive]

def refusals : List Action :=
  [.start 0 [(secondMachine,.new 1),(loopback,.new 1)],.proceed 0 .refused,.proceed 0 .refused,
    .proceed 0 .refused,.proceed 0 .refused,.proceed 0 .refused,.finish 0]

theorem both_machines_refused : ∃ s t,
    Execution.run (System.step exampleListening noHello) (System.initial twoMachines) arrivals =
      some s ∧
    Execution.run (System.step exampleListening noHello) s refusals = some t ∧ t.dropped = [0] ∧
    FailsOver exampleListening noHello twoMachines s refusals 0 (.portOnly 1337) := by
  refine ⟨_,_,rfl,rfl,rfl,?_⟩
  exact given_up_after_every_machine _ exampleTls exampleTcp _ exampleListening noHello twoMachines
    exampleListening_listens _ _ ⟨arrivals,rfl⟩ refusals rfl 0 _
    (@received_at _ refusedConn _ (List.mem_singleton_self _) (List.mem_singleton_self 0))
    (List.mem_singleton_self 0)

-- A bridge keeps its backend and what is dropped stays dropped; what a connection was sent to is
-- what it may be bridged to.
structure Final (listening : Listening) (machines : Machines) (s t : System) : Prop where
  bridged : ∀ bridge ∈ s.bridges, bridge ∈ t.bridges ++ t.closed
  closed : ∀ bridge ∈ s.closed, bridge ∈ t.closed
  dropped : ∀ stream ∈ s.dropped, stream ∈ t.dropped ∧
    ∀ bridge ∈ t.bridges ++ t.closed, bridge.stream ≠ stream
  routed : ∀ stream x destination, At s stream x →
    x.BoundFor (proxy listening machines) destination →
    ∀ y, At t stream y → y.BoundFor (proxy listening machines) destination

theorem decisions_are_final (outcomes : BindOutcomes) (tls : TlsRpHandler)
    (tcp : SimpleTcpHandler) (settings : BindSettings) (listening : Listening) (acceptor : Acceptor)
    (machines : Machines) (hl : Binding.Listens outcomes tls tcp settings listening) (s t : System)
    (hs : Execution.Reachable (System.step listening acceptor) (System.initial machines) s)
    (actions : List Action)
    (h : Execution.run (System.step listening acceptor) s actions = some t) :
    Final listening machines s t := by
  have hlistens : ListensTo tls.destinationProvider tcp.destinationProvider listening :=
    ⟨(Binding.listens_tables hl).1,(Binding.listens_tables hl).2⟩
  have hi := inv_reachable hlistens hs
  have hit := Execution.run_invariant _ (inv_step hlistens) hi h
  constructor
  case bridged =>
    intro bridge hb
    obtain ⟨y,hy,hp⟩ := run_lifecycle hlistens hi h (at_bridge hb)
    rcases Proxy.run_bridged hp with rfl | rfl
    · exact List.mem_append_left _ (at_bridged hy)
    · exact List.mem_append_right _ (at_closed hy)
  case closed =>
    intro bridge hb
    obtain ⟨y,hy,hp⟩ := run_lifecycle hlistens hi h (at_ended hb)
    obtain rfl := Proxy.run_closed hp
    exact at_closed hy
  case dropped =>
    intro stream hd
    obtain ⟨y,hy,hp⟩ := run_lifecycle hlistens hi h (at_given_up hd)
    obtain rfl := Proxy.run_dropped hp
    refine ⟨at_dropped hy,?_⟩
    rintro bridge hb rfl
    rcases List.mem_append.mp hb with hb | hb
    · cases at_unique hit (at_bridge hb) hy
    · cases at_unique hit (at_ended hb) hy
  case routed =>
    intro stream x destination hx hbound y hy
    obtain ⟨z,hz,hp⟩ := run_lifecycle hlistens hi h hx
    obtain rfl := at_unique hit hz hy
    exact Proxy.run_boundFor hp hbound

-- One connection is bridged, one dropped and one received, then the bridge ends and the third is
-- refused.
def threeServed : List Action :=
  [.acceptTls 0 ⟨loopback,40000⟩,.arrive 0 (Utf8.encode "Host: a.example:80\r\n".toList),.peek 0 200,
    .peek 0 200,.send 0,.receive,.start 0 [(loopback,.new 1)],.proceed 0 .refused,
    .proceed 0 .accepted,.finish 0,.acceptTls 0 ⟨loopback,40001⟩,
    .arrive 1 (Utf8.encode "Host: b.example:80\r\n".toList),.peek 0 200,.peek 0 200,
    .acceptTcp 0 ⟨loopback,40002⟩,.send 0,.receive]

def threeEnd : List Action := [.bridgeEnds 0,.start 0 [],.proceed 0 .refused,.finish 0]

theorem bridge_and_drop_are_final : ∃ s t,
    Execution.run (System.step exampleListening noHello) (System.initial exampleMachines)
      threeServed = some s ∧
    s.bridges = [⟨0,⟨loopback,1337⟩⟩] ∧ s.dropped = [1] ∧
    Execution.run (System.step exampleListening noHello) s threeEnd = some t ∧
    t.closed = [⟨0,⟨loopback,1337⟩⟩] ∧ t.dropped = [1,2] ∧
    Final exampleListening exampleMachines s t := by
  refine ⟨_,_,rfl,rfl,rfl,rfl,rfl,rfl,?_⟩
  exact decisions_are_final _ exampleTls exampleTcp _ exampleListening noHello exampleMachines
    exampleListening_listens _ _ ⟨threeServed,rfl⟩ threeEnd rfl

end Lifecycle

end RustyValve
