import RustyValve.Custody.Trades
import RustyValve.Serving
import Mathlib.Algebra.Order.BigOperators.Group.Multiset

namespace RustyValve

namespace Draining

open Custody Routing
open Exchange (each)

section Work

def pointWork : Handling → ℕ
  | .looping _ _ backendList => 2 * backendList.length + 2
  | .connecting _ _ _ backendList => 2 * backendList.length + 3
  | .connectingOnly _ _ => 2
  | .returned _ _ => 1

def Returned : Handling → Prop
  | .returned _ _ => True
  | _ => False

-- How many steps a holder can still take, when there are that many machines.
def work (machineCount : ℕ) : Holder → ℕ
  | .inspecting task =>
    match task.stage with
    | .header => 2 * machineCount + 7
    | .body _ => 2 * machineCount + 6
  | .sending _ => 2 * machineCount + 5
  | .queued _ => 2 * machineCount + 4
  | .handling (.received _) => 2 * machineCount + 3
  | .handling (.running _ point) => pointWork point
  | .bridged _ | .closed _ | .dropped _ => 0

def pending (machineCount : ℕ) (s : System) : ℕ := ((holders s).map (work machineCount)).sum

-- The steps that the server takes on its own, with what it has been given.
def Works (s : System) : Action → Prop
  | .peek _ _ | .peekFails _ | .send _ | .receive | .start _ _ | .finish _ => True
  | .proceed task _ => ∀ destination point, s.tasks[task]? = some (.running destination point) →
      ¬ Returned point
  | .acceptTls _ _ | .acceptTcp _ _ | .arrive _ _ | .closeReceiver | .bridgeEnds _ => False

theorem step_pointWork (outcome : SocketAddr → ConnectOutcome) {point : Handling}
    (h : ¬ Returned point) : pointWork (point.step outcome).1 < pointWork point := by
  cases point with
  | returned attempt innerOpt => exact absurd trivial h
  | looping port innerOpt backends =>
    cases hg : backends.getLast? with
    | none => simp [Handling.step,hg,pointWork]
    | some backend =>
      obtain ⟨front,rfl⟩ := List.getLast?_eq_some_iff.mp hg
      cases innerOpt <;> simp [Handling.step,pointWork]
      omega
  | connecting port inner a backends =>
    rcases hc : DestinationMachine.connect (outcome a) inner a with ⟨left,bridge⟩
    cases left <;> simp [Handling.step,hc,pointWork]
  | connectingOnly inner a => simp [Handling.step,pointWork]

theorem dispatch_pointWork {conn : ForwardedConnection} {machines : Machines}
    {order : List (IpAddr × DestinationMachine)}
    (h : order.Perm (eligible conn.destination.providedIp machines)) :
    pointWork (dispatch (fun _ => order) conn machines) ≤ 2 * machines.size + 2 := by
  have hl : order.length ≤ machines.size := h.length_eq ▸ eligible_length_le _ machines
  unfold dispatch
  cases conn.destination with
  | portOnly port => simpa [attemptConnections,pointWork] using hl
  | portAndAddrs port addrs => simpa [attemptConnections,pointWork] using hl
  | internalService service => simp [pointWork]
  | socket socketAddr => cases hm : machines[socketAddr.ip]? <;> simp [hm,pointWork]

-- A connection that is still to be sent can be, once the channel is empty.
def Sized (machineCount : ℕ) : Holder → Prop
  | .sending task => 0 < task.sender.capacity
  | .handling (.running _ point) => pointWork point ≤ 2 * machineCount + 2
  | _ => True

structure Roomy (listening : Listening) : Prop where
  tls : ∀ sender, listening.tlsHttpRp.forwardSender.forwarder .loadBalancer = .ok sender →
    0 < sender.capacity
  tcp : ∀ sender, listening.tcpRp.forwardSender.forwarder .loadBalancer = .ok sender →
    0 < sender.capacity

theorem work_dropped (n : ℕ) (ids : List StreamId) : ((each .dropped ids).map (work n)).sum = 0 := by
  refine Multiset.sum_eq_zero (fun k hk => ?_)
  obtain ⟨holder,hm,rfl⟩ := Multiset.mem_map.mp hk
  obtain ⟨id,-,rfl⟩ := Exchange.mem_each.mp hm
  rfl

theorem work_forwarded (n : ℕ) (forwardTable : ServiceForwardTable) (listener : Option ℕ)
    (conn : ForwardedConnection) :
    ((forwarded forwardTable listener conn).map (work n)).sum ≤ 2 * n + 5 := by
  unfold forwarded
  cases forwardTable.forwarder .loadBalancer with
  | error e => exact (work_dropped n _).le.trans (Nat.zero_le _)
  | ok sender => exact le_of_eq (Multiset.sum_singleton _)

theorem work_bridged (n : ℕ) (bridges : List Bridge) :
    ((each .bridged bridges).map (work n)).sum = 0 := by
  refine Multiset.sum_eq_zero (fun k hk => ?_)
  obtain ⟨holder,hm,rfl⟩ := Multiset.mem_map.mp hk
  obtain ⟨bridge,-,rfl⟩ := Exchange.mem_each.mp hm
  rfl

end Work

section Steps
variable {listening : Listening} {acceptor : Acceptor} {n : ℕ} {s t : System}

theorem trades_less_work (hn : s.machines.size ≤ n) {action : Action} (hw : Works s action)
    {old new : Multiset Holder} (h : Trades listening s action old new) :
    (new.map (work n)).sum < (old.map (work n)).sum := by
  cases h with
  | acceptTls | acceptTcp | arrive | closeReceiver | bridgeEnds => exact hw.elim
  | @peekDrops t =>
    rw [work_dropped,Multiset.map_singleton,Multiset.sum_singleton,work]
    cases t.stage <;> exact Nat.succ_pos _
  | peekFails t =>
    rw [work_dropped,Multiset.map_singleton,Multiset.sum_singleton,work]
    cases t.stage <;> exact Nat.succ_pos _
  | peekGoesOn _ _ recordHeader hs =>
    simp only [Multiset.map_singleton,Multiset.sum_singleton,work,hs]
    exact Nat.lt_succ_self _
  | peekForwards _ _ settings hs hr =>
    simp only [Multiset.map_singleton,Multiset.sum_singleton,work,hs]
    exact Nat.lt_succ_of_le (work_forwarded n _ _ _)
  | sends | receive =>
    simp only [Multiset.map_singleton,Multiset.sum_singleton,work]
    exact Nat.lt_succ_self _
  | sendFails =>
    rw [work_dropped,Multiset.map_singleton,Multiset.sum_singleton,work]
    exact Nat.succ_pos _
  | start _ ho =>
    have hp := dispatch_pointWork ho
    simp only [Multiset.map_singleton,Multiset.sum_singleton,work]
    omega
  | proceed _ destination point outcome ht =>
    rw [Multiset.map_add,Multiset.sum_add,work_bridged,Nat.add_zero,Multiset.map_singleton,
      Multiset.sum_singleton,Multiset.map_singleton,Multiset.sum_singleton]
    exact step_pointWork _ (hw destination point ht)
  | finish =>
    rw [work_dropped,Multiset.map_singleton,Multiset.sum_singleton]
    exact Nat.one_pos

theorem pointWork_step_le (outcome : SocketAddr → ConnectOutcome) (point : Handling) :
    pointWork (point.step outcome).1 ≤ pointWork point := by
  cases point with
  | returned attempt innerOpt => exact le_rfl
  | looping | connecting | connectingOnly => exact (step_pointWork outcome id).le

theorem sized_dropped (n : ℕ) (ids : List StreamId) : ∀ h ∈ each .dropped ids, Sized n h := by
  intro h hh
  obtain ⟨id,-,rfl⟩ := Exchange.mem_each.mp hh
  trivial

theorem sized_singleton {holder : Holder} (h : Sized n holder) :
    ∀ h ∈ ({holder} : Multiset Holder), Sized n h := by
  intro h' hh
  rw [Multiset.mem_singleton.mp hh]
  exact h

theorem sized_forwarded {forwardTable : ServiceForwardTable} (listener : Option ℕ)
    (conn : ForwardedConnection)
    (hroom : ∀ sender, forwardTable.forwarder .loadBalancer = .ok sender → 0 < sender.capacity) :
    ∀ h ∈ forwarded forwardTable listener conn, Sized n h := by
  unfold forwarded
  cases hf : forwardTable.forwarder .loadBalancer with
  | error e => exact sized_dropped n _
  | ok sender => exact sized_singleton (hroom sender hf)

theorem trades_sized (hroom : Roomy listening) (hn : s.machines.size ≤ n) {action : Action}
    {old new : Multiset Holder} (h : Trades listening s action old new)
    (hold : ∀ h ∈ old, Sized n h) : ∀ h ∈ new, Sized n h := by
  cases h with
  | acceptTls => exact sized_singleton trivial
  | acceptTcp => exact sized_forwarded _ _ hroom.tcp
  | arrive => exact fun h hh => absurd hh (Multiset.notMem_zero h)
  | peekDrops | peekFails | sendFails | closeReceiver | finish => exact sized_dropped n _
  | peekGoesOn | sends | receive | bridgeEnds => exact sized_singleton trivial
  | peekForwards => exact sized_forwarded _ _ hroom.tls
  | start _ ho => exact sized_singleton ((dispatch_pointWork ho).trans (by omega))
  | proceed _ destination point outcome =>
    have hp : pointWork point ≤ 2 * n + 2 := hold _ (Multiset.mem_singleton_self _)
    intro h hh
    rcases Multiset.mem_add.mp hh with hh | hh
    · rw [Multiset.mem_singleton.mp hh]
      exact (pointWork_step_le _ point).trans hp
    · obtain ⟨bridge,-,rfl⟩ := Exchange.mem_each.mp hh
      trivial

theorem moves_size {action : Action} (h : System.Moves listening acceptor s action t) :
    t.machines.size = s.machines.size := by
  cases h with
  | acceptTcp | peekForwards =>
    rw [machines_forwardConn]
    rfl
  | @proceed _ _ point outcome =>
    change (System.bridgeStarted s.machines (point.step (fun _ => outcome)).2).size = _
    cases (point.step (fun _ => outcome)).2 with
    | none => rfl
    | some bridge => exact Std.ExtTreeMap.size_modify
  | bridgeEnds => exact Std.ExtTreeMap.size_modify
  | acceptTls | arrive | peekDrops | peekGoesOn | peekFails | sends | sendFails | receive
      | closeReceiver | start | finish => rfl

structure Fed (n : ℕ) (s : System) : Prop where
  machines : s.machines.size = n
  sized : ∀ h ∈ holders s, Sized n h

theorem fed_step (hroom : Roomy listening) (s : System) (action : Action) (t : System)
    (hs : Fed n s) (h : s.step listening acceptor action = some t) : Fed n t := by
  have hm := System.step_moves h
  obtain ⟨old,new,htrades,hswap⟩ := moves_trades hm
  exact ⟨(moves_size hm).trans hs.machines,
    Exchange.swaps_all hswap hs.sized (trades_sized hroom hs.machines.le htrades)⟩

theorem fed_initial (machines : Machines) : Fed machines.size (System.initial machines) :=
  ⟨rfl,fun h hh => absurd hh (Multiset.notMem_zero h)⟩

theorem step_less_work (s : System) (action : Action) (t : System) (hs : Fed n s)
    (hw : Works s action) (h : s.step listening acceptor action = some t) :
    pending n t < pending n s := by
  obtain ⟨old,new,htrades,hswap⟩ := moves_trades (System.step_moves h)
  exact Exchange.swaps_weighs_less hswap (trades_less_work hs.machines.le hw htrades)

end Steps

structure Idle (s : System) : Prop where
  inspecting : s.inspecting = []
  sending : s.sending = []
  queue : s.queue = []
  tasks : s.tasks = []

def inProgress (s : System) : ℕ :=
  s.inspecting.length + s.sending.length + s.queue.length + s.tasks.length

section Ends
variable {listening : Listening} {acceptor : Acceptor} {n : ℕ} {s : System}

def Stuck (listening : Listening) (acceptor : Acceptor) (s : System) : Prop :=
  ∀ action t, Works s action → s.step listening acceptor action ≠ some t

-- The order in which a connection goes to the machines is the one that the sort leaves.
def Sorts (sort : UnstableSort (IpAddr × DestinationMachine)) (s : System) : Action → Prop
  | .start task order => ∀ conn, s.tasks[task]? = some (.received conn) →
      order = pickBestIp sort conn.destination.providedIp s.machines
  | _ => True

section Idle
variable {sort : UnstableSort (IpAddr × DestinationMachine)}

def StuckSorting (sort : UnstableSort (IpAddr × DestinationMachine)) (listening : Listening)
    (acceptor : Acceptor) (s : System) : Prop :=
  ∀ action t, Works s action ∧ Sorts sort s action → s.step listening acceptor action ≠ some t

theorem not_stuck (action : Action) (hw : Works s action) (ho : Sorts sort s action)
    (h : (s.step listening acceptor action).isSome) : ¬ StuckSorting sort listening acceptor s := by
  obtain ⟨t,ht⟩ := Option.isSome_iff_exists.mp h
  exact fun hs => hs action t ⟨hw,ho⟩ ht

theorem idle_tasks (h : StuckSorting sort listening acceptor s) : s.tasks = [] := by
  cases ht : s.tasks with
  | nil => rfl
  | cons task tasks =>
    have h0 : s.tasks[0]? = some task := by rw [ht]; rfl
    refine absurd h ?_
    cases task with
    | received conn =>
      apply not_stuck (.start 0 (pickBestIp sort conn.destination.providedIp s.machines)) trivial
      · intro conn' hc
        obtain rfl := Task.received.inj (Option.some.inj (h0.symm.trans hc))
        rfl
      · simp [System.step,System.start,h0,pickBestIp_perm]
    | running destination point =>
      cases point with
      | returned attempt innerOpt =>
        apply not_stuck (.finish 0) trivial trivial
        simp [System.step,System.finish,h0]
      | looping | connecting | connectingOnly =>
        refine not_stuck (.proceed 0 .accepted) ?_ trivial ?_
        · intro d p hp
          rw [h0] at hp
          obtain ⟨rfl,rfl⟩ := Task.running.inj (Option.some.inj hp)
          exact id
        · simp [System.step,System.proceed,h0]

theorem idle_queue (h : StuckSorting sort listening acceptor s) : s.queue = [] := by
  cases hq : s.queue with
  | nil => rfl
  | cons conn queue =>
    refine absurd h ?_
    apply not_stuck .receive trivial trivial
    simp [System.step,System.receive,hq]

theorem idle_inspecting (h : StuckSorting sort listening acceptor s) : s.inspecting = [] := by
  cases hi : s.inspecting with
  | nil => rfl
  | cons task inspecting =>
    refine absurd h ?_
    apply not_stuck (.peekFails 0) trivial trivial
    simp [System.step,System.peekFails,hi]

theorem idle_sending (hs : Fed n s) (h : StuckSorting sort listening acceptor s) :
    s.sending = [] := by
  cases hw : s.sending with
  | nil => rfl
  | cons task sending =>
    have hcap : 0 < task.sender.capacity :=
      hs.sized (.sending task) (by simp [holders,Exchange.mem_each,hw])
    have hq := idle_queue h
    refine absurd h ?_
    apply not_stuck (.send 0) trivial trivial
    cases ho : s.receiverOpen <;> simp [System.step,System.send,hw,ho,hq,hcap]

theorem idle_of_stuck (sort : UnstableSort (IpAddr × DestinationMachine)) (hs : Fed n s)
    (h : StuckSorting sort listening acceptor s) : Idle s :=
  ⟨idle_inspecting h,idle_sending hs h,idle_queue h,idle_tasks h⟩

end Idle

theorem stuck_of_idle (hs : Idle s) : Stuck listening acceptor s := by
  intro action t hw h
  cases System.step_moves h with
  | acceptTls | acceptTcp | arrive | closeReceiver | bridgeEnds => exact hw
  | peekDrops ht | peekGoesOn ht | peekForwards ht | peekFails ht =>
    rw [hs.inspecting] at ht
    cases ht
  | sends ht | sendFails ht =>
    rw [hs.sending] at ht
    cases ht
  | receive hq =>
    rw [hs.queue] at hq
    cases hq
  | start ht | proceed _ ht | finish ht =>
    rw [hs.tasks] at ht
    cases ht

theorem stuck_iff_idle (hs : Fed n s) : Stuck listening acceptor s ↔ Idle s := by
  refine ⟨fun h => ?_,stuck_of_idle⟩
  exact idle_of_stuck .stable hs (fun action t hq => h action t hq.1)

theorem reaches_idle (hroom : Roomy listening) (hs : Fed n s)
    (sort : UnstableSort (IpAddr × DestinationMachine)) :
    ∃ t, Execution.Reaches (System.step listening acceptor)
      (fun u action => Works u action ∧ Sorts sort u action) s t ∧ Idle t := by
  have hinv : ∀ u action v, Fed n u → System.step listening acceptor u action = some v → Fed n v :=
    fed_step hroom
  obtain ⟨t,ht,hend⟩ := Execution.reaches_exhausted
    (Q := fun u action => Works u action ∧ Sorts sort u action) hinv
    (fun u action v hu hq h => step_less_work u action v hu hq.1 h) hs
  have hfed := ht.invariant (fun u action v _ hu h => hinv u action v hu h) hs
  exact ⟨t,ht,idle_of_stuck sort hfed hend⟩

theorem idle_settled (hs : Idle s) (ho : owned s = Multiset.range s.accepted.length)
    {stream : StreamId} (hlt : stream < s.accepted.length) :
    stream ∈ streamsAt s .bridged ∨ stream ∈ streamsAt s .dropped := by
  obtain ⟨place,hp,-⟩ := one_place ho hlt
  have hm : stream ∈ streamsAt s place := Multiset.count_pos.mp (by rw [hp]; exact Nat.one_pos)
  cases place with
  | bridged => exact .inl hm
  | dropped => exact .inr hm
  | inspection => simp [streamsAt,hs.inspecting] at hm
  | channel => simp [streamsAt,hs.sending,hs.queue] at hm
  | attempt => simp [streamsAt,hs.tasks] at hm

theorem each_work_le {K : Type} (f : K → Holder) (l : List K) {c : ℕ}
    (h : ∀ x ∈ l, work n (f x) ≤ c) : ((each f l).map (work n)).sum ≤ l.length * c := by
  have hs := Multiset.sum_le_card_nsmul ((each f l).map (work n)) c (fun k hk => by
    obtain ⟨holder,hm,rfl⟩ := Multiset.mem_map.mp hk
    obtain ⟨x,hx,rfl⟩ := Exchange.mem_each.mp hm
    exact h x hx)
  simpa [each] using hs

theorem pending_le (hs : Fed n s) : pending n s ≤ (2 * n + 7) * inProgress s := by
  have hi : ∀ task ∈ s.inspecting, work n (.inspecting task) ≤ 2 * n + 7 := by
    intro task _
    rw [work]
    cases task.stage with
    | header => exact le_rfl
    | body recordHeader => exact Nat.le_succ _
  have hw : ∀ task ∈ s.sending, work n (.sending task) ≤ 2 * n + 7 :=
    fun _ _ => Nat.add_le_add_left (by decide) _
  have hq : ∀ conn ∈ s.queue, work n (.queued conn) ≤ 2 * n + 7 :=
    fun _ _ => Nat.add_le_add_left (by decide) _
  have ht : ∀ task ∈ s.tasks, work n (.handling task) ≤ 2 * n + 7 := by
    intro task hm
    have hsized := hs.sized (.handling task) (by simp [holders,Exchange.mem_each,hm])
    cases task with
    | received conn => exact Nat.add_le_add_left (by decide) _
    | running destination point => exact Nat.le_trans hsized (Nat.add_le_add_left (by decide) _)
  have hb := each_work_le (n := n) (c := 0) Holder.bridged s.bridges (fun _ _ => le_rfl)
  have hc := each_work_le (n := n) (c := 0) Holder.closed s.closed (fun _ _ => le_rfl)
  have hi' := each_work_le Holder.inspecting s.inspecting hi
  have hw' := each_work_le Holder.sending s.sending hw
  have hq' := each_work_le Holder.queued s.queue hq
  have ht' := each_work_le Holder.handling s.tasks ht
  have hd := work_dropped n s.dropped
  rw [Nat.mul_zero] at hb hc
  rw [inProgress,Nat.mul_comm,Nat.add_mul,Nat.add_mul,Nat.add_mul]
  simp only [pending,holders,Multiset.map_add,Multiset.sum_add]
  omega

end Ends

-- What the server does with the connections it has, from any state on.
structure Drains (listening : Listening) (acceptor : Acceptor) (machines : Machines) (s : System) :
    Prop where
  bounded : ∀ actions t, Execution.EachStep (System.step listening acceptor) Works s actions →
    Execution.run (System.step listening acceptor) s actions = some t →
    actions.length ≤ (2 * machines.size + 7) * inProgress s
  stuck : Stuck listening acceptor s ↔ Idle s
  settled : Idle s → ∀ stream < s.accepted.length,
    stream ∈ streamsAt s .bridged ∨ stream ∈ streamsAt s .dropped
  finishes : ∀ sort, ∃ t, Execution.Reaches (System.step listening acceptor)
    (fun u action => Works u action ∧ Sorts sort u action) s t ∧ Idle t

section Server
variable {parse : FromStr} {env : LogEnvironment} {load : Str → Except Str SectionMaps}
  {outcomes : BindOutcomes} {configBuilder : ConfigBuilder} {listening : Listening}
  {lb : LoadBalancer}

theorem listening_roomy (b : ConfigBuilder) : Roomy (Serving.listening b) := by
  have hf : ∀ sender, Startup.forwardTable.forwarder .loadBalancer = .ok sender →
      0 < sender.capacity := by
    intro sender hs
    obtain rfl := Except.ok.inj (InternalRoutes.forwardTable_balances.symm.trans hs)
    decide
  exact ⟨hf,hf⟩

theorem server_drains (hstart : start parse env load outcomes configBuilder = .ok ⟨.ok listening,lb⟩)
    (acceptor : Acceptor) (s : System)
    (hs : Execution.Reachable (System.step listening acceptor) (System.initial lb.machines) s) :
    Drains listening acceptor lb.machines s := by
  obtain ⟨b,-,-,rfl,-⟩ := Serving.start_serving hstart
  have hroom := listening_roomy b
  have hi := inv_reachable (Serving.listening_listensTo b) hs
  have hfed := Execution.reachable_invariant _ (fed_initial lb.machines) (fed_step hroom) hs
  constructor
  case bounded =>
    intro actions t hw ht
    have hl := Execution.run_length_le _ (fed_step hroom) step_less_work hfed hw ht
    exact ((Nat.le_add_right _ _).trans hl).trans (pending_le hfed)
  case stuck => exact stuck_iff_idle hfed
  case settled => exact fun hidle stream hlt => idle_settled hidle hi.owned hlt
  case finishes =>
    intro sort
    exact reaches_idle hroom hfed sort

theorem tarpit_visit_drains : ∃ listening lb s,
    InternalRoutes.startTarpit = .ok ⟨.ok listening,lb⟩ ∧
    .internalService .sshTarpit ∈ InternalRoutes.sentDestinations s ∧
    Drains listening noHello lb.machines s := by
  obtain ⟨b,log,listening,lb,s,hini,hstart,hrun,hd⟩ := InternalRoutes.tarpit_visited
  exact ⟨listening,lb,s,hstart,hd,server_drains hstart noHello s ⟨_,hrun⟩⟩

end Server

end Draining

end RustyValve
