import RustyValve.Failover
import RustyValve.Library.Exchange
import RustyValve.System
import Mathlib.Data.Multiset.Range
import Mathlib.Tactic.Abel

namespace RustyValve

namespace Custody

open Exchange (each)

inductive Holder where
  | inspecting (task : Inspecting)
  | sending (task : Sending)
  | queued (conn : ForwardedConnection)
  | handling (task : Task)
  | bridged (bridge : Bridge)
  | closed (bridge : Bridge)
  | dropped (stream : StreamId)

def pointStreams (point : Handling) : List StreamId :=
  (Run.pointHolders point).flatMap ConnectionInner.streams

def taskStreams : Task → List StreamId
  | .received conn => conn.inner.streams
  | .running _ point => pointStreams point

def streams : Holder → Multiset StreamId
  | .inspecting task => {task.stream}
  | .sending task => task.conn.inner.streams
  | .queued conn => conn.inner.streams
  | .handling task => taskStreams task
  | .bridged bridge => {bridge.stream}
  | .closed bridge => {bridge.stream}
  | .dropped stream => {stream}

def holders (s : System) : Multiset Holder :=
  each .inspecting s.inspecting + each .sending s.sending + each .queued s.queue +
    each .handling s.tasks + each .bridged s.bridges + each .closed s.closed +
    each .dropped s.dropped

def owned (s : System) : Multiset StreamId := (holders s).bind streams

theorem bind_dropped (ids : List StreamId) : (each .dropped ids).bind streams = ids := by
  rw [Exchange.each_bind]
  exact (Multiset.bind_singleton _ id).trans (congrArg _ (List.map_id ids))

theorem bind_bridged (bridges : List Bridge) :
    (each .bridged bridges).bind streams = bridges.map Bridge.stream := by
  rw [Exchange.each_bind]
  exact Multiset.bind_singleton _ Bridge.stream

section Holders
variable (s : System)

theorem holders_drop (ids : List StreamId) :
    holders (s.drop ids) = each .dropped ids + holders s := by
  simp only [holders,System.drop,Exchange.each_append]
  abel

theorem holders_inspect (task : Inspecting) :
    holders (s.inspect task) = {.inspecting task} + holders s := by
  simp only [holders,System.inspect,Exchange.each_append,Exchange.each_cons,Exchange.each_nil]
  abel

def forwarded (forwardTable : ServiceForwardTable) (listener : Option ℕ)
    (conn : ForwardedConnection) : Multiset Holder :=
  match forwardTable.forwarder .loadBalancer with
  | .error _ => each .dropped conn.inner.streams
  | .ok sender => {.sending ⟨conn,sender,listener⟩}

theorem holders_forwardConn (forwardTable : ServiceForwardTable) (listener : Option ℕ)
    (conn : ForwardedConnection) :
    holders (s.forwardConn forwardTable listener conn) =
      forwarded forwardTable listener conn + holders s := by
  unfold System.forwardConn forwarded
  cases forwardTable.forwarder .loadBalancer with
  | error e => exact holders_drop s _
  | ok sender =>
    simp only [holders,Exchange.each_append,Exchange.each_cons,Exchange.each_nil]
    abel

theorem bind_forwarded (forwardTable : ServiceForwardTable) (listener : Option ℕ)
    (conn : ForwardedConnection) :
    (forwarded forwardTable listener conn).bind streams = conn.inner.streams := by
  unfold forwarded
  cases forwardTable.forwarder .loadBalancer with
  | error e => exact bind_dropped _
  | ok sender => exact Multiset.singleton_bind _ _

theorem takeOut_inspecting {i : ℕ} {task : Inspecting} (h : s.inspecting[i]? = some task) :
    holders s = {.inspecting task} + holders { s with inspecting := s.inspecting.eraseIdx i } := by
  simp only [holders,Exchange.each_takeOut h]
  abel

theorem takeOut_sending {i : ℕ} {task : Sending} (h : s.sending[i]? = some task) :
    holders s = {.sending task} + holders { s with sending := s.sending.eraseIdx i } := by
  simp only [holders,Exchange.each_takeOut h]
  abel

theorem takeOut_task {i : ℕ} {task : Task} (h : s.tasks[i]? = some task) :
    holders s = {.handling task} + holders { s with tasks := s.tasks.eraseIdx i } := by
  simp only [holders,Exchange.each_takeOut h]
  abel

theorem takeOut_bridge {i : ℕ} {bridge : Bridge} (h : s.bridges[i]? = some bridge) :
    holders s = {.bridged bridge} + holders { s with bridges := s.bridges.eraseIdx i } := by
  simp only [holders,Exchange.each_takeOut h]
  abel

theorem holders_enqueue (conn : ForwardedConnection) :
    holders { s with queue := s.queue ++ [conn] } = {.queued conn} + holders s := by
  simp only [holders,Exchange.each_append,Exchange.each_cons,Exchange.each_nil]
  abel

theorem takeOut_queue {conn : ForwardedConnection} {queue : List ForwardedConnection}
    (h : s.queue = conn :: queue) :
    holders s = {.queued conn} + holders { s with queue } := by
  simp only [holders,h,Exchange.each_cons]
  abel

theorem holders_spawn (task : Task) :
    holders { s with tasks := s.tasks ++ [task] } = {.handling task} + holders s := by
  simp only [holders,Exchange.each_append,Exchange.each_cons,Exchange.each_nil]
  abel

theorem holders_advance (task : Task) (bridges : List Bridge) :
    holders { s with tasks := s.tasks ++ [task],bridges := s.bridges ++ bridges } =
      {.handling task} + each .bridged bridges + holders s := by
  simp only [holders,Exchange.each_append,Exchange.each_cons,Exchange.each_nil]
  abel

theorem holders_close (bridge : Bridge) :
    holders { s with closed := s.closed ++ [bridge] } = {.closed bridge} + holders s := by
  simp only [holders,Exchange.each_append,Exchange.each_cons,Exchange.each_nil]
  abel

theorem takeOut_queued : holders s = each .queued s.queue + holders { s with queue := [] } := by
  simp only [holders,Exchange.each_nil]
  abel

end Holders

section Handling

theorem bridgeHolders_streams (bridges : List Bridge) :
    (Run.bridgeHolders bridges).flatMap ConnectionInner.streams = bridges.map Bridge.stream := by
  rw [Run.bridgeHolders,List.flatMap_map,List.map_eq_flatMap]
  rfl

theorem step_streams (outcome : SocketAddr → ConnectOutcome) (point : Handling) :
    pointStreams (point.step outcome).1 ++ (point.step outcome).2.toList.map Bridge.stream =
      pointStreams point := by
  rw [pointStreams,pointStreams,← bridgeHolders_streams,← List.flatMap_append,Run.step_holders]

theorem dispatch_streams (pick : Option (List IpAddr) → List (IpAddr × DestinationMachine))
    (conn : ForwardedConnection) (addresses : Machines) :
    pointStreams (dispatch pick conn addresses) = conn.inner.streams := by
  unfold dispatch
  cases conn.destination with
  | portOnly port => simp [attemptConnections,pointStreams]
  | portAndAddrs port addrs => simp [attemptConnections,pointStreams]
  | internalService service => simp [pointStreams]
  | socket socketAddr =>
    cases hm : addresses[socketAddr.ip]? <;> simp [hm,pointStreams]

end Handling

inductive Place where
  | inspection
  | channel
  | attempt
  | bridged
  | dropped
deriving DecidableEq, Repr

-- A bridge that has ended has dropped its stream.
def streamsAt (s : System) : Place → Multiset StreamId
  | .inspection => s.inspecting.map Inspecting.stream
  | .channel => (s.sending.map Sending.conn ++ s.queue).flatMap (fun conn => conn.inner.streams)
  | .attempt => s.tasks.flatMap taskStreams
  | .bridged => s.bridges.map Bridge.stream
  | .dropped => s.closed.map Bridge.stream ++ s.dropped

theorem owned_eq (s : System) : owned s = streamsAt s .inspection + streamsAt s .channel +
    streamsAt s .attempt + streamsAt s .bridged + streamsAt s .dropped := by
  have hs {K : Type} (f : K → StreamId) (l : List K) :
      (Multiset.ofList l).bind (fun x => ({f x} : Multiset StreamId)) = l.map f :=
    Multiset.bind_singleton _ f
  have hl {K : Type} (f : K → List StreamId) (l : List K) :
      (Multiset.ofList l).bind (fun x => (f x : Multiset StreamId)) = l.flatMap f :=
    Multiset.coe_bind l f
  simp only [owned,holders,Multiset.add_bind,Exchange.each_bind,streams,hs,hl,streamsAt,
    List.flatMap_append,List.flatMap_map,List.map_id',← Multiset.coe_add]
  abel

theorem bridge_streams_le (s : System) :
    Multiset.ofList ((s.bridges ++ s.closed).map Bridge.stream) ≤ owned s := by
  rw [owned_eq,List.map_append,← Multiset.coe_add]
  simp only [streamsAt,← Multiset.coe_add]
  refine Multiset.le_iff_exists_add.mpr ⟨streamsAt s .inspection + streamsAt s .channel +
    streamsAt s .attempt + s.dropped,?_⟩
  simp only [streamsAt]
  abel

theorem mem_holders_bridge {s : System} {bridge : Bridge} (h : bridge ∈ s.bridges ++ s.closed) :
    .bridged bridge ∈ holders s ∨ .closed bridge ∈ holders s := by
  simp only [holders,Multiset.mem_add,Exchange.mem_each]
  rcases List.mem_append.mp h with h | h <;> simp [h]

theorem one_place {s : System} (h : owned s = Multiset.range s.accepted.length) {stream : StreamId}
    (hs : stream < s.accepted.length) :
    ∃ place, (streamsAt s place).count stream = 1 ∧ ∀ other ≠ place, stream ∉ streamsAt s other := by
  have hc : (owned s).count stream = 1 := by
    rw [h]
    exact Multiset.count_eq_one_of_mem (Multiset.nodup_range _) (Multiset.mem_range.mpr hs)
  simp only [owned_eq,Multiset.count_add] at hc
  have hsome : ∃ place, (streamsAt s place).count stream ≠ 0 := by
    by_contra hno
    simp only [not_exists,not_not] at hno
    simp [hno] at hc
  obtain ⟨place,hp⟩ := hsome
  refine ⟨place,?_,fun other hne => Multiset.count_eq_zero.mp ?_⟩
  · cases place <;> omega
  · cases place <;> cases other <;> first | exact absurd rfl hne | omega

end Custody

end RustyValve
