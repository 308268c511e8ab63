import RustyValve.HandlerSet
import RustyValve.Routing

namespace RustyValve

namespace AcceptLoop

open Execution Routing
open Exchange (each)

section Tasks

-- A TLS task awaits the channel on its own; a TCP listener awaits it inside its loop.
def sendingTask (task : Sending) : Multiset StreamId :=
  if task.listener = none then task.conn.inner.streams else 0

def running (s : System) : Multiset StreamId :=
  each Inspecting.stream s.inspecting + (each id s.sending).bind sendingTask

theorem running_inspect (s : System) (task : Inspecting) :
    running (s.inspect task) = {task.stream} + running s := by
  simp only [running,System.inspect,Exchange.each_append,Exchange.each_cons,Exchange.each_nil,add_zero]
  abel

theorem running_takeOut_inspecting {s : System} {i : ℕ} {task : Inspecting}
    (h : s.inspecting[i]? = some task) :
    running s = {task.stream} + running { s with inspecting := s.inspecting.eraseIdx i } := by
  simp only [running,Exchange.each_takeOut h,add_assoc]

theorem running_takeOut_sending {s : System} {i : ℕ} {task : Sending}
    (h : s.sending[i]? = some task) :
    running s = sendingTask task + running { s with sending := s.sending.eraseIdx i } := by
  simp only [running,Exchange.each_takeOut h,Multiset.add_bind,Multiset.singleton_bind,id]
  abel

theorem running_forwardConn (s : System) (forwardTable : ServiceForwardTable) (listener : Option ℕ)
    (conn : ForwardedConnection) :
    running (s.forwardConn forwardTable listener conn) = running s ∨
      ∃ sender, running (s.forwardConn forwardTable listener conn) =
        sendingTask ⟨conn,sender,listener⟩ + running s := by
  unfold System.forwardConn
  cases forwardTable.forwarder .loadBalancer with
  | error e => exact .inl rfl
  | ok sender =>
    refine .inr ⟨sender,?_⟩
    simp only [running,Exchange.each_append,Exchange.each_cons,Exchange.each_nil,add_zero,
      Multiset.add_bind,Multiset.singleton_bind,id]
    abel

theorem sendingTask_cases (task : Sending) :
    sendingTask task = 0 ∨ ∃ stream, sendingTask task = {stream} := by
  unfold sendingTask
  split_ifs
  · cases task.conn.inner with
    | tcp stream => exact .inr ⟨stream,rfl⟩
    | quic => exact .inl rfl
  · exact .inl rfl

def origins (s : System) : List Origin := s.accepted.map Client.origin

theorem origins_modify (accepted : List Client) (stream : StreamId) (f : Client → Client)
    (hf : ∀ client, (f client).origin = client.origin) :
    (accepted.modify stream f).map Client.origin = accepted.map Client.origin := by
  apply List.ext_getElem?
  intro i
  simp only [List.getElem?_map,List.getElem?_modify]
  split_ifs
  · cases accepted[i]? <;> simp [hf]
  · simp

def started : Origin → StreamId → Multiset StreamId
  | .tls _,stream => {stream}
  | .tcp _,_ => 0

-- What a step of the server does for the accept loops.
inductive Progress (s t : System) : Prop where
  | accepts (origin : Origin) (horigins : origins t = origins s ++ [origin])
      (hrun : running t = started origin s.accepted.length + running s)
  | goesOn (horigins : origins t = origins s) (hrun : running t = running s)
  | finishes (stream : StreamId) (horigins : origins t = origins s)
      (hrun : running s = {stream} + running t)

end Tasks

section Steps
variable {listening : Listening} {acceptor : Acceptor} {s t : System}

theorem progress_resumed {task available : ℕ} {held : Inspecting} {client : Client}
    (ht : s.inspecting[task]? = some held)
    (haccepted : t.accepted = (s.resumed task available held client).accepted)
    (hrun : running t = running (s.resumed task available held client) ∨
      running t = {held.stream} + running (s.resumed task available held client)) :
    Progress s t := by
  have horigins : origins t = origins s := by
    rw [origins,haccepted]
    exact origins_modify s.accepted held.stream _ (fun _ => rfl)
  have htake : running s = {held.stream} + running (s.resumed task available held client) :=
    running_takeOut_inspecting ht
  rcases hrun with hr | hr
  · exact .finishes held.stream horigins (by rw [hr,htake])
  · exact .goesOn horigins (by rw [hr,htake])

theorem progress_sent {task : ℕ} {held : Sending} (hs : s.sending[task]? = some held)
    (horigins : origins t = origins s)
    (hrun : running t = running { s with sending := s.sending.eraseIdx task }) : Progress s t := by
  have htake := running_takeOut_sending hs
  rcases sendingTask_cases held with hz | ⟨stream,hz⟩
  · exact .goesOn horigins (by rw [hrun,htake,hz,zero_add])
  · exact .finishes stream horigins (by rw [htake,hz,hrun])

theorem progress_moves {action : Action} (h : System.Moves listening acceptor s action t) :
    Progress s t := by
  cases h with
  | @acceptTls listener remote hl =>
    exact .accepts (.tls listener) (by simp [origins,System.inspect,System.accept])
      (running_inspect _ _)
  | @acceptTcp listener tcpListener route remote hl hfree =>
    refine .accepts (.tcp listener) ?_ ?_
    · simp [origins,accepted_forwardConn,System.accept]
    · rcases running_forwardConn (s.accept (.tcp listener)) listening.tcpRp.forwardSender
          (some listener) (.newTcpConn s.accepted.length remote listening.tcpRp.connectionSettings
            route.2.destination) with hr | ⟨sender,hr⟩ <;> rw [hr,started,zero_add]
      · rfl
      · exact zero_add _
  | arrive stream bytes => exact .goesOn (origins_modify s.accepted stream _ (fun _ => rfl)) rfl
  | peekDrops ht => exact progress_resumed ht rfl (.inl rfl)
  | peekGoesOn ht => exact progress_resumed ht rfl (.inr (running_inspect _ _))
  | peekForwards ht =>
    refine progress_resumed ht (accepted_forwardConn _ _ _ _) ?_
    rcases running_forwardConn _ _ _ _ with hr | ⟨sender,hr⟩
    · exact .inl hr
    · exact .inr hr
  | peekFails ht => exact .finishes _ rfl (running_takeOut_inspecting ht)
  | sends hw | sendFails hw => exact progress_sent hw rfl rfl
  | receive | closeReceiver | start | proceed | finish | bridgeEnds => exact .goesOn rfl rfl

end Steps

section Simulation
variable {hosts : HostTable} {routes : List Route} {listening : Listening} {acceptor : Acceptor}
  {machines : Machines} (listener : ℕ)

def fromListener (s : System) (stream : StreamId) : Bool :=
  (origins s)[stream]? = some (.tls listener)

def acceptedBy (s : System) : List StreamId :=
  (List.range s.accepted.length).filter (fromListener listener s)

def runningFor (s : System) : Multiset StreamId := (running s).filter (fun stream => fromListener listener s stream)

structure Simulates (s : System) (c : ListenTls) : Prop where
  accepted : c.accepted = acceptedBy listener s
  running : (c.running : Multiset StreamId) = runningFor listener s

theorem origins_length (s : System) : (origins s).length = s.accepted.length := List.length_map _

theorem running_lt {s : System} (hi : Inv hosts routes listening acceptor machines s)
    {stream : StreamId} (h : stream ∈ running s) : stream < s.accepted.length := by
  have hlt {client : Client} (hc : s.accepted[stream]? = some client) : stream < s.accepted.length :=
    (List.getElem?_eq_some_iff.mp hc).1
  rcases Multiset.mem_add.mp h with h | h
  · obtain ⟨task,hm,rfl⟩ := Exchange.mem_each.mp h
    obtain ⟨client,hc,-⟩ := hi.fits (.inspecting task) (by simp [Custody.holders,Exchange.mem_each,hm])
    exact hlt hc
  · obtain ⟨task,hm,hs⟩ := Multiset.mem_bind.mp h
    obtain ⟨held,hw,rfl⟩ := Exchange.mem_each.mp hm
    have hcarries := hi.fits (.sending held) (by simp [Custody.holders,Exchange.mem_each,hw])
    unfold sendingTask at hs
    split_ifs at hs
    · obtain ⟨client,hc,-⟩ := hcarries stream hs
      exact hlt hc
    · cases hs

theorem fromListener_congr {s t : System} (h : origins t = origins s) :
    fromListener listener t = fromListener listener s := by
  funext stream
  rw [fromListener,fromListener,h]

theorem acceptedBy_congr {s t : System} (h : origins t = origins s) :
    acceptedBy listener t = acceptedBy listener s := by
  have hl : t.accepted.length = s.accepted.length := by
    rw [← origins_length,← origins_length,h]
  rw [acceptedBy,acceptedBy,hl,fromListener_congr listener h]

theorem fromListener_old {s t : System} {origin : Origin} (h : origins t = origins s ++ [origin])
    {stream : StreamId} (hs : stream < s.accepted.length) :
    fromListener listener t stream = fromListener listener s stream := by
  rw [fromListener,fromListener,h,List.getElem?_append_left (by rw [origins_length]; exact hs)]

theorem fromListener_new {s t : System} {origin : Origin} (h : origins t = origins s ++ [origin]) :
    fromListener listener t s.accepted.length = decide (origin = .tls listener) := by
  simp only [fromListener,h,← origins_length,List.getElem?_concat_length,Option.some.injEq]

theorem acceptedBy_accepts {s t : System} {origin : Origin} (h : origins t = origins s ++ [origin]) :
    acceptedBy listener t =
      acceptedBy listener s ++ if origin = .tls listener then [s.accepted.length] else [] := by
  have hl : t.accepted.length = s.accepted.length + 1 := by
    rw [← origins_length t,h,List.length_append,origins_length]
    rfl
  have hold : (List.range s.accepted.length).filter (fromListener listener t) =
      acceptedBy listener s :=
    List.filter_congr (fun stream hs => fromListener_old listener h (List.mem_range.mp hs))
  rw [acceptedBy,hl,List.range_succ,List.filter_append,hold,List.filter_singleton,
    fromListener_new listener h,Bool.cond_decide]

theorem runningFor_accepts {s t : System} (hi : Inv hosts routes listening acceptor machines s)
    {origin : Origin} (h : origins t = origins s ++ [origin])
    (hrun : running t = started origin s.accepted.length + running s) :
    runningFor listener t =
      (if origin = .tls listener then {s.accepted.length} else 0) + runningFor listener s := by
  have hold : (running s).filter (fun stream => fromListener listener t stream) =
      runningFor listener s :=
    Multiset.filter_congr (fun stream hs => by rw [fromListener_old listener h (running_lt hi hs)])
  rw [runningFor,hrun,Multiset.filter_add,hold]
  congr 1
  cases origin with
  | tls other =>
    rw [started,Multiset.filter_singleton]
    simp only [fromListener_new listener h,decide_eq_true_eq]
    rfl
  | tcp other => simp [started]

theorem runningFor_finishes {s t : System} {stream : StreamId} (h : origins t = origins s)
    (hrun : running s = {stream} + running t) :
    runningFor listener s =
      (if fromListener listener s stream then {stream} else 0) + runningFor listener t := by
  rw [runningFor,hrun,Multiset.filter_add,Multiset.filter_singleton,runningFor,
    fromListener_congr listener h]
  rfl

variable {listener}

theorem simulates_accepts {s t : System} {c : ListenTls}
    (hi : Inv hosts routes listening acceptor machines s) (hsim : Simulates listener s c)
    {origin : Origin} (h : origins t = origins s ++ [origin])
    (hrun : running t = started origin s.accepted.length + running s) :
    ∃ events c', run ListenTls.step c events = some c' ∧ Simulates listener t c' := by
  have haccepted := acceptedBy_accepts listener h
  have hrunning := runningFor_accepts listener hi h hrun
  rw [← hsim.accepted] at haccepted
  rw [← hsim.running] at hrunning
  by_cases ho : origin = .tls listener
  · rw [if_pos ho] at haccepted hrunning
    have hnew : s.accepted.length ∉ c.accepted := by
      rw [hsim.accepted]
      exact fun hm => Nat.lt_irrefl _ (List.mem_range.mp (List.mem_of_mem_filter hm))
    refine ⟨[.accepts s.accepted.length],c.spawn s.accepted.length,?_,⟨haccepted.symm,?_⟩⟩
    · rw [run_cons,ListenTls.step_accepts.mpr ⟨hnew,rfl⟩,Option.bind_some,run_nil]
    · rw [hrunning,add_comm]
      rfl
  · rw [if_neg ho] at haccepted hrunning
    refine ⟨[],c,rfl,⟨?_,?_⟩⟩
    · rw [haccepted,List.append_nil]
    · rw [hrunning,zero_add]

theorem simulates_finishes {s t : System} {c : ListenTls} (hsim : Simulates listener s c)
    {stream : StreamId} (h : origins t = origins s) (hrun : running s = {stream} + running t) :
    ∃ events c', run ListenTls.step c events = some c' ∧ Simulates listener t c' := by
  have haccepted := acceptedBy_congr listener h
  have hrunning := runningFor_finishes listener h hrun
  rw [← hsim.accepted] at haccepted
  rw [← hsim.running] at hrunning
  by_cases ho : fromListener listener s stream
  · rw [if_pos ho] at hrunning
    have hm : stream ∈ c.running := by
      rw [← Multiset.mem_coe,hrunning]
      exact Multiset.mem_add.mpr (.inl (Multiset.mem_singleton_self stream))
    refine ⟨[.finishes stream],c.finish stream,?_,⟨haccepted.symm,?_⟩⟩
    · rw [run_cons,ListenTls.step_finishes.mpr ⟨hm,rfl⟩,Option.bind_some,run_nil]
    · rw [ListenTls.finish,← Multiset.coe_erase,hrunning,Multiset.singleton_add,
        Multiset.erase_cons_head]
  · rw [if_neg ho,zero_add] at hrunning
    exact ⟨[],c,rfl,⟨haccepted.symm,hrunning⟩⟩

theorem simulates_step {s t : System} {c : ListenTls}
    (hi : Inv hosts routes listening acceptor machines s) (hsim : Simulates listener s c)
    (hp : Progress s t) :
    ∃ events c', run ListenTls.step c events = some c' ∧ Simulates listener t c' := by
  cases hp with
  | accepts origin h hrun => exact simulates_accepts hi hsim h hrun
  | finishes stream h hrun => exact simulates_finishes hsim h hrun
  | goesOn h hrun =>
    refine ⟨[],c,rfl,⟨?_,?_⟩⟩
    · rw [hsim.accepted,acceptedBy_congr listener h]
    · rw [hsim.running,runningFor,runningFor,hrun,fromListener_congr listener h]

theorem simulates_initial : Simulates listener (System.initial machines) ListenTls.initial :=
  ⟨rfl,rfl⟩

-- Each TLS listener of the server runs its accept loop, and its set keeps an entry for each of its
-- connections.
theorem loop_of_run (hl : ListensTo hosts routes listening) (listener : ℕ) {s : System}
    (h : Reachable (System.step listening acceptor) (System.initial machines) s) :
    ∃ events c, run ListenTls.step ListenTls.initial events = some c ∧ Simulates listener s c ∧
      c.handlerSet.entries = acceptedBy listener s := by
  obtain ⟨actions,h⟩ := h
  obtain ⟨events,c,hc,hsim⟩ := run_simulated (R := Simulates listener) (inv_step hl)
    (fun s a t c hi hsim ht => simulates_step hi hsim (progress_moves (System.step_moves ht)))
    (inv_initial hosts routes listening acceptor machines) simulates_initial h
  have hjoined := run_invariant ListenTls.step ListenTls.step_nothingJoined
    ListenTls.initial_nothingJoined hc
  exact ⟨events,c,hc,hsim,hjoined.trans hsim.accepted⟩

end Simulation

end AcceptLoop

end RustyValve
