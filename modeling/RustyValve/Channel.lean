import RustyValve.Lifecycle
import RustyValve.Serving
import Mathlib.Data.List.Basic

namespace RustyValve

namespace Channel

open AcceptLoop (origins)
open Routing

-- What has gone through the channel to the load balancer, and what never reached it.
structure History where
  entered : List Sending
  handed : List ForwardedConnection
  discarded : List ForwardedConnection
  refused : List Sending

def record (s : System) : Action → History → History
  | .send task,h =>
    match s.sending[task]? with
    | none => h
    | some w =>
      if s.receiverOpen then { h with entered := h.entered ++ [w] }
      else { h with refused := h.refused ++ [w] }
  | .receive,h => { h with handed := h.handed ++ s.queue.head?.toList }
  | .closeReceiver,h => { h with discarded := h.discarded ++ s.queue }
  | _,h => h

section Lists
variable {T : Type} {p : T → Bool} {l : List T} {i : ℕ} {x : T}

theorem filter_takeOut (h : l[i]? = some x) :
    (l.filter p).Perm ((if p x then [x] else []) ++ (l.eraseIdx i).filter p) := by
  obtain ⟨hi,rfl⟩ := List.getElem?_eq_some_iff.mp h
  have hp := ((List.getElem_cons_eraseIdx_perm hi).filter p).symm
  rw [List.filter_cons] at hp
  split_ifs at hp ⊢ with hx <;> exact hp

theorem filter_of_only (h : l[i]? = some x) (hone : (l.filter p).length ≤ 1) :
    l.filter p = (if p x then [x] else []) ++ (l.eraseIdx i).filter p := by
  by_cases hx : p x
  · have hp := filter_takeOut (p := p) h
    rw [if_pos hx] at hp ⊢
    have hl := hp.length_eq
    rw [List.singleton_append,List.length_cons] at hl
    have hnil : (l.eraseIdx i).filter p = [] := List.length_eq_zero_iff.mp (by omega)
    rw [hnil] at hp ⊢
    exact List.perm_singleton.mp hp
  · rw [if_neg hx,List.nil_append]
    obtain ⟨hi,rfl⟩ := List.getElem?_eq_some_iff.mp h
    have hl := List.take_append_drop i l
    rw [List.drop_eq_getElem_cons hi] at hl
    conv_lhs => rw [← hl]
    rw [List.eraseIdx_eq_take_drop_succ,List.filter_append,List.filter_append,
      List.filter_cons_of_neg hx]

theorem filter_concat (l : List T) (x : T) :
    (l ++ [x]).filter p = l.filter p ++ if p x then [x] else [] := by
  rw [List.filter_append,List.filter_singleton]
  cases p x <;> rfl

theorem idxsOf_concat {A : Type} [DecidableEq A] (xs : List A) (a b : A) :
    (xs ++ [b]).idxsOf a = xs.idxsOf a ++ if b = a then [xs.length] else [] := by
  rw [List.idxsOf_append,List.idxsOf_cons,List.idxsOf_nil]
  by_cases h : b = a <;> simp [h]

end Lists

def listens (listener : ℕ) (w : Sending) : Bool := w.listener = some listener

-- The task of a TCP listener carries what that listener accepted, any other a TLS connection.
def Labelled (accepted : List Origin) (w : Sending) : Prop :=
  ∀ stream ∈ w.conn.inner.streams, ∃ origin, accepted[stream]? = some origin ∧
    ∀ listener, w.listener = some listener ↔ origin = .tcp listener

structure Orderly (s : System) (h : History) : Prop where
  fifo : h.entered.map Sending.conn = h.handed ++ h.discarded ++ s.queue
  whileOpen : s.receiverOpen = true → h.discarded = [] ∧ h.refused = []
  onceClosed : s.receiverOpen = false → s.queue = []
  labelled : ∀ w ∈ h.entered ++ h.refused ++ s.sending, Labelled (origins s) w
  waits : ∀ listener, (s.sending.filter (listens listener)).length ≤ 1
  inOrder : ∀ listener, (origins s).idxsOf (.tcp listener) =
    ((h.entered ++ h.refused ++ s.sending).filter (listens listener)).flatMap
      (fun w => w.conn.inner.streams)

section Steps
variable {listening : Listening} {acceptor : Acceptor} {s t : System} {h : History}

theorem labelled_concat {accepted : List Origin} {w : Sending} (hw : Labelled accepted w)
    (origin : Origin) : Labelled (accepted ++ [origin]) w := by
  intro stream hs
  obtain ⟨o,ho,hl⟩ := hw stream hs
  have hlt := (List.getElem?_eq_some_iff.mp ho).1
  exact ⟨o,by rw [List.getElem?_append_left hlt]; exact ho,hl⟩

theorem orderly_initial (machines : Machines) : Orderly (System.initial machines) ⟨[],[],[],[]⟩ where
  fifo := rfl
  whileOpen _ := ⟨rfl,rfl⟩
  onceClosed _ := rfl
  labelled w hw := by cases hw
  waits _ := Nat.zero_le _
  inOrder _ := rfl

theorem orderly_of_same (hs : Orderly s h) (ho : origins t = origins s)
    (hw : t.sending = s.sending) (hq : t.queue = s.queue) (hr : t.receiverOpen = s.receiverOpen) :
    Orderly t h := by
  constructor
  · rw [hq]; exact hs.fifo
  · rw [hr]; exact hs.whileOpen
  · rw [hr,hq]; exact hs.onceClosed
  · rw [hw,ho]; exact hs.labelled
  · rw [hw]; exact hs.waits
  · rw [hw,ho]; exact hs.inOrder

theorem orderly_acceptTls (hs : Orderly s h) {listener : ℕ}
    (ho : origins t = origins s ++ [.tls listener]) (hw : t.sending = s.sending)
    (hq : t.queue = s.queue) (hr : t.receiverOpen = s.receiverOpen) : Orderly t h := by
  constructor
  · rw [hq]; exact hs.fifo
  · rw [hr]; exact hs.whileOpen
  · rw [hr,hq]; exact hs.onceClosed
  · rw [hw,ho]; exact fun w hm => labelled_concat (hs.labelled w hm) _
  · rw [hw]; exact hs.waits
  · intro i
    rw [hw,ho,idxsOf_concat,if_neg (by simp),List.append_nil]
    exact hs.inOrder i

theorem orderly_acceptTcp (hs : Orderly s h) {listener : ℕ} {conn : ForwardedConnection}
    (hfree : some listener ∉ s.sending.map Sending.listener)
    (hstream : conn.inner.streams = [(origins s).length])
    (ho : origins t = origins s ++ [.tcp listener])
    (hw : t.sending = s.sending ++ [⟨conn,⟨50⟩,some listener⟩]) (hq : t.queue = s.queue)
    (hr : t.receiverOpen = s.receiverOpen) : Orderly t h := by
  have hnone : s.sending.filter (listens listener) = [] := by
    rw [List.filter_eq_nil_iff]
    intro w hm hl
    exact hfree (List.mem_map.mpr ⟨w,hm,of_decide_eq_true hl⟩)
  constructor
  · rw [hq]; exact hs.fifo
  · rw [hr]; exact hs.whileOpen
  · rw [hr,hq]; exact hs.onceClosed
  · intro w hm
    rw [hw,← List.append_assoc,List.mem_append,List.mem_singleton] at hm
    rw [ho]
    rcases hm with hm | rfl
    · exact labelled_concat (hs.labelled w hm) _
    · intro stream hstr
      rw [hstream,List.mem_singleton] at hstr
      subst hstr
      exact ⟨_,List.getElem?_concat_length,fun i => by simp⟩
  · intro i
    rw [hw,filter_concat]
    by_cases hi : listener = i
    · subst hi
      simp [hnone,listens]
    · simpa [hi,listens] using hs.waits i
  · intro i
    rw [hw,ho,idxsOf_concat,hs.inOrder i,← List.append_assoc,filter_concat,List.flatMap_append]
    by_cases hi : listener = i <;> simp [hi,listens,hstream]

theorem orderly_forwarded (hs : Orderly s h) {conn : ForwardedConnection}
    (hstream : ∀ stream ∈ conn.inner.streams, ∃ listener, (origins s)[stream]? = some (.tls listener))
    (ho : origins t = origins s) (hw : t.sending = s.sending ++ [⟨conn,⟨50⟩,none⟩])
    (hq : t.queue = s.queue) (hr : t.receiverOpen = s.receiverOpen) : Orderly t h := by
  have hfilter (i : ℕ) (l : List Sending) :
      (l ++ [(⟨conn,⟨50⟩,none⟩ : Sending)]).filter (listens i) = l.filter (listens i) := by
    rw [filter_concat]
    simp [listens]
  constructor
  · rw [hq]; exact hs.fifo
  · rw [hr]; exact hs.whileOpen
  · rw [hr,hq]; exact hs.onceClosed
  · intro w hm
    rw [hw,← List.append_assoc,List.mem_append,List.mem_singleton] at hm
    rw [ho]
    rcases hm with hm | rfl
    · exact hs.labelled w hm
    · intro stream hstr
      obtain ⟨listener,hl⟩ := hstream stream hstr
      exact ⟨_,hl,fun i => by simp⟩
  · intro i
    rw [hw,hfilter]
    exact hs.waits i
  · intro i
    rw [hw,ho,← List.append_assoc,hfilter]
    exact hs.inOrder i

section Taken
variable {task : ℕ} {w : Sending}

theorem waits_takeOut (hs : Orderly s h) (task i : ℕ) :
    ((s.sending.eraseIdx task).filter (listens i)).length ≤ 1 :=
  (((List.eraseIdx_sublist _ _).filter _).length_le).trans (hs.waits i)

-- The task goes from where it waits to the end of those before it; no other of its listener waits.
theorem filter_takeOut_append (hs : Orderly s h) (hw : s.sending[task]? = some w) (i : ℕ)
    (before : List Sending) :
    (before ++ [w] ++ s.sending.eraseIdx task).filter (listens i) =
      (before ++ s.sending).filter (listens i) := by
  rw [List.filter_append,List.filter_append,List.filter_append,filter_of_only hw (hs.waits i),
    List.filter_singleton,List.append_assoc]
  cases listens i w <;> rfl

theorem mem_takeOut (hw : s.sending[task]? = some w) {before : List Sending} {x : Sending}
    (hx : x ∈ before ++ [w] ++ s.sending.eraseIdx task) : x ∈ before ++ s.sending := by
  simp only [List.mem_append,List.mem_singleton] at hx ⊢
  rcases hx with (hx | rfl) | hx
  · exact .inl hx
  · exact .inr (List.mem_of_getElem? hw)
  · exact .inr (List.mem_of_mem_eraseIdx hx)

theorem orderly_sends (hs : Orderly s h) (hw : s.sending[task]? = some w)
    (hopen : s.receiverOpen = true) :
    Orderly { s with sending := s.sending.eraseIdx task,queue := s.queue ++ [w.conn] }
      { h with entered := h.entered ++ [w] } := by
  obtain ⟨hd,hrefused⟩ := hs.whileOpen hopen
  constructor
  · rw [List.map_append,hs.fifo,List.append_assoc]
    rfl
  · exact fun _ => ⟨hd,hrefused⟩
  · intro hc
    rw [hopen] at hc
    cases hc
  · intro x hx
    refine hs.labelled x ?_
    rw [hrefused,List.append_nil] at hx ⊢
    exact mem_takeOut hw hx
  · exact waits_takeOut hs task
  · intro i
    have hi := hs.inOrder i
    rw [hrefused,List.append_nil] at hi ⊢
    rw [filter_takeOut_append hs hw]
    exact hi

theorem orderly_refuses (hs : Orderly s h) (hw : s.sending[task]? = some w)
    (hclosed : s.receiverOpen = false) :
    Orderly (System.drop w.conn.inner.streams { s with sending := s.sending.eraseIdx task })
      { h with refused := h.refused ++ [w] } := by
  constructor
  · exact hs.fifo
  · intro ho
    rw [show s.receiverOpen = true from ho] at hclosed
    cases hclosed
  · exact hs.onceClosed
  · intro x hx
    refine hs.labelled x ?_
    rw [← List.append_assoc] at hx
    exact mem_takeOut hw hx
  · exact waits_takeOut hs task
  · intro i
    rw [← List.append_assoc]
    exact (hs.inOrder i).trans (congrArg _ (filter_takeOut_append hs hw i _).symm)

end Taken

theorem record_send {task : ℕ} {w : Sending} (hw : s.sending[task]? = some w) :
    record s (.send task) h =
      if s.receiverOpen then { h with entered := h.entered ++ [w] }
      else { h with refused := h.refused ++ [w] } := by
  rw [record,hw]

theorem orderly_hands (hs : Orderly s h) {conn : ForwardedConnection}
    {queue : List ForwardedConnection} (hq : s.queue = conn :: queue) :
    Orderly { s with queue,tasks := s.tasks ++ [.received conn] }
      { h with handed := h.handed ++ s.queue.head?.toList } := by
  have hopen : s.receiverOpen = true := by
    by_contra hc
    rw [hs.onceClosed (Bool.eq_false_iff.mpr hc)] at hq
    cases hq
  obtain ⟨hd,hrefused⟩ := hs.whileOpen hopen
  constructor
  · rw [hs.fifo,hd,hq]
    simp
  · exact fun _ => ⟨hd,hrefused⟩
  · intro hc
    rw [hopen] at hc
    cases hc
  · exact hs.labelled
  · exact hs.waits
  · exact hs.inOrder

theorem orderly_closes (hs : Orderly s h) :
    Orderly s.closeReceiver { h with discarded := h.discarded ++ s.queue } := by
  constructor
  · rw [hs.fifo]
    exact (List.append_assoc _ _ _).trans (List.append_nil _).symm
  · intro ho
    cases ho
  · exact fun _ => rfl
  · exact hs.labelled
  · exact hs.waits
  · exact hs.inOrder

theorem resumed_origins (task available : ℕ) (held : Inspecting) (client : Client) (s : System) :
    origins (s.resumed task available held client) = origins s :=
  AcceptLoop.origins_modify s.accepted held.stream _ (fun _ => rfl)

theorem forwardConn_ok {forwardTable : ServiceForwardTable} {sender : Sender}
    (hf : forwardTable.forwarder .loadBalancer = .ok sender) (listener : Option ℕ)
    (conn : ForwardedConnection) (s : System) :
    s.forwardConn forwardTable listener conn =
      { s with sending := s.sending ++ [⟨conn,sender,listener⟩] } := by
  simp only [System.forwardConn,hf]

theorem inspected_origin {hosts : HostTable} {routes : List Route} {machines : Machines}
    (hi : Inv hosts routes listening acceptor machines s) {held : Inspecting}
    (hm : held ∈ s.inspecting) : ∃ listener, (origins s)[held.stream]? = some (.tls listener) := by
  obtain ⟨client,hc,-,listener,-,ho⟩ :=
    hi.fits (.inspecting held) (by simp [Custody.holders,Exchange.mem_each,hm])
  exact ⟨listener,by simp [origins,hc,ho]⟩

structure Forwards (listening : Listening) : Prop where
  tls : listening.tlsHttpRp.forwardSender.forwarder .loadBalancer = .ok ⟨50⟩
  tcp : listening.tcpRp.forwardSender.forwarder .loadBalancer = .ok ⟨50⟩

theorem orderly_step (hf : Forwards listening) {hosts : HostTable} {routes : List Route}
    {machines : Machines} (hi : Inv hosts routes listening acceptor machines s) (hs : Orderly s h)
    {action : Action} (hstep : s.step listening acceptor action = some t) :
    Orderly t (record s action h) := by
  cases System.step_moves hstep with
  | @acceptTls listener =>
    refine @orderly_acceptTls _ _ _ hs listener ?_ rfl rfl rfl
    simp only [origins,System.inspect,System.accept,List.map_append]
    rfl
  | acceptTcp remote hl hfree =>
    rw [forwardConn_ok hf.tcp]
    refine orderly_acceptTcp hs hfree ?_ ?_ rfl rfl rfl
    · rw [AcceptLoop.origins_length]
      rfl
    · simp only [origins,System.accept,List.map_append]
      rfl
  | arrive stream bytes =>
    exact orderly_of_same hs (AcceptLoop.origins_modify s.accepted stream _ (fun _ => rfl)) rfl rfl rfl
  | @peekDrops task available held client =>
    exact orderly_of_same hs (resumed_origins task available held client s) rfl rfl rfl
  | @peekGoesOn task available held client =>
    exact orderly_of_same hs (resumed_origins task available held client s) rfl rfl rfl
  | @peekForwards task available held client _ _ _ ht =>
    rw [forwardConn_ok hf.tls]
    refine orderly_forwarded hs ?_ (resumed_origins task available held client s) rfl rfl rfl
    intro stream hstr
    obtain rfl := List.mem_singleton.mp hstr
    exact inspected_origin hi (List.mem_of_getElem? ht)
  | sends hw ho =>
    rw [record_send hw,if_pos ho]
    exact orderly_sends hs hw ho
  | sendFails hw ho =>
    rw [record_send hw,if_neg (by rw [ho]; decide)]
    exact orderly_refuses hs hw ho
  | receive hq => exact orderly_hands hs hq
  | closeReceiver => exact orderly_closes hs
  | peekFails | start | proceed | finish | bridgeEnds => exact orderly_of_same hs rfl rfl rfl rfl

end Steps

def acceptedBy (listener : ℕ) (s : System) (stream : StreamId) : Bool :=
  (origins s)[stream]? = some (.tcp listener)

def streamsOf (conns : List ForwardedConnection) : List StreamId :=
  conns.flatMap (fun conn => conn.inner.streams)

structure KeepsTurns (listener : ℕ) (s : System) (h : History) : Prop where
  oneWaits : (s.sending.filter (listens listener)).length ≤ 1
  accounted : (origins s).idxsOf (.tcp listener) = (streamsOf (h.handed ++ h.discarded ++ s.queue ++
    (h.refused ++ s.sending).map Sending.conn)).filter (acceptedBy listener s)
  received : (streamsOf h.handed).filter (acceptedBy listener s) <+:
    (origins s).idxsOf (.tcp listener)

section Turns
variable {s : System} {h : History}

theorem filter_flatMap_of_labelled {accepted : List Origin} {l : List Sending} (listener : ℕ)
    (hl : ∀ w ∈ l, Labelled accepted w) :
    (l.filter (listens listener)).flatMap (fun w => w.conn.inner.streams) =
      (streamsOf (l.map Sending.conn)).filter
        (fun stream => accepted[stream]? = some (.tcp listener)) := by
  induction l with
  | nil => rfl
  | cons w l ih =>
    have hw := hl w (List.mem_cons_self ..)
    have hrest := ih (fun x hx => hl x (List.mem_cons_of_mem w hx))
    have hstreams : w.conn.inner.streams.filter
        (fun stream => accepted[stream]? = some (.tcp listener)) =
        if listens listener w then w.conn.inner.streams else [] := by
      split_ifs with hlw
      · refine List.filter_eq_self.mpr (fun stream hs => ?_)
        obtain ⟨origin,ho,hlabel⟩ := hw stream hs
        rw [ho,(hlabel listener).mp (of_decide_eq_true hlw)]
        exact decide_eq_true rfl
      · refine List.filter_eq_nil_iff.mpr (fun stream hs hmine => ?_)
        obtain ⟨origin,ho,hlabel⟩ := hw stream hs
        rw [ho] at hmine
        exact hlw (decide_eq_true ((hlabel listener).mpr (Option.some.inj (of_decide_eq_true hmine))))
    rw [streamsOf,List.map_cons,List.flatMap_cons,List.filter_append,hstreams,← streamsOf,← hrest,
      List.filter_cons]
    cases listens listener w <;> rfl

theorem Orderly.keepsTurns (hs : Orderly s h) (listener : ℕ) : KeepsTurns listener s h := by
  have haccounted : (origins s).idxsOf (.tcp listener) = (streamsOf (h.handed ++ h.discarded ++
      s.queue ++ (h.refused ++ s.sending).map Sending.conn)).filter (acceptedBy listener s) := by
    rw [hs.inOrder listener,filter_flatMap_of_labelled listener hs.labelled,List.append_assoc,
      List.map_append,hs.fifo]
    rfl
  refine ⟨hs.waits listener,haccounted,?_⟩
  rw [haccounted]
  simp only [streamsOf,List.flatMap_append,List.filter_append,List.append_assoc]
  exact List.prefix_append _ _

end Turns

section Server
variable {parse : FromStr} {env : LogEnvironment} {load : Str → Except Str SectionMaps}
  {outcomes : BindOutcomes} {configBuilder : ConfigBuilder} {listening : Listening}
  {lb : LoadBalancer}

def history (listening : Listening) (acceptor : Acceptor) (machines : Machines)
    (actions : List Action) : History :=
  Execution.recorded (System.step listening acceptor) record (System.initial machines) actions
    ⟨[],[],[],[]⟩

theorem orderly_run (hstart : start parse env load outcomes configBuilder = .ok ⟨.ok listening,lb⟩)
    {acceptor : Acceptor} {actions : List Action} {s : System}
    (hrun : Execution.run (System.step listening acceptor) (System.initial lb.machines) actions =
      some s) :
    Orderly s (history listening acceptor lb.machines actions) := by
  obtain ⟨b,-,-,rfl,-⟩ := Serving.start_serving hstart
  have hl := Serving.listening_listensTo b
  let P (s : System) (h : History) : Prop :=
    Inv b.tlsRpDestProvider b.tcpRpDestProvider (Serving.listening b) acceptor lb.machines s ∧ Orderly s h
  have hp : P s (history (Serving.listening b) acceptor lb.machines actions) := by
    refine Execution.run_recorded (P := P) _ record ?_ ⟨inv_initial _ _ _ _ _,orderly_initial _⟩ hrun
    intro s h action t hs hstep
    exact ⟨inv_step hl s action t hs.1 hstep,orderly_step ⟨rfl,rfl⟩ hs.1 hs.2 hstep⟩
  exact hp.2

theorem tcp_listeners_keep_turns
    (hstart : start parse env load outcomes configBuilder = .ok ⟨.ok listening,lb⟩)
    (acceptor : Acceptor) (actions : List Action) (s : System)
    (hrun : Execution.run (System.step listening acceptor) (System.initial lb.machines) actions =
      some s) (listener : ℕ) :
    KeepsTurns listener s (history listening acceptor lb.machines actions) :=
  (orderly_run hstart hrun).keepsTurns listener

theorem mail_keeps_turns : ∃ listening lb s, Serving.startProxy = .ok ⟨.ok listening,lb⟩ ∧
    Execution.run (System.step listening noHello) (System.initial lb.machines) Serving.busy = some s ∧
    (origins s).idxsOf (.tcp 0) = [2,3] ∧
    KeepsTurns 0 s (history listening noHello lb.machines Serving.busy) ∧
    (streamsOf (history listening noHello lb.machines Serving.busy).handed).filter
      (acceptedBy 0 s) = [2] := by
  refine ⟨_,_,_,Serving.startProxy_provided,rfl,rfl,?_,rfl⟩
  exact tcp_listeners_keep_turns Serving.startProxy_provided noHello Serving.busy _ rfl 0

end Server

end Channel

end RustyValve
