import RustyValve.Binding
import RustyValve.Library.Execution
import RustyValve.Moves
import RustyValve.Routing.Invariant

namespace RustyValve

namespace Routing

open Custody
open Exchange (each)

section Steps
variable {hosts : HostTable} {routes : List Route} {listening : Listening} {acceptor : Acceptor}
  {machines : Machines} {s t : System}

theorem accepted_forwardConn (forwardTable : ServiceForwardTable) (listener : Option ℕ)
    (conn : ForwardedConnection) (s : System) :
    (s.forwardConn forwardTable listener conn).accepted = s.accepted := by
  unfold System.forwardConn
  cases forwardTable.forwarder .loadBalancer <;> rfl

theorem machines_forwardConn (forwardTable : ServiceForwardTable) (listener : Option ℕ)
    (conn : ForwardedConnection) (s : System) :
    (s.forwardConn forwardTable listener conn).machines = s.machines := by
  unfold System.forwardConn
  cases forwardTable.forwarder .loadBalancer <;> rfl

-- Steps that leave the accepted connections alone.
theorem inv_of_exchange (hi : Inv hosts routes listening acceptor machines s)
    {old new : Multiset Holder} (hswap : Exchange.Swaps (holders s) (holders t) old new)
    (hstreams : new.bind streams = old.bind streams) (haccepted : t.accepted = s.accepted)
    (hmachines : ∀ ip, ip ∈ t.machines ↔ ip ∈ s.machines)
    (hfits : ∀ h ∈ new, Fits hosts routes listening acceptor machines s.accepted h) :
    Inv hosts routes listening acceptor machines t :=
  inv_of_swaps old new 0 hi hswap (by rw [hstreams,add_zero]) (by rw [haccepted,add_zero])
    (fun stream _ => haccepted ▸ keeps_refl s.accepted stream) hmachines (haccepted ▸ hfits)

theorem fits_singleton {accepted : List Client} {holder : Holder}
    (hf : Fits hosts routes listening acceptor machines accepted holder) :
    ∀ h ∈ ({holder} : Multiset Holder),
      Fits hosts routes listening acceptor machines accepted h := by
  intro h hh
  rw [Multiset.mem_singleton.mp hh]
  exact hf

-- One holder passes on what it holds to another.
theorem inv_of_passed (hi : Inv hosts routes listening acceptor machines s) {old new : Holder}
    {rest : Multiset Holder} (hs : holders s = {old} + rest) (ht : holders t = {new} + rest)
    (hstreams : streams new = streams old) (haccepted : t.accepted = s.accepted)
    (hmachines : ∀ ip, ip ∈ t.machines ↔ ip ∈ s.machines)
    (hfits : Fits hosts routes listening acceptor machines s.accepted new) :
    Inv hosts routes listening acceptor machines t :=
  inv_of_exchange hi ⟨rest,hs,ht⟩
    (by rw [Multiset.singleton_bind,Multiset.singleton_bind,hstreams]) haccepted hmachines
    (fits_singleton hfits)

theorem fits_dropped (accepted : List Client) (ids : List StreamId) :
    ∀ h ∈ each .dropped ids, Fits hosts routes listening acceptor machines accepted h := by
  intro h hh
  obtain ⟨id,-,rfl⟩ := Exchange.mem_each.mp hh
  trivial

theorem fits_forwarded {accepted : List Client} {forwardTable : ServiceForwardTable}
    {listener : Option ℕ} {conn : ForwardedConnection}
    (hc : Carries hosts routes listening acceptor accepted conn) :
    ∀ h ∈ forwarded forwardTable listener conn,
      Fits hosts routes listening acceptor machines accepted h := by
  unfold forwarded
  cases forwardTable.forwarder .loadBalancer with
  | error e => exact fits_dropped accepted _
  | ok sender => exact fits_singleton hc

theorem fits_of_mem (hi : Inv hosts routes listening acceptor machines s) {h : Holder}
    {rest : Multiset Holder} (hh : holders s = {h} + rest) :
    Fits hosts routes listening acceptor machines s.accepted h :=
  hi.fits h (by rw [hh]; exact Multiset.mem_add.mpr (.inl (Multiset.mem_singleton_self h)))

theorem range_append (accepted : List Client) (client : Client) :
    Multiset.range (accepted ++ [client]).length =
      Multiset.range accepted.length + {accepted.length} := by
  rw [List.length_append,List.length_singleton,Multiset.range_succ,← Multiset.singleton_add,add_comm]

section HandsOver
variable (hosts routes listening acceptor machines)

-- From `s` to `t` a stream without a holder gets one that knows what it must.
def HandsOver (s t : System) (stream : StreamId) : Prop :=
  ∃ new, holders t = new + holders s ∧ new.bind streams = {stream} ∧ t.accepted = s.accepted ∧
    t.machines = s.machines ∧
    ∀ h ∈ new, Fits hosts routes listening acceptor machines s.accepted h

theorem handsOver_drop (s : System) (stream : StreamId) :
    HandsOver hosts routes listening acceptor machines s (s.drop [stream]) stream :=
  ⟨_,holders_drop s _,bind_dropped _,rfl,rfl,fits_dropped _ _⟩

variable {hosts routes listening acceptor machines}

theorem handsOver_inspect {task : Inspecting} (hf : Inspected listening s.accepted task) :
    HandsOver hosts routes listening acceptor machines s (s.inspect task) task.stream :=
  ⟨_,holders_inspect s task,Multiset.singleton_bind _ _,rfl,rfl,fits_singleton hf⟩

theorem handsOver_forwardConn {stream : StreamId} {remote : SocketAddr}
    {settings : ConnectionSettings} {destination : Destination}
    (hc : Chosen hosts routes listening acceptor s.accepted stream destination)
    (forwardTable : ServiceForwardTable) (listener : Option ℕ) :
    HandsOver hosts routes listening acceptor machines s
      (s.forwardConn forwardTable listener (.newTcpConn stream remote settings destination)) stream := by
  refine ⟨_,holders_forwardConn s _ _ _,bind_forwarded _ _ _,accepted_forwardConn _ _ _ s,
    machines_forwardConn _ _ _ s,fits_forwarded (fun other hm => ?_)⟩
  rw [List.mem_singleton.mp hm]
  exact hc

theorem inv_of_accepted (hi : Inv hosts routes listening acceptor machines s) {origin : Origin}
    (h : HandsOver hosts routes listening acceptor machines (s.accept origin) t s.accepted.length) :
    Inv hosts routes listening acceptor machines t := by
  obtain ⟨new,hnew,hstreams,haccepted,hmachines,hfits⟩ := h
  refine inv_of_swaps 0 new {s.accepted.length} hi ⟨holders s,(zero_add _).symm,hnew⟩
    (by rw [hstreams,Multiset.zero_bind,zero_add]) ?_ ?_ (fun ip => by rw [hmachines]; exact Iff.rfl)
    (by rw [haccepted]; exact hfits)
  · rw [haccepted]
    exact range_append _ _
  · intro stream _
    rw [haccepted]
    exact keeps_append _ _ stream

end HandsOver

theorem keeps_modify (accepted : List Client) (changed : StreamId) (f : Client → Client)
    {stream : StreamId} (h : stream ≠ changed) : Keeps accepted (accepted.modify changed f) stream := by
  intro client hc
  exact ⟨[],by simpa [List.getElem?_modify,Ne.symm h] using hc⟩

theorem keeps_arrive (accepted : List Client) (changed : StreamId) (bytes : List UInt8)
    (stream : StreamId) : Keeps accepted (accepted.modify changed
      (fun a => { a with received := a.received ++ bytes })) stream := by
  intro client hc
  by_cases h : stream = changed
  · subst h
    exact ⟨bytes,by simp [hc]⟩
  · exact keeps_modify accepted changed _ h client hc

theorem inv_arrive (hi : Inv hosts routes listening acceptor machines s) (stream : StreamId)
    (bytes : List UInt8) : Inv hosts routes listening acceptor machines (s.arrive stream bytes) :=
  inv_of_swaps 0 0 0 hi ⟨holders s,(zero_add _).symm,(zero_add _).symm⟩ (by simp)
    (by simp [System.arrive]) (fun other _ => keeps_arrive _ stream bytes other)
    (fun _ => Iff.rfl) (fun h hh => absurd hh (Multiset.notMem_zero h))

-- A task of `get_backend_port` gives up its stream after its peek.
theorem inv_of_resumed (hi : Inv hosts routes listening acceptor machines s) {task available : ℕ}
    {held : Inspecting} {client : Client} (ht : s.inspecting[task]? = some held)
    (h : HandsOver hosts routes listening acceptor machines
      (s.resumed task available held client) t held.stream) :
    Inv hosts routes listening acceptor machines t := by
  obtain ⟨new,hnew,hstreams,haccepted,hmachines,hfits⟩ := h
  refine inv_of_swaps {.inspecting held} new 0 hi ⟨_,takeOut_inspecting s ht,hnew⟩
    (by rw [hstreams,add_zero]; exact (Multiset.singleton_bind _ _).symm) ?_ ?_
    (fun ip => by rw [hmachines]; exact Iff.rfl) (by rw [haccepted]; exact hfits)
  · rw [haccepted,add_zero]
    simp [System.resumed,System.peeked]
  · intro stream hne
    rw [haccepted]
    refine keeps_modify _ _ _ (fun he => hne ?_)
    rw [he]
    exact Multiset.mem_bind.mpr ⟨_,Multiset.mem_singleton_self _,Multiset.mem_singleton_self _⟩

-- The entry of an inspected stream, before and after the peek.
theorem resumed_client (hi : Inv hosts routes listening acceptor machines s) {task : ℕ}
    {held : Inspecting} {client : Client} (ht : s.inspecting[task]? = some held)
    (hc : s.accepted[held.stream]? = some client) (available : ℕ) :
    Peeked client held.stage ∧
      ∃ listener < listening.tlsHttpRp.listeners.length, client.origin = .tls listener ∧
        (s.resumed task available held client).accepted[held.stream]? = some ⟨.tls listener,
          client.received,client.peeks ++ [client.received.take available]⟩ := by
  obtain ⟨other,hother,hpeeked,listener,hl,ho⟩ := fits_of_mem hi (takeOut_inspecting s ht)
  obtain rfl := Option.some.inj (hc.symm.trans hother)
  refine ⟨hpeeked,listener,hl,ho,?_⟩
  simp [System.resumed,System.peeked,hc,ho]

theorem inv_peekGoesOn (hi : Inv hosts routes listening acceptor machines s) {task available : ℕ}
    {held : Inspecting} {client : Client} (ht : s.inspecting[task]? = some held)
    (hc : s.accepted[held.stream]? = some client) (hs : held.stage = .header) :
    Inv hosts routes listening acceptor machines ((s.resumed task available held client).inspect
      { held with stage := .body (peekBuffer 5 (client.received.take available)) }) := by
  obtain ⟨hpeeked,listener,hl,-,hnext⟩ := resumed_client hi ht hc available
  rw [hs] at hpeeked
  have hpeeks : client.peeks = [] := hpeeked
  rw [hpeeks,List.nil_append] at hnext
  exact inv_of_resumed hi ht
    (@handsOver_inspect _ _ _ _ _ (s.resumed task available held client)
      { held with stage := .body _ } ⟨_,hnext,⟨_,rfl,List.take_prefix _ _,rfl⟩,listener,hl,rfl⟩)

theorem inv_peekForwards (hb : ListensTo hosts routes listening)
    (hi : Inv hosts routes listening acceptor machines s) {task available : ℕ} {held : Inspecting}
    {client : Client} {recordHeader : List UInt8} {name : Str} {res : PossibleDestinations}
    (ht : s.inspecting[task]? = some held) (hc : s.accepted[held.stream]? = some client)
    (hs : held.stage = .body recordHeader)
    (hn : nameFrom acceptor listening.tlsHttpRp.connectionSettings recordHeader
      (.arrived (client.received.take available)) = some name)
    (hr : listening.tlsHttpRp.destinationProvider[name]? = some res) :
    Inv hosts routes listening acceptor machines ((s.resumed task available held client).forwardConn
      listening.tlsHttpRp.forwardSender none (.newTcpConn held.stream held.remote
        listening.tlsHttpRp.connectionSettings.connectionSettings res.destination)) := by
  obtain ⟨hpeeked,listener,hl,-,hnext⟩ := resumed_client hi ht hc available
  rw [hs] at hpeeked
  obtain ⟨headerPeek,hpeeks,hheader,hrecord⟩ := hpeeked
  rw [hpeeks] at hnext
  have hname : nameCheck acceptor listening.tlsHttpRp.connectionSettings (.arrived headerPeek)
      (.arrived (client.received.take available)) = some name := by
    rw [← hn,hrecord]
    rfl
  exact inv_of_resumed hi ht (handsOver_forwardConn
    ⟨_,hnext,.tls hl hheader (List.take_prefix _ _) hname (hb.table ▸ hr)⟩ _ _)

theorem inv_start (hi : Inv hosts routes listening acceptor machines s) {task : ℕ}
    {conn : ForwardedConnection} {order : List (IpAddr × DestinationMachine)}
    (ht : s.tasks[task]? = some (.received conn))
    (ho : order.Perm (eligible conn.destination.providedIp s.machines)) :
    Inv hosts routes listening acceptor machines { s with tasks := s.tasks.eraseIdx task ++
      [.running conn.destination (dispatch (fun _ => order) conn s.machines)] } := by
  have hf := fits_of_mem hi (takeOut_task s ht)
  have hstreams := dispatch_streams (fun _ => order) conn s.machines
  refine inv_of_passed hi (takeOut_task s ht)
    (holders_spawn { s with tasks := s.tasks.eraseIdx task } _)
    (congrArg Multiset.ofList hstreams) rfl (fun _ => Iff.rfl)
    ⟨fun stream hs => hf stream (hstreams ▸ hs),fun a ha => ?_⟩
  obtain ⟨hport,hconfigured,hnamed⟩ := dispatch_targets ho a ha
  exact ⟨hport,(hi.configured _).mp hconfigured,hnamed⟩

theorem mem_bridgeStarted (s : Machines) (bridge : Option Bridge) (ip : IpAddr) :
    ip ∈ System.bridgeStarted s bridge ↔ ip ∈ s := by
  cases bridge with
  | none => exact Iff.rfl
  | some b => exact Std.ExtTreeMap.mem_modify

theorem inv_proceed (hi : Inv hosts routes listening acceptor machines s) {task : ℕ}
    {destination : Destination} {point : Handling}
    (ht : s.tasks[task]? = some (.running destination point)) (outcome : ConnectOutcome) :
    Inv hosts routes listening acceptor machines { s with
      tasks := s.tasks.eraseIdx task ++ [.running destination (point.step (fun _ => outcome)).1]
      bridges := s.bridges ++ (point.step (fun _ => outcome)).2.toList
      machines := System.bridgeStarted s.machines (point.step (fun _ => outcome)).2 } := by
  obtain ⟨hchosen,hserved⟩ := fits_of_mem hi (takeOut_task s ht)
  obtain ⟨htargets,hbackend⟩ := step_targets (fun _ => outcome) point
  have hstreams := step_streams (fun _ => outcome) point
  rcases hp : point.step (fun _ => outcome) with ⟨next,bridge⟩
  simp only [hp] at hstreams htargets hbackend
  refine inv_of_exchange hi ⟨_,takeOut_task s ht,
    holders_advance { s with tasks := s.tasks.eraseIdx task } (.running destination next)
      bridge.toList⟩ ?_ rfl (mem_bridgeStarted s.machines bridge) ?_
  · rw [Multiset.add_bind,Multiset.singleton_bind,Multiset.singleton_bind,bind_bridged]
    exact congrArg Multiset.ofList hstreams
  · intro h hh
    have hs : ∀ stream ∈ pointStreams next ++ bridge.toList.map Bridge.stream,
        Chosen hosts routes listening acceptor s.accepted stream destination :=
      fun stream hm => hchosen stream (hstreams ▸ hm)
    rcases Multiset.mem_add.mp hh with hh | hh
    · rw [Multiset.mem_singleton.mp hh]
      exact ⟨fun stream hm => hs stream (List.mem_append_left _ hm),
        fun a ha => hserved a (htargets a ha)⟩
    · obtain ⟨b,hb,rfl⟩ := Exchange.mem_each.mp hh
      exact ⟨destination,hs b.stream (List.mem_append_right _ (List.mem_map_of_mem hb)),
        hserved b.backend (hbackend b (Option.mem_toList.mp hb))⟩

theorem inv_finish (hi : Inv hosts routes listening acceptor machines s) {task : ℕ}
    {destination : Destination} {attempt : Option (Except Error Unit)}
    {connInnerOpt : Option ConnectionInner}
    (ht : s.tasks[task]? = some (.running destination (.returned attempt connInnerOpt))) :
    Inv hosts routes listening acceptor machines
      (System.drop (connInnerOpt.toList.flatMap ConnectionInner.streams)
        { s with tasks := s.tasks.eraseIdx task }) := by
  refine inv_of_exchange hi ⟨_,takeOut_task s ht,holders_drop _ _⟩ ?_ rfl (fun _ => Iff.rfl)
    (fits_dropped _ _)
  rw [bind_dropped,Multiset.singleton_bind,streams,taskStreams,pointStreams,Run.pointHolders_returned]

theorem inv_moves (hb : ListensTo hosts routes listening)
    (hi : Inv hosts routes listening acceptor machines s) {action : Action}
    (h : System.Moves listening acceptor s action t) :
    Inv hosts routes listening acceptor machines t := by
  cases h with
  | @acceptTls listener remote hl =>
    exact inv_of_accepted hi
      (handsOver_inspect ⟨⟨.tls listener,[],[]⟩,List.getElem?_concat_length,rfl,listener,hl,rfl⟩)
  | acceptTcp remote hl =>
    obtain ⟨hroute,hport⟩ := hb.ports _ (List.mem_of_getElem? hl)
    exact inv_of_accepted hi (handsOver_forwardConn
      ⟨_,List.getElem?_concat_length,.tcp hl hroute hport⟩ _ _)
  | arrive stream bytes => exact inv_arrive hi stream bytes
  | peekDrops ht => exact inv_of_resumed hi ht (handsOver_drop _ _ _ _ _ _ _)
  | peekGoesOn ht hc hs hr =>
    subst hr
    exact inv_peekGoesOn hi ht hc hs
  | peekForwards ht hc hs hn hr => exact inv_peekForwards hb hi ht hc hs hn hr
  | peekFails ht =>
    exact inv_of_exchange hi ⟨_,takeOut_inspecting s ht,holders_drop _ _⟩
      (by rw [bind_dropped,Multiset.singleton_bind]; rfl) rfl (fun _ => Iff.rfl) (fits_dropped _ _)
  | @sends task w hw =>
    have hf := fits_of_mem hi (takeOut_sending s hw)
    exact inv_of_passed hi (takeOut_sending s hw)
      (holders_enqueue { s with sending := s.sending.eraseIdx task } w.conn) rfl rfl
      (fun _ => Iff.rfl) hf
  | sendFails hw =>
    exact inv_of_exchange hi ⟨_,takeOut_sending s hw,holders_drop _ _⟩
      (by rw [bind_dropped,Multiset.singleton_bind]; rfl) rfl (fun _ => Iff.rfl) (fits_dropped _ _)
  | @receive conn queue hq =>
    have hf := fits_of_mem hi (takeOut_queue s hq)
    exact inv_of_passed hi (takeOut_queue s hq) (holders_spawn { s with queue } (.received conn))
      rfl rfl (fun _ => Iff.rfl) hf
  | closeReceiver =>
    refine inv_of_exchange hi ⟨_,takeOut_queued s,holders_drop _ _⟩ ?_ rfl (fun _ => Iff.rfl)
      (fits_dropped _ _)
    rw [bind_dropped,Exchange.each_bind]
    exact (Multiset.coe_bind _ _).symm
  | start ht ho => exact inv_start hi ht ho
  | proceed outcome ht => exact inv_proceed hi ht outcome
  | finish ht => exact inv_finish hi ht
  | @bridgeEnds bridge b hbridge =>
    have hf := fits_of_mem hi (takeOut_bridge s hbridge)
    exact inv_of_passed hi (takeOut_bridge s hbridge)
      (holders_close { s with bridges := s.bridges.eraseIdx bridge } b) rfl rfl
      (fun _ => Std.ExtTreeMap.mem_modify) hf

theorem inv_step (hb : ListensTo hosts routes listening) (s : System) (action : Action) (t : System)
    (hi : Inv hosts routes listening acceptor machines s)
    (h : s.step listening acceptor action = some t) :
    Inv hosts routes listening acceptor machines t :=
  inv_moves hb hi (System.step_moves h)

theorem inv_reachable (hb : ListensTo hosts routes listening)
    (h : Execution.Reachable (System.step listening acceptor) (System.initial machines) s) :
    Inv hosts routes listening acceptor machines s :=
  Execution.reachable_invariant _ (inv_initial hosts routes listening acceptor machines)
    (inv_step hb) h

end Steps

structure Safety (hosts : HostTable) (routes : List Route) (listening : Listening)
    (acceptor : Acceptor) (machines : Machines) (s : System) : Prop where
  one_place : ∀ stream < s.accepted.length, ∃ place, (streamsAt s place).count stream = 1 ∧
    ∀ other ≠ place, stream ∉ streamsAt s other
  one_bridge : ((s.bridges ++ s.closed).map Bridge.stream).Nodup
  routed : ∀ bridge ∈ s.bridges ++ s.closed, ∃ client destination,
    s.accepted[bridge.stream]? = some client ∧
    RouteOf hosts routes listening acceptor client destination ∧
    Served machines destination bridge.backend

theorem safety_of_inv {hosts : HostTable} {routes : List Route} {listening : Listening}
    {acceptor : Acceptor} {machines : Machines} {s : System}
    (hi : Inv hosts routes listening acceptor machines s) :
    Safety hosts routes listening acceptor machines s where
  one_place _ hs := Custody.one_place hi.owned hs
  one_bridge := by
    rw [← Multiset.coe_nodup]
    exact Multiset.nodup_of_le (bridge_streams_le s) (hi.owned ▸ Multiset.nodup_range _)
  routed bridge hb := by
    have hf : Bridged hosts routes listening acceptor machines s.accepted bridge := by
      rcases mem_holders_bridge hb with hh | hh
      · exact hi.fits _ hh
      · exact hi.fits _ hh
    obtain ⟨destination,⟨client,hc,hr⟩,hs⟩ := hf
    exact ⟨client,destination,hc,hr,hs⟩

theorem routing_safety (outcomes : BindOutcomes) (tls : TlsRpHandler) (tcp : SimpleTcpHandler)
    (settings : BindSettings) (listening : Listening) (acceptor : Acceptor) (machines : Machines)
    (hl : Binding.Listens outcomes tls tcp settings listening) (s : System)
    (h : Execution.Reachable (System.step listening acceptor) (System.initial machines) s) :
    Safety tls.destinationProvider tcp.destinationProvider listening acceptor machines s :=
  safety_of_inv (inv_reachable ⟨(Binding.listens_tables hl).1,(Binding.listens_tables hl).2⟩ h)

section Example

def loopback : IpAddr := .v4 0x7F000001#32

def exampleTable : ServiceForwardTable :=
  ⟨(∅ : Std.ExtTreeMap InternalService Sender).insert .loadBalancer ⟨50⟩⟩

def exampleTls : TlsRpHandler :=
  ⟨⟨⟨5⟩,16384⟩,(∅ : HostTable).insert "a.example".toList (.withoutElse (.portOnly 1337)),exampleTable⟩

def exampleTcp : SimpleTcpHandler :=
  ⟨⟨5⟩,[(2222,.withoutElse (.socket ⟨loopback,22⟩))],exampleTable⟩

def exampleListening : Listening where
  tlsHttpRp := ⟨[⟨⟨loopback,4443⟩⟩],exampleTls.connectionSettings,exampleTls.destinationProvider,
    exampleTable⟩
  tcpRp := ⟨[(⟨⟨loopback,2222⟩⟩,2222,.withoutElse (.socket ⟨loopback,22⟩))],⟨5⟩,exampleTable⟩

def exampleMachines : Machines := (∅ : Machines).insert loopback (.new 1)

def noHello : Acceptor := ⟨fun _ => none,fun _ => .failed⟩

def bothBridged : List Action :=
  [.acceptTls 0 ⟨loopback,40000⟩,.arrive 0 (Utf8.encode "Host: a.example:80\r\n".toList),.peek 0 200,
    .peek 0 200,.acceptTcp 0 ⟨loopback,40001⟩,.send 0,.send 0,.receive,.receive,
    .start 0 [(loopback,.new 1)],.start 0 [],.proceed 0 .refused,.proceed 0 .accepted,
    .proceed 0 .accepted]

theorem exampleListening_listens :
    Binding.Listens (fun _ _ => none) exampleTls exampleTcp ⟨[loopback],[4443]⟩ exampleListening :=
  ⟨0,2,_,rfl,rfl⟩

theorem bothBridged_bridges :
    (Execution.run (System.step exampleListening noHello) (System.initial exampleMachines)
      bothBridged).map System.bridges = some [⟨1,⟨loopback,22⟩⟩,⟨0,⟨loopback,1337⟩⟩] := by
  decide +kernel

theorem both_bridged_safely :
    ∃ s, s.bridges = [⟨1,⟨loopback,22⟩⟩,⟨0,⟨loopback,1337⟩⟩] ∧
      Safety exampleTls.destinationProvider exampleTcp.destinationProvider exampleListening noHello
        exampleMachines s := by
  obtain ⟨s,hr,hb⟩ := Option.map_eq_some_iff.mp bothBridged_bridges
  exact ⟨s,hb,routing_safety _ exampleTls exampleTcp _ exampleListening noHello exampleMachines
    exampleListening_listens s ⟨_,hr⟩⟩

end Example

end Routing

end RustyValve
