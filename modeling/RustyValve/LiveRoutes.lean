import RustyValve.Channel
import RustyValve.Draining

namespace RustyValve

namespace LiveRoutes

open Custody Routing Draining Lifecycle
open Channel (Forwards)

section Steps
variable (sort : UnstableSort (IpAddr × DestinationMachine)) (listening : Listening)
  (acceptor : Acceptor)

def Leads (s t : System) : Prop :=
  Execution.Reaches (System.step listening acceptor) (Sorts sort) s t

variable {sort listening acceptor} {s t : System}

theorem leads_step {action : Action} (h : s.step listening acceptor action = some t)
    (ho : Sorts sort s action) : Leads sort listening acceptor s t :=
  Execution.reaches_step ho h

-- From `s` to `t` nothing happens to the other connections, save that bridges are added.
structure Beside (s t : System) : Prop where
  inspecting : t.inspecting = s.inspecting
  bridges : s.bridges <+: t.bridges
  closed : t.closed = s.closed
  dropped : t.dropped = s.dropped

theorem beside_trans {u : System} (h : Beside s u) (h' : Beside u t) : Beside s t :=
  ⟨h'.inspecting.trans h.inspecting,h.bridges.trans h'.bridges,h'.closed.trans h.closed,
    h'.dropped.trans h.dropped⟩

-- The last task comes to that bridge, and the `others` stay where they are.
def Bridges (sort : UnstableSort (IpAddr × DestinationMachine)) (listening : Listening)
    (acceptor : Acceptor) (others : List Task) (s : System) (stream : StreamId) (a : SocketAddr) :
    Prop :=
  ∃ t, Leads sort listening acceptor s t ∧ Beside s t ∧ others <+: t.tasks ∧
    t.accepted = s.accepted ∧ (⟨stream,a⟩ : Bridge) ∈ t.bridges

theorem bridges_after {others : List Task} {u : System} (h : Leads sort listening acceptor s u)
    (hbeside : Beside s u) (ha : u.accepted = s.accepted) {stream : StreamId} {a : SocketAddr}
    (hb : Bridges sort listening acceptor others u stream a) :
    Bridges sort listening acceptor others s stream a := by
  obtain ⟨t,ht,hbt,hothers,hac,hm⟩ := hb
  exact ⟨t,Execution.reaches_trans h ht,beside_trans hbeside hbt,hothers,hac.trans ha,hm⟩

-- The addresses before `a` refuse; it accepts.
theorem handling_bridges {others : List Task} {destination : Destination} {point : Handling}
    {stream : StreamId} {a : SocketAddr} (ht : s.tasks = others ++ [.running destination point])
    (hs : stream ∈ pointStreams point) (ha : a ∈ untried point) :
    Bridges sort listening acceptor others s stream a := by
  induction hm : pointWork point using Nat.strongRecOn generalizing s point with
  | _ m ih =>
    have hp (outcome : ConnectOutcome) :
        System.step listening acceptor s (.proceed others.length outcome) = some { s with
          tasks := others ++ [.running destination (point.step (fun _ => outcome)).1]
          bridges := s.bridges ++ (point.step (fun _ => outcome)).2.toList
          machines := System.bridgeStarted s.machines (point.step (fun _ => outcome)).2 } := by
      simp [System.step,System.proceed,ht,List.eraseIdx_append_of_length_le]
    have hbeside (bridges : List Bridge) (tasks : List Task) (machines : Machines) :
        Beside s { s with tasks,machines,bridges := s.bridges ++ bridges } :=
      ⟨rfl,List.prefix_append _ _,rfl,rfl⟩
    have hreturned : ¬ Returned point := by
      cases point with
      | returned attempt innerOpt => cases ha
      | looping | connecting | connectingOnly => exact id
    have hless (outcome : ConnectOutcome) : pointWork (point.step (fun _ => outcome)).1 < m :=
      hm ▸ step_pointWork _ hreturned
    by_cases hlast : point.attempt = some a
    · cases step_steps (fun _ => .accepted) hs with
      | keeps _ _ hnone =>
        rw [hlast] at hnone
        cases hnone
      | refused b hb => exact absurd rfl hb
      | connected b rest _ _ hb hat =>
        obtain rfl := Option.some.inj (hlast.symm.trans hat)
        refine ⟨_,leads_step (hp .accepted) trivial,hbeside _ _ _,List.prefix_append _ _,rfl,
          List.mem_append_right _ ?_⟩
        simp [hb]
    · cases step_steps (fun _ => .refused) hs with
      | keeps hn hu =>
        exact bridges_after (leads_step (hp .refused) trivial) (hbeside _ _ _) rfl
          (ih _ (hless .refused) rfl hn (hu ▸ ha) rfl)
      | refused b _ hn hu hat =>
        have hne : a ≠ b := fun he => hlast (he ▸ hat)
        rw [hu] at ha
        exact bridges_after (leads_step (hp .refused) trivial) (hbeside _ _ _) rfl
          (ih _ (hless .refused) rfl hn (List.mem_of_ne_of_mem hne ha) rfl)
      | connected b rest hb => cases hb

theorem sent_bridges {conn : ForwardedConnection} {listener : Option ℕ} (hopen : s.receiverOpen = true)
    (hw : s.sending = [⟨conn,⟨50⟩,listener⟩]) (hq : s.queue = []) {stream : StreamId}
    (hs : stream ∈ conn.inner.streams) {a : SocketAddr} (ha : Served s.machines conn.destination a) :
    Bridges sort listening acceptor s.tasks s stream a := by
  let order := pickBestIp sort conn.destination.providedIp s.machines
  have horder : order.Perm (eligible conn.destination.providedIp s.machines) := pickBestIp_perm _ _ _
  let sent : System := { s with sending := [],queue := [conn] }
  let handed : System := { s with sending := [],queue := [],tasks := s.tasks ++ [.received conn] }
  let started : System := { s with
    sending := []
    queue := []
    tasks := s.tasks ++ [.running conn.destination (dispatch (fun _ => order) conn s.machines)] }
  have hsend : System.step listening acceptor s (.send 0) = some sent := by
    simp [System.step,System.send,hw,hopen,hq,sent]
  have hhand : System.step listening acceptor sent .receive = some handed := by
    simp [System.step,System.receive,sent,handed]
  have hstart : System.step listening acceptor handed (.start s.tasks.length order) = some started := by
    simp [System.step,System.start,horder,handed,started,List.eraseIdx_append_of_length_le]
  have hsorts : Sorts sort handed (.start s.tasks.length order) := by
    intro conn' hc
    obtain rfl := Task.received.inj (Option.some.inj (List.getElem?_concat_length.symm.trans hc))
    rfl
  have hleads : Leads sort listening acceptor s started :=
    Execution.reaches_trans (leads_step hsend trivial)
      (Execution.reaches_trans (leads_step hhand trivial) (leads_step hstart hsorts))
  refine bridges_after hleads ⟨rfl,List.prefix_refl _,rfl,rfl⟩ rfl (handling_bridges rfl ?_ ?_)
  · rw [dispatch_streams]
    exact hs
  · exact ((dispatch_candidates horder).served a).mpr ha

theorem modify_last {T : Type} (xs : List T) (x : T) (f : T → T) :
    (xs ++ [x]).modify xs.length f = xs ++ [f x] :=
  List.modifyTailIdx_add (List.modifyHead f) 0 xs [x]

section Channel

-- Everything in the channel or before it has been received.
def cleared (s : System) : System :=
  { s with
    sending := []
    queue := []
    tasks := s.tasks ++ (s.queue ++ s.sending.map Sending.conn).map .received }

theorem leads_received (conns : List ForwardedConnection) (hq : s.queue = conns) :
    Leads sort listening acceptor s
      { s with queue := [],tasks := s.tasks ++ conns.map .received } := by
  induction conns generalizing s with
  | nil =>
    have he : { s with queue := [],tasks := s.tasks ++ [] } = s := by rw [← hq,List.append_nil]
    rw [List.map_nil,he]
    exact Execution.reaches_refl _ _ s
  | cons conn conns ih =>
    have hr : System.step listening acceptor s .receive =
        some { s with queue := conns,tasks := s.tasks ++ [.received conn] } := by
      simp [System.step,System.receive,hq]
    have hrest := @ih { s with queue := conns,tasks := s.tasks ++ [.received conn] } rfl
    rw [List.append_assoc] at hrest
    exact Execution.reaches_trans (leads_step hr trivial) hrest

theorem leads_sent (waiting : List Sending) (hw : s.sending = waiting) (hq : s.queue = [])
    (hopen : s.receiverOpen = true) (hroom : ∀ w ∈ waiting, 0 < w.sender.capacity) :
    Leads sort listening acceptor s
      { s with sending := [],tasks := s.tasks ++ (waiting.map Sending.conn).map .received } := by
  induction waiting generalizing s with
  | nil =>
    have he : { s with sending := [],tasks := s.tasks ++ [] } = s := by rw [← hw,List.append_nil]
    rw [List.map_nil,List.map_nil,he]
    exact Execution.reaches_refl _ _ s
  | cons w waiting ih =>
    have hsend : System.step listening acceptor s (.send 0) =
        some { s with sending := waiting,queue := [w.conn] } := by
      simp [System.step,System.send,hw,hopen,hq,hroom w List.mem_cons_self]
    have hreceived : Leads sort listening acceptor { s with sending := waiting,queue := [w.conn] }
        { s with sending := waiting,queue := [],tasks := s.tasks ++ [.received w.conn] } :=
      leads_received [w.conn] rfl
    have hrest := @ih { s with sending := waiting,queue := [],tasks := s.tasks ++ [.received w.conn] }
      rfl rfl hopen (fun w' hm => hroom w' (List.mem_cons_of_mem w hm))
    rw [List.append_assoc] at hrest
    rw [← hq] at hrest
    exact Execution.reaches_trans (leads_step hsend trivial)
      (Execution.reaches_trans (hq ▸ hreceived) hrest)

theorem leads_cleared (hopen : s.receiverOpen = true) (hroom : ∀ w ∈ s.sending, 0 < w.sender.capacity) :
    Leads sort listening acceptor s (cleared s) := by
  have hsent := @leads_sent sort listening acceptor
    { s with queue := [],tasks := s.tasks ++ s.queue.map .received } s.sending rfl rfl hopen hroom
  rw [List.append_assoc,← List.map_append] at hsent
  exact Execution.reaches_trans (leads_received s.queue rfl) hsent

end Channel

-- A new client of that listener, with what it has sent and what the peeks found of it.
def Serves (sort : UnstableSort (IpAddr × DestinationMachine)) (listening : Listening)
    (acceptor : Acceptor) (s : System) (client : Client) (a : SocketAddr) : Prop :=
  ∃ t, Leads sort listening acceptor s t ∧ Beside s t ∧ s.tasks <+: t.tasks ∧
    t.accepted = s.accepted ++ [client] ∧ (⟨s.accepted.length,a⟩ : Bridge) ∈ t.bridges

theorem serves_of_bridges {client : Client} {a : SocketAddr} (h : Leads sort listening acceptor s t)
    (hbeside : Beside s t) (ha : t.accepted = s.accepted ++ [client])
    (hb : Bridges sort listening acceptor s.tasks t s.accepted.length a) :
    Serves sort listening acceptor s client a := by
  obtain ⟨u,hu,hbu,htasks,hac,hm⟩ := hb
  exact ⟨u,Execution.reaches_trans h hu,beside_trans hbeside hbu,htasks,hac.trans ha,hm⟩

theorem serves_after {u : System} (h : Leads sort listening acceptor s u) (hbeside : Beside s u)
    (htasks : s.tasks <+: u.tasks) (hac : u.accepted = s.accepted) {client : Client} {a : SocketAddr}
    (hu : Serves sort listening acceptor u client a) : Serves sort listening acceptor s client a := by
  obtain ⟨t,ht,hbt,htt,hat,hm⟩ := hu
  exact ⟨t,Execution.reaches_trans h ht,beside_trans hbeside hbt,htasks.trans htt,hac ▸ hat,hac ▸ hm⟩

theorem tcp_serves (hf : Forwards listening) (hw : s.sending = []) (hq : s.queue = [])
    (hopen : s.receiverOpen = true) {listener : ℕ} {tcpListener : TcpListener} {route : Route}
    (hl : listening.tcpRp.listeners[listener]? = some (tcpListener,route)) (remote : SocketAddr)
    (received : List UInt8) {a : SocketAddr} (ha : Served s.machines route.2.destination a) :
    Serves sort listening acceptor s ⟨.tcp listener,received,[]⟩ a := by
  let conn := ForwardedConnection.newTcpConn s.accepted.length remote
    listening.tcpRp.connectionSettings route.2.destination
  let heard (client : Client) : System :=
    { s with accepted := s.accepted ++ [client],sending := [⟨conn,⟨50⟩,some listener⟩] }
  have haccept : System.step listening acceptor s (.acceptTcp listener remote) =
      some (heard ⟨.tcp listener,[],[]⟩) := by
    simp [System.step,System.acceptTcp,hl,hw,listenTcp_eq,System.forwardConn,hf.tcp,System.accept,
      heard,conn]
  have harrive : System.step listening acceptor (heard ⟨.tcp listener,[],[]⟩)
      (.arrive s.accepted.length received) = some (heard ⟨.tcp listener,received,[]⟩) := by
    simp [System.step,System.arrive,heard,modify_last]
  refine serves_of_bridges (Execution.reaches_trans (leads_step haccept trivial)
    (leads_step harrive trivial)) ⟨rfl,List.prefix_refl _,rfl,rfl⟩ rfl ?_
  exact sent_bridges (s := heard ⟨.tcp listener,received,[]⟩) hopen rfl hq
    (List.mem_singleton_self _) ha

theorem take_length {found received : List UInt8} (h : found <+: received) :
    received.take found.length = found :=
  (List.prefix_iff_eq_take.mp h).symm

-- What the inspection of a client that sends all its bytes before the first peek comes to.
theorem tls_inspected (hf : Forwards listening) (hw : s.sending = []) {listener : ℕ}
    (hl : listener < listening.tlsHttpRp.listeners.length) {received headerPeek bodyPeek : List UInt8}
    (hheader : headerPeek <+: received) (hbodyPeek : bodyPeek <+: received) {name : Str}
    (hname : nameCheck acceptor listening.tlsHttpRp.connectionSettings (.arrived headerPeek)
      (.arrived bodyPeek) = some name) {res : PossibleDestinations}
    (hres : listening.tlsHttpRp.destinationProvider[name]? = some res) (remote : SocketAddr) :
    Leads sort listening acceptor s { s with
      accepted := s.accepted ++ [⟨.tls listener,received,[headerPeek,bodyPeek]⟩]
      sending := [⟨.newTcpConn s.accepted.length remote
        listening.tlsHttpRp.connectionSettings.connectionSettings res.destination,⟨50⟩,none⟩] } := by
  let n := s.accepted.length
  let header := peekBuffer 5 headerPeek
  let heard (client : Client) (stage : Inspection) : System := { s with
    accepted := s.accepted ++ [client]
    inspecting := s.inspecting ++ [⟨n,remote,stage⟩] }
  have hfrom : nameFrom acceptor listening.tlsHttpRp.connectionSettings header (.arrived bodyPeek) =
      some name := hname
  have hbody : peeksBody listening.tlsHttpRp.connectionSettings header = true := by
    by_contra hno
    rw [nameFrom_of_not_peeksBody _ _ (Bool.eq_false_iff.mpr hno)] at hfrom
    cases hfrom
  have haccept : System.step listening acceptor s (.acceptTls listener remote) =
      some (heard ⟨.tls listener,[],[]⟩ .header) := by
    simp [System.step,System.acceptTls,hl,System.accept,System.inspect,heard,n]
  have harrive : System.step listening acceptor (heard ⟨.tls listener,[],[]⟩ .header)
      (.arrive n received) = some (heard ⟨.tls listener,received,[]⟩ .header) := by
    simp [System.step,System.arrive,heard,n,modify_last]
  have hpeek : System.step listening acceptor (heard ⟨.tls listener,received,[]⟩ .header)
      (.peek s.inspecting.length headerPeek.length) =
        some (heard ⟨.tls listener,received,[headerPeek]⟩ (.body header)) := by
    simp [System.step,System.peek,heard,n,System.peeked,modify_last,System.inspected,peekTimeout,hbody,
      System.inspect,header,take_length hheader,List.eraseIdx_append_of_length_le]
  refine Execution.reaches_trans (leads_step haccept trivial) (Execution.reaches_trans
    (leads_step harrive trivial) (Execution.reaches_trans (leads_step hpeek trivial)
      (@leads_step _ _ _ _ _ (.peek s.inspecting.length bodyPeek.length) ?_ trivial)))
  simp [System.step,System.peek,heard,n,System.peeked,modify_last,System.inspected,hfrom,connectionTo,
    hres,PossibleDestinations.getOnlyDestination,System.forwardConn,hf.tls,hw,take_length hbodyPeek,
    List.eraseIdx_append_of_length_le]

variable {hosts : HostTable} {routes : List Route} {machines : Machines}

-- The connections before this one in the channel are only received: it waits for none of them.
theorem route_serves (hl : ListensTo hosts routes listening) (hf : Forwards listening)
    (hroom : ∀ w ∈ s.sending, 0 < w.sender.capacity) (hopen : s.receiverOpen = true) {client : Client}
    {destination : Destination} (hroute : RouteOf hosts routes listening acceptor client destination)
    {a : SocketAddr} (ha : Served s.machines destination a) :
    Serves sort listening acceptor s client a := by
  refine serves_after (leads_cleared hopen hroom) ⟨rfl,List.prefix_refl _,rfl,rfl⟩
    (List.prefix_append _ _) rfl ?_
  cases hroute with
  | tls hlistener hheader hbody hname hres =>
    rw [← hl.table] at hres
    refine serves_of_bridges
      (tls_inspected (s := cleared s) hf rfl hlistener hheader hbody hname hres ⟨.v4 0,0⟩)
      ⟨rfl,List.prefix_refl _,rfl,rfl⟩ rfl ?_
    refine sent_bridges (by exact hopen) rfl rfl (List.mem_singleton_self _) ?_
    exact ha
  | tcp hlistener =>
    exact tcp_serves (s := cleared s) hf rfl rfl hopen hlistener ⟨.v4 0,0⟩ _ ha

theorem served_of_configured {machines' : Machines} (h : ∀ ip, ip ∈ machines' ↔ ip ∈ machines)
    {destination : Destination} {a : SocketAddr} (ha : Served machines destination a) :
    Served machines' destination a :=
  ⟨ha.port,(h a.ip).mpr ha.configured,ha.named⟩

theorem bridge_routed (hi : Inv hosts routes listening acceptor machines s) {bridge : Bridge}
    (hb : bridge ∈ s.bridges ++ s.closed) : ∃ client destination,
      s.accepted[bridge.stream]? = some client ∧
      RouteOf hosts routes listening acceptor client destination ∧
      Served machines destination bridge.backend := by
  have hbridged : Bridged hosts routes listening acceptor machines s.accepted bridge := by
    rcases List.mem_append.mp hb with hm | hm
    · exact hi.fits (.bridged bridge) (by simp [holders,Exchange.mem_each,hm])
    · exact hi.fits (.closed bridge) (by simp [holders,Exchange.mem_each,hm])
  obtain ⟨destination,⟨client,hc,hr⟩,hserved⟩ := hbridged
  exact ⟨client,destination,hc,hr,hserved⟩

theorem serves_iff (hl : ListensTo hosts routes listening) (hf : Forwards listening)
    (hroom : Roomy listening)
    (hs : Execution.Reachable (System.step listening acceptor) (System.initial machines) s)
    (hopen : s.receiverOpen = true) (client : Client) (a : SocketAddr) :
    Serves sort listening acceptor s client a ↔ ∃ destination,
      RouteOf hosts routes listening acceptor client destination ∧ Served machines destination a := by
  constructor
  · rintro ⟨t,ht,-,-,hac,hb⟩
    obtain ⟨client',destination,hc,hr,hserved⟩ :=
      bridge_routed (inv_reachable hl (ht.reachable hs)) (List.mem_append_left _ hb)
    rw [hac,List.getElem?_concat_length] at hc
    obtain rfl := Option.some.inj hc
    exact ⟨destination,hr,hserved⟩
  · rintro ⟨destination,hr,ha⟩
    have hfed := Execution.reachable_invariant _ (fed_initial machines) (fed_step hroom) hs
    refine route_serves hl hf (fun w hw => ?_) hopen hr
      (served_of_configured (inv_reachable hl hs).configured ha)
    exact hfed.sized (.sending w) (by simp [holders,Exchange.mem_each,hw])

end Steps

section Server
variable {parse : FromStr} {env : LogEnvironment} {load : Str → Except Str SectionMaps}
  {outcomes : BindOutcomes} {configBuilder : ConfigBuilder} {listening : Listening}
  {lb : LoadBalancer}

theorem every_route_live
    (hstart : start parse env load outcomes configBuilder = .ok ⟨.ok listening,lb⟩)
    (acceptor : Acceptor) (sort : UnstableSort (IpAddr × DestinationMachine)) (s : System)
    (hs : Execution.Reachable (System.step listening acceptor) (System.initial lb.machines) s)
    (hopen : s.receiverOpen = true) (client : Client) (a : SocketAddr) :
    Serves sort listening acceptor s client a ↔ ∃ destination,
      RouteOf listening.tlsHttpRp.destinationProvider (listening.tcpRp.listeners.map Prod.snd) listening
        acceptor client destination ∧ Served lb.machines destination a := by
  obtain ⟨b,-,-,rfl,-⟩ := Serving.start_serving hstart
  exact serves_iff (Serving.listening_listensToOwn b) ⟨rfl,rfl⟩ (listening_roomy b) hs hopen client a

def webRequest : List UInt8 := Utf8.encode "Host: localhost:80\r\n".toList

theorem web_and_mail_live : ∃ listening lb s, Serving.startProxy = .ok ⟨.ok listening,lb⟩ ∧
    Execution.run (System.step listening noHello) (System.initial lb.machines) Serving.busy = some s ∧
    s.inspecting.length = 1 ∧ s.queue.length = 1 ∧ s.tasks.length = 1 ∧ s.bridges.length = 1 ∧
    Serves .stable listening noHello s ⟨.tls 0,webRequest,[webRequest,webRequest]⟩ ⟨loopback,1337⟩ ∧
    Serves .stable listening noHello s ⟨.tcp 0,[],[]⟩ ⟨loopback,2100⟩ := by
  refine ⟨_,_,_,Serving.startProxy_provided,rfl,rfl,rfl,rfl,rfl,?_,?_⟩
  · refine (every_route_live Serving.startProxy_provided noHello .stable _ ⟨Serving.busy,rfl⟩ rfl
      _ ⟨loopback,1337⟩).mpr ⟨.portOnly 1337,?_,rfl,by decide,fun ips hn => by cases hn⟩
    exact @RouteOf.tls _ _ _ _ 0 _ _ _ "localhost".toList (.withoutElse (.portOnly 1337)) (by decide)
      (List.prefix_refl _) (List.prefix_refl _) (by decide +kernel) (by decide +kernel)
  · refine (every_route_live Serving.startProxy_provided noHello .stable _ ⟨Serving.busy,rfl⟩ rfl
      _ ⟨loopback,2100⟩).mpr ⟨.portOnly 2100,?_,rfl,by decide,fun ips hn => by cases hn⟩
    exact @RouteOf.tcp _ _ _ _ 0 _ ⟨⟨loopback,465⟩⟩ Serving.mailRoute rfl (by decide) rfl

end Server

end LiveRoutes

end RustyValve
