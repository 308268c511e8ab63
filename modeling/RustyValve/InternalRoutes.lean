import RustyValve.Routing
import RustyValve.Startup

namespace RustyValve

def Destination.isInternal : Destination → Bool
  | internalService _ => true
  | _ => false

def Task.destination : Task → Destination
  | received conn => conn.destination
  | running destination _ => destination

namespace InternalRoutes

open Custody

-- The destinations of the connections that have been sent to the load balancer, from the call of
-- `forward_conn` until its task is done.
def sentDestinations (s : System) : List Destination :=
  s.sending.map (·.conn.destination) ++ s.queue.map (·.destination) ++ s.tasks.map Task.destination

section Steps
variable (listening : Listening) (acceptor : Acceptor)

-- The table entry that a step looks up: an accept by its listener, the last peek by the name found.
inductive LooksUp (s : System) : Action → Destination → Prop
  | tcp {listener : ℕ} {remote : SocketAddr} {tcpListener : TcpListener} {route : Route} :
      listening.tcpRp.listeners[listener]? = some (tcpListener,route) →
      LooksUp s (.acceptTcp listener remote) route.2.destination
  | tls {task available : ℕ} {t : Inspecting} {recordHeader : List UInt8} {client : Client}
      {name : Str} {res : PossibleDestinations} : s.inspecting[task]? = some t →
      t.stage = .body recordHeader → s.accepted[t.stream]? = some client →
      nameFrom acceptor listening.tlsHttpRp.connectionSettings recordHeader
        (.arrived (client.received.take available)) = some name →
      listening.tlsHttpRp.destinationProvider[name]? = some res →
      LooksUp s (.peek task available) res.destination

def RoutesInternally (s : System) (action : Action) : Prop :=
  ∃ destination, LooksUp listening acceptor s action destination ∧ destination.isInternal

variable {listening acceptor} {s t : System}

theorem sent_forwardConn (forwardTable : ServiceForwardTable) (listener : Option ℕ)
    (conn : ForwardedConnection) (s : System) {d : Destination}
    (h : d ∈ sentDestinations (s.forwardConn forwardTable listener conn)) :
    d ∈ sentDestinations s ∨ d = conn.destination := by
  unfold System.forwardConn at h
  cases hf : forwardTable.forwarder .loadBalancer with
  | error e =>
    rw [hf] at h
    exact .inl h
  | ok sender =>
    simp only [hf,sentDestinations,List.map_append,List.map_singleton,List.mem_append,
      List.mem_singleton] at h ⊢
    tauto

theorem forwardConn_sent {forwardTable : ServiceForwardTable} {sender : Sender}
    (hf : forwardTable.forwarder .loadBalancer = .ok sender) (listener : Option ℕ)
    (conn : ForwardedConnection) (s : System) :
    conn.destination ∈ sentDestinations (s.forwardConn forwardTable listener conn) := by
  simp [System.forwardConn,hf,sentDestinations]

theorem sent_taken {task : ℕ} {w : Sending} (hw : s.sending[task]? = some w)
    {queue : List ForwardedConnection} (hq : ∀ conn ∈ queue, conn ∈ s.queue ∨ conn = w.conn)
    {d : Destination}
    (hd : d ∈ sentDestinations { s with sending := s.sending.eraseIdx task,queue }) :
    d ∈ sentDestinations s := by
  simp only [sentDestinations,List.mem_append,List.mem_map] at hd ⊢
  rcases hd with (⟨x,hx,rfl⟩ | ⟨conn,hc,rfl⟩) | hd
  · exact .inl (.inl ⟨x,List.mem_of_mem_eraseIdx hx,rfl⟩)
  · rcases hq conn hc with hc | rfl
    · exact .inl (.inr ⟨conn,hc,rfl⟩)
    · exact .inl (.inl ⟨w,List.mem_of_getElem? hw,rfl⟩)
  · exact .inr hd

theorem sent_replaced {task : ℕ} {old new : Task} (ho : s.tasks[task]? = some old)
    (hn : new.destination = old.destination) {d : Destination}
    (hd : d ∈ (s.tasks.eraseIdx task ++ [new]).map Task.destination) :
    d ∈ s.tasks.map Task.destination := by
  simp only [List.map_append,List.map_singleton,List.mem_append,List.mem_singleton] at hd
  rcases hd with hd | rfl
  · obtain ⟨x,hx,rfl⟩ := List.mem_map.mp hd
    exact List.mem_map_of_mem (List.mem_of_mem_eraseIdx hx)
  · rw [hn]
    exact List.mem_map_of_mem (List.mem_of_getElem? ho)

theorem sent_tasks {d : Destination} (hd : d ∈ sentDestinations t)
    (hsending : t.sending = s.sending) (hqueue : t.queue = s.queue)
    (htasks : d ∈ t.tasks.map Task.destination → d ∈ s.tasks.map Task.destination) :
    d ∈ sentDestinations s := by
  simp only [sentDestinations,hsending,hqueue,List.mem_append] at hd ⊢
  exact hd.imp id htasks

theorem sent_moves {action : Action} (h : System.Moves listening acceptor s action t)
    {d : Destination} (hd : d ∈ sentDestinations t) :
    d ∈ sentDestinations s ∨ LooksUp listening acceptor s action d := by
  cases h with
  | acceptTls | arrive | peekDrops | peekGoesOn | peekFails | bridgeEnds => exact .inl hd
  | acceptTcp remote hl =>
    rcases sent_forwardConn _ _ _ _ hd with hd | rfl
    · exact .inl hd
    · exact .inr (.tcp hl)
  | peekForwards ht hc hs hn hr =>
    rcases sent_forwardConn _ _ _ _ hd with hd | rfl
    · exact .inl hd
    · exact .inr (.tls ht hs hc hn hr)
  | sends hw =>
    refine .inl (sent_taken hw (fun conn hc => ?_) hd)
    simpa only [List.mem_append,List.mem_singleton] using hc
  | sendFails hw => exact .inl (sent_taken hw (fun conn hc => .inl hc) hd)
  | receive hq =>
    simp only [sentDestinations,hq,List.map_append,List.map_cons,List.map_nil,List.mem_append,
      List.mem_cons,List.not_mem_nil,or_false,Task.destination] at hd ⊢
    tauto
  | closeReceiver =>
    simp only [System.closeReceiver,System.drop,sentDestinations,List.map_nil,List.append_nil,
      List.mem_append] at hd ⊢
    exact .inl (hd.imp .inl id)
  | start ht =>
    refine .inl (sent_tasks hd rfl rfl (sent_replaced ht ?_))
    rfl
  | proceed outcome ht =>
    refine .inl (sent_tasks hd rfl rfl (sent_replaced ht ?_))
    rfl
  | finish =>
    refine .inl (sent_tasks hd rfl rfl (fun hm => ?_))
    obtain ⟨x,hx,rfl⟩ := List.mem_map.mp hm
    exact List.mem_map_of_mem (List.mem_of_mem_eraseIdx hx)

structure Balanced (listening : Listening) : Prop where
  tls : ∃ sender, listening.tlsHttpRp.forwardSender.forwarder .loadBalancer = .ok sender
  tcp : ∃ sender, listening.tcpRp.forwardSender.forwarder .loadBalancer = .ok sender

theorem lookedUp_sent (hb : Balanced listening) {action : Action} {d : Destination}
    (hf : LooksUp listening acceptor s action d) (h : s.step listening acceptor action = some t) :
    d ∈ sentDestinations t := by
  cases hf with
  | tcp hl =>
    obtain ⟨sender,hs⟩ := hb.tcp
    cases System.step_moves h with
    | acceptTcp remote hl' =>
      obtain rfl := (Prod.mk.inj (Option.some.inj (hl.symm.trans hl'))).2
      exact forwardConn_sent hs _ _ _
  | tls ht hstage hc hn hr =>
    obtain ⟨sender,hs⟩ := hb.tls
    cases System.step_moves h with
    | peekDrops ht' hc' hno =>
      obtain rfl := Option.some.inj (ht.symm.trans ht')
      obtain rfl := Option.some.inj (hc.symm.trans hc')
      rw [hstage] at hno
      exact absurd (hr.symm.trans (hno _ hn)) nofun
    | peekGoesOn ht' hc' hstage' =>
      obtain rfl := Option.some.inj (ht.symm.trans ht')
      cases hstage.symm.trans hstage'
    | peekForwards ht' hc' hstage' hn' hr' =>
      obtain rfl := Option.some.inj (ht.symm.trans ht')
      obtain rfl := Option.some.inj (hc.symm.trans hc')
      obtain rfl := Inspection.body.inj (hstage.symm.trans hstage')
      obtain rfl := Option.some.inj (hn.symm.trans hn')
      obtain rfl := Option.some.inj (hr.symm.trans hr')
      exact forwardConn_sent hs _ _ _

-- No line of the file names an internal service.
theorem routes_externally
    (htls : ∀ (name : Str) (res : PossibleDestinations),
      listening.tlsHttpRp.destinationProvider[name]? = some res →
      res.destination.isInternal = false)
    (htcp : ∀ p ∈ listening.tcpRp.listeners, p.2.2.destination.isInternal = false) (s : System)
    (action : Action) : ¬ RoutesInternally listening acceptor s action := by
  rintro ⟨_,hlooks,hinternal⟩
  cases hlooks with
  | tcp hl =>
    rw [htcp _ (List.mem_of_getElem? hl)] at hinternal
    cases hinternal
  | tls ht hs hc hn hr =>
    rw [htls _ _ hr] at hinternal
    cases hinternal

end Steps

section Runs
variable {hosts : HostTable} {routes : List Route} {listening : Listening} {acceptor : Acceptor}
  {machines : Machines} {s t : System}

theorem routeOf_functional {client : Client} {d d' : Destination}
    (h : Routing.RouteOf hosts routes listening acceptor client d)
    (h' : Routing.RouteOf hosts routes listening acceptor client d') : d = d' := by
  cases h with
  | tls hlistener hheader hbody hname hres =>
    cases h' with
    | tls hlistener' hheader' hbody' hname' hres' =>
      obtain rfl := Option.some.inj (hname.symm.trans hname')
      obtain rfl := Option.some.inj (hres.symm.trans hres')
      rfl
  | tcp hlistener hroute hport =>
    cases h' with
    | tcp hlistener' hroute' hport' =>
      rw [hlistener,Option.some.injEq,Prod.mk.injEq] at hlistener'
      rw [hlistener'.2]

-- Neither is a connection with an internal destination sent to the load balancer, nor does it
-- get one whose route is an internal service.
structure KeptFromBalancer (hosts : HostTable) (routes : List Route) (listening : Listening)
    (acceptor : Acceptor) (s : System) : Prop where
  destinations : ∀ d ∈ sentDestinations s, d.isInternal = false
  routes : ∀ stream ∈ streamsAt s .channel + streamsAt s .attempt + streamsAt s .bridged,
    ∀ client service, s.accepted[stream]? = some client →
      ¬ Routing.RouteOf hosts routes listening acceptor client (.internalService service)

theorem chosen_channel (hi : Routing.Inv hosts routes listening acceptor machines s)
    {stream : StreamId} (h : stream ∈ streamsAt s .channel) :
    ∃ d ∈ sentDestinations s, Routing.Chosen hosts routes listening acceptor s.accepted stream d := by
  simp only [streamsAt,Multiset.mem_coe,List.mem_flatMap,List.mem_append,List.mem_map] at h
  obtain ⟨conn,⟨w,hw,rfl⟩ | hq,hs⟩ := h
  · refine ⟨w.conn.destination,?_,?_⟩
    · simp only [sentDestinations,List.mem_append]
      exact .inl (.inl (List.mem_map.mpr ⟨w,hw,rfl⟩))
    · exact hi.fits (.sending w) (by simp [holders,Exchange.mem_each,hw]) stream hs
  · refine ⟨conn.destination,?_,?_⟩
    · simp only [sentDestinations,List.mem_append]
      exact .inl (.inr (List.mem_map.mpr ⟨conn,hq,rfl⟩))
    · exact hi.fits (.queued conn) (by simp [holders,Exchange.mem_each,hq]) stream hs

theorem chosen_attempt (hi : Routing.Inv hosts routes listening acceptor machines s)
    {stream : StreamId} (h : stream ∈ streamsAt s .attempt) :
    ∃ d ∈ sentDestinations s, Routing.Chosen hosts routes listening acceptor s.accepted stream d := by
  simp only [streamsAt,Multiset.mem_coe,List.mem_flatMap] at h
  obtain ⟨task,ht,hs⟩ := h
  have hf := hi.fits (.handling task) (by simp [holders,Exchange.mem_each,ht])
  have hd : task.destination ∈ sentDestinations s := by
    simp only [sentDestinations,List.mem_append]
    exact .inr (List.mem_map_of_mem ht)
  cases task with
  | received conn => exact ⟨_,hd,hf stream hs⟩
  | running destination point => exact ⟨_,hd,hf.1 stream hs⟩

theorem kept_iff (hi : Routing.Inv hosts routes listening acceptor machines s) :
    KeptFromBalancer hosts routes listening acceptor s ↔
      ∀ d ∈ sentDestinations s, d.isInternal = false := by
  refine ⟨KeptFromBalancer.destinations,fun hd => ⟨hd,?_⟩⟩
  intro stream hs client service hc hr
  have internal {d : Destination}
      (h : Routing.Chosen hosts routes listening acceptor s.accepted stream d) :
      d = .internalService service := by
    obtain ⟨client',hc',hr'⟩ := h
    obtain rfl := Option.some.inj (hc.symm.trans hc')
    exact routeOf_functional hr' hr
  rcases Multiset.mem_add.mp hs with hs | hs
  · obtain ⟨d,hm,hch⟩ := (Multiset.mem_add.mp hs).elim (chosen_channel hi) (chosen_attempt hi)
    have hn := hd d hm
    rw [internal hch] at hn
    cases hn
  · obtain ⟨bridge,hb,rfl⟩ := List.mem_map.mp (Multiset.mem_coe.mp hs)
    obtain ⟨d,hch,hserved⟩ := hi.fits (.bridged bridge) (by simp [holders,Exchange.mem_each,hb])
    have hp := hserved.port
    rw [internal hch] at hp
    cases hp

theorem run_kept_iff (hl : Routing.ListensTo hosts routes listening) (hb : Balanced listening)
    {actions : List Action}
    (h : Execution.run (System.step listening acceptor) (System.initial machines) actions = some s) :
    (∀ pre u, pre <+: actions →
      Execution.run (System.step listening acceptor) (System.initial machines) pre = some u →
        KeptFromBalancer hosts routes listening acceptor u) ↔
      ∀ pre action post u, actions = pre ++ action :: post →
        Execution.run (System.step listening acceptor) (System.initial machines) pre = some u →
          ¬ RoutesInternally listening acceptor u action := by
  have hstep : ∀ s action t, Routing.Inv hosts routes listening acceptor machines s →
      KeptFromBalancer hosts routes listening acceptor s →
      System.step listening acceptor s action = some t →
      (KeptFromBalancer hosts routes listening acceptor t ↔
        ¬ RoutesInternally listening acceptor s action) := by
    intro s action t hi hs ht
    rw [kept_iff hi] at hs
    rw [kept_iff (Routing.inv_step hl s action t hi ht)]
    constructor
    · rintro hk ⟨d,hf,hd⟩
      rw [hk d (lookedUp_sent hb hf ht)] at hd
      cases hd
    · intro hr d hd
      rcases sent_moves (System.step_moves ht) hd with hd | hf
      · exact hs d hd
      · exact Bool.eq_false_iff.mpr (fun hd => hr ⟨d,hf,hd⟩)
  have hinit := Routing.inv_initial hosts routes listening acceptor machines
  have hkept : KeptFromBalancer hosts routes listening acceptor (System.initial machines) :=
    (kept_iff hinit).mpr (fun d hd => by cases hd)
  exact Execution.always_iff (System.step listening acceptor) (Routing.inv_step hl) hstep hinit hkept h

end Runs

section Server
variable (parse : FromStr) (env : LogEnvironment) (load : Str → Except Str SectionMaps)
  (outcomes : BindOutcomes)

theorem launch_listens {b : ConfigBuilder} {listening : Listening} {lb : LoadBalancer}
    (h : Startup.launch outcomes b = .ok ⟨.ok listening,lb⟩) :
    Binding.Listens outcomes (Startup.tlsHandler b Startup.forwardTable)
      (Startup.tcpHandler b Startup.forwardTable) (Startup.bindSettings b) listening := by
  by_cases hl : b.tlsRpDestProvider.isEmpty ∨ b.tcpRpDestProvider = []
  · obtain ⟨e,he⟩ := Startup.launch_without_listener outcomes hl
    rw [he] at h
    cases h
  · obtain ⟨ht,hr⟩ := not_or.mp hl
    rw [Startup.launch_with_listeners outcomes ht hr] at h
    cases hb : (Startup.listeners b).bind outcomes (Startup.bindSettings b) 0 with
    | error e => simp [hb] at h
    | ok p =>
      refine ⟨0,p.2,p.1,hb,?_⟩
      simp only [hb,Server.run,Startup.server] at h
      cases hlb : Startup.balancer b.loadBalancerAddrs with
      | none => simp [hlb] at h
      | some balancer =>
        cases hlisten : p.1.listen with
        | error f => cases f <;> simp [hlb,hlisten] at h
        | ok bound =>
          simp only [hlb,hlisten,Except.ok.injEq,Running.mk.injEq] at h
          rw [h.1]

theorem start_loads {parse : FromStr} {env : LogEnvironment} {load : Str → Except Str SectionMaps}
    {outcomes : BindOutcomes} {b : ConfigBuilder} {running : Running}
    (h : start parse env load outcomes b = .ok running) :
    ∃ r, b.getIniConfig parse env load = .ok r := by
  rw [Startup.start_eq] at h
  cases hg : b.getIniConfig parse env load with
  | error e => simp [hg] at h
  | ok r => exact ⟨r,rfl⟩

theorem forwardTable_balances : Startup.forwardTable.forwarder .loadBalancer = .ok ⟨50⟩ := rfl

theorem listens_balanced {b : ConfigBuilder} {settings : BindSettings} {listening : Listening}
    (h : Binding.Listens outcomes (Startup.tlsHandler b Startup.forwardTable)
      (Startup.tcpHandler b Startup.forwardTable) settings listening) : Balanced listening := by
  obtain ⟨htls,htcp⟩ := Binding.listens_handlers h
  constructor
  · have hs := congrArg TlsRpHandler.forwardSender htls
    exact ⟨_,by rw [show listening.tlsHttpRp.forwardSender = Startup.forwardTable from hs,
      forwardTable_balances]⟩
  · exact ⟨_,by rw [htcp]; exact forwardTable_balances⟩

theorem internal_routes_kept_iff {configBuilder b : ConfigBuilder} {log : LoggerConfig}
    (hini : configBuilder.getIniConfig parse env load = .ok (b,log)) {listening : Listening}
    {lb : LoadBalancer} (hstart : start parse env load outcomes configBuilder = .ok ⟨.ok listening,lb⟩)
    (acceptor : Acceptor) (actions : List Action) (s : System)
    (hrun : Execution.run (System.step listening acceptor) (System.initial lb.machines) actions =
      some s) :
    (∀ pre u, pre <+: actions →
      Execution.run (System.step listening acceptor) (System.initial lb.machines) pre = some u →
        KeptFromBalancer b.tlsRpDestProvider b.tcpRpDestProvider listening acceptor u) ↔
      ∀ pre action post u, actions = pre ++ action :: post →
        Execution.run (System.step listening acceptor) (System.initial lb.machines) pre = some u →
          ¬ RoutesInternally listening acceptor u action := by
  rw [Startup.start_eq,hini] at hstart
  have hl := launch_listens outcomes hstart
  obtain ⟨htable,hports⟩ := Binding.listens_tables hl
  exact run_kept_iff ⟨htable,hports⟩ (listens_balanced outcomes hl) hrun

end Server

section Example

def defaultSection : Section :=
  Startup.boundSection.insert "destination-addresses".toList (some "127.0.0.1".toList)

def tarpitFile : SectionMaps :=
  ((AList.singleton "rusty-valve".toList defaultSection).insert
    "tls-rp-ports".toList Startup.hostSection).insert "tcp-rp-ports".toList
      (AList.singleton "22".toList (some "ssh-tarpit".toList))

def oneVisit : List Action := [.acceptTcp 0 ⟨.v4 0x7F000001#32,40000⟩,.send 0]

def startTarpit : Except Failure Running :=
  start .std .silent (fun _ => .ok tarpitFile) (fun _ _ => none) (ConfigBuilder.new.getOpts true none)

def visit (running : Running) : Option (List Destination) := do
  let listening ← running.listeners.toOption
  let s ← Execution.run (System.step listening Routing.noHello)
    (System.initial running.loadBalancer.machines) oneVisit
  pure (s.queue.map (·.destination))

theorem visit_tarpit : startTarpit.toOption.bind visit = some [.internalService .sshTarpit] := by
  decide +kernel

theorem tarpit_visited : ∃ b log listening lb s,
    (ConfigBuilder.new.getOpts true none).getIniConfig .std .silent (fun _ => .ok tarpitFile) =
      .ok (b,log) ∧
    startTarpit = .ok ⟨.ok listening,lb⟩ ∧
    Execution.run (System.step listening Routing.noHello) (System.initial lb.machines) oneVisit =
      some s ∧
    .internalService .sshTarpit ∈ sentDestinations s := by
  have hv := visit_tarpit
  cases hs : startTarpit with
  | error e => simp [hs,Except.toOption] at hv
  | ok running =>
    obtain ⟨listeners,lb⟩ := running
    cases listeners with
    | error e => simp [hs,visit,Except.toOption] at hv
    | ok listening =>
      simp only [hs,visit,Except.toOption,Option.bind_some,Option.bind_eq_bind,
        Option.bind_eq_some_iff,Option.pure_def,Option.some.injEq] at hv
      obtain ⟨s,hr,hq⟩ := hv
      obtain ⟨⟨b,log⟩,hini⟩ := start_loads hs
      refine ⟨b,log,listening,lb,s,hini,rfl,hr,?_⟩
      simp [sentDestinations,hq]

theorem tarpit_sent_to_balancer : ∃ b log listening lb s,
    (ConfigBuilder.new.getOpts true none).getIniConfig .std .silent (fun _ => .ok tarpitFile) =
      .ok (b,log) ∧
    startTarpit = .ok ⟨.ok listening,lb⟩ ∧
    Execution.run (System.step listening Routing.noHello) (System.initial lb.machines) oneVisit =
      some s ∧
    ¬ KeptFromBalancer b.tlsRpDestProvider b.tcpRpDestProvider listening Routing.noHello s := by
  obtain ⟨b,log,listening,lb,s,hini,hstart,hrun,hd⟩ := tarpit_visited
  refine ⟨b,log,listening,lb,s,hini,hstart,hrun,fun hk => ?_⟩
  exact Bool.noConfusion (hk.destinations _ hd)

end Example

end InternalRoutes

end RustyValve
