import RustyValve.LoadingOrder
import RustyValve.Serving

namespace RustyValve

namespace FileOrder

open Binding Loading Serving

section Rename
variable (σ : Equiv.Perm ℕ)

-- A TCP listener is known by its place in the list of listeners.
def renameOrigin : Origin → Origin
  | .tls listener => .tls listener
  | .tcp listener => .tcp (σ listener)

def renameClient (client : Client) : Client := { client with origin := renameOrigin σ client.origin }

def renameSending (w : Sending) : Sending := { w with listener := w.listener.map σ }

def rename (s : System) : System :=
  { s with
    accepted := s.accepted.map (renameClient σ)
    sending := s.sending.map (renameSending σ) }

def renameAction : Action → Action
  | .acceptTcp listener remote => .acceptTcp (σ listener) remote
  | action => action

theorem renameAction_surjective : Function.Surjective (renameAction σ) := by
  intro action
  refine ⟨renameAction σ.symm action,?_⟩
  cases action <;> simp [renameAction]

structure Renames (listening listening' : Listening) : Prop where
  tls : listening'.tlsHttpRp = listening.tlsHttpRp
  settings : listening'.tcpRp.connectionSettings = listening.tcpRp.connectionSettings
  sender : listening'.tcpRp.forwardSender = listening.tcpRp.forwardSender
  listeners : ∀ i, listening'.tcpRp.listeners[σ i]? = listening.tcpRp.listeners[i]?

variable {σ} {listening listening' : Listening} {acceptor : Acceptor}

theorem rename_inspect (task : Inspecting) (s : System) :
    rename σ (s.inspect task) = (rename σ s).inspect task := rfl

theorem rename_accept (origin : Origin) (s : System) :
    rename σ (s.accept origin) = (rename σ s).accept (renameOrigin σ origin) := by
  simp [rename,System.accept,renameClient]

theorem rename_forwardConn (forwardTable : ServiceForwardTable) (listener : Option ℕ)
    (conn : ForwardedConnection) (s : System) :
    rename σ (s.forwardConn forwardTable listener conn) =
      (rename σ s).forwardConn forwardTable (listener.map σ) conn := by
  unfold System.forwardConn
  cases forwardTable.forwarder .loadBalancer with
  | error e => rfl
  | ok sender => simp [rename,renameSending]

-- What arrives and what is peeked does not look at the listener.
theorem modify_rename (f : Client → Client) (hf : ∀ c, renameClient σ (f c) = f (renameClient σ c))
    (stream : StreamId) (accepted : List Client) :
    (accepted.modify stream f).map (renameClient σ) =
      (accepted.map (renameClient σ)).modify stream f := by
  apply List.ext_getElem?
  intro i
  simp only [List.getElem?_map,List.getElem?_modify]
  cases accepted[i]? with
  | none => rfl
  | some c =>
    rw [Option.map_some]
    split
    · exact congrArg some (hf c)
    · rfl

theorem rename_arrive (stream : StreamId) (bytes : List UInt8) (s : System) :
    rename σ (s.arrive stream bytes) = (rename σ s).arrive stream bytes := by
  have hm := @modify_rename σ (fun a => { a with received := a.received ++ bytes })
    (fun _ => rfl) stream s.accepted
  simp only [System.arrive,rename,hm]

theorem rename_peeked (stream : StreamId) (found : List UInt8) (s : System) :
    rename σ (s.peeked stream found) = (rename σ s).peeked stream found := by
  have hm := @modify_rename σ (fun a => { a with peeks := a.peeks ++ [found] })
    (fun _ => rfl) stream s.accepted
  simp only [System.peeked,rename,hm]

theorem rename_inspected (task : Inspecting) (found : List UInt8) (s : System) :
    rename σ (System.inspected listening acceptor task found s) =
      System.inspected listening acceptor task found (rename σ s) := by
  unfold System.inspected
  cases task.stage with
  | header =>
    cases peekTimeout 5 (.arrived found) with
    | none => rfl
    | some recordHeader =>
      simp only
      split <;> rfl
  | body recordHeader =>
    simp only
    cases nameFrom acceptor listening.tlsHttpRp.connectionSettings recordHeader (.arrived found) with
    | none => rfl
    | some name =>
      simp only
      cases connectionTo listening.tlsHttpRp.connectionSettings task.stream task.remote
          listening.tlsHttpRp.destinationProvider name with
      | none => rfl
      | some conn => exact rename_forwardConn _ none conn s

theorem inspected_eq (h : listening'.tlsHttpRp = listening.tlsHttpRp) (task : Inspecting)
    (found : List UInt8) (s : System) : System.inspected listening' acceptor task found s =
      System.inspected listening acceptor task found s := by
  unfold System.inspected
  rw [h]

theorem held_iff (listener : ℕ) (s : System) :
    some (σ listener) ∈ (rename σ s).sending.map Sending.listener ↔
      some listener ∈ s.sending.map Sending.listener := by
  simp only [rename,renameSending,List.map_map,List.mem_map,Function.comp_apply,
    Option.map_eq_some_iff,EmbeddingLike.apply_eq_iff_eq,exists_eq_right]

theorem acceptTcp_rename (h : Renames σ listening listening') (listener : ℕ) (remote : SocketAddr)
    (s : System) : System.acceptTcp listening' (σ listener) remote (rename σ s) =
      (System.acceptTcp listening listener remote s).map (rename σ) := by
  unfold System.acceptTcp
  rw [h.listeners]
  cases listening.tcpRp.listeners[listener]? with
  | none => rfl
  | some bound =>
    simp only [held_iff,h.sender,h.settings,listenTcp_eq]
    split
    · rfl
    · rw [Option.map_some,rename_forwardConn,rename_accept]
      simp [rename,renameOrigin]

theorem peek_rename (h : Renames σ listening listening') (task available : ℕ) (s : System) :
    System.peek listening' acceptor task available (rename σ s) =
      (System.peek listening acceptor task available s).map (rename σ) := by
  have hi : (rename σ s).inspecting = s.inspecting := rfl
  have ha : (rename σ s).accepted = s.accepted.map (renameClient σ) := rfl
  simp only [System.peek,hi,ha,List.getElem?_map]
  cases s.inspecting[task]? with
  | none => rfl
  | some t =>
    simp only
    cases s.accepted[t.stream]? with
    | none => rfl
    | some client =>
      simp only [Option.map_some,inspected_eq h.tls,rename_inspected,← rename_peeked]
      rfl

theorem send_rename (task : ℕ) (s : System) :
    (rename σ s).send task = (s.send task).map (rename σ) := by
  simp only [System.send,rename,List.getElem?_map]
  cases s.sending[task]? with
  | none => rfl
  | some w =>
    simp only [Option.map_some,renameSending,List.eraseIdx_map]
    split
    · split <;> rfl
    · rfl

theorem step_rename (h : Renames σ listening listening') (s : System) (action : Action) :
    System.step listening' acceptor (rename σ s) (renameAction σ action) =
      (System.step listening acceptor s action).map (rename σ) := by
  cases action with
  | acceptTls listener remote =>
    simp only [System.step,renameAction,System.acceptTls,h.tls]
    split
    · rw [Option.map_some,rename_inspect,rename_accept]
      simp [rename,renameOrigin]
    · rfl
  | acceptTcp listener remote => exact acceptTcp_rename h listener remote s
  | arrive stream bytes => exact congrArg some (rename_arrive stream bytes s).symm
  | peek task available => exact peek_rename h task available s
  | peekFails task =>
    simp only [System.step,renameAction,System.peekFails,rename]
    cases s.inspecting[task]? <;> rfl
  | send task => exact send_rename task s
  | receive =>
    simp only [System.step,renameAction,System.receive,rename]
    cases s.queue <;> rfl
  | closeReceiver => rfl
  | start task order =>
    simp only [System.step,renameAction,System.start,rename]
    cases s.tasks[task]? with
    | none => rfl
    | some t =>
      cases t with
      | running destination point => rfl
      | received conn =>
        simp only [apply_ite (Option.map (rename σ)),Option.map_some]
        rfl
  | proceed task outcome =>
    simp only [System.step,renameAction,System.proceed,rename]
    cases s.tasks[task]? with
    | none => rfl
    | some t => cases t <;> rfl
  | finish task =>
    simp only [System.step,renameAction,System.finish,rename]
    cases s.tasks[task]? with
    | none => rfl
    | some t =>
      cases t with
      | received conn => rfl
      | running destination point => cases point <;> rfl
  | bridgeEnds bridge =>
    simp only [System.step,renameAction,System.bridgeEnds,rename]
    cases s.bridges[bridge]? <;> rfl

end Rename

section File

-- The maps that two readings of one file give: a `HashMap` has an order of its own each time.
def SameFile (configMap configMap' : SectionMaps) : Prop :=
  ∀ name, Option.Rel (fun s s' : Section => s.entries.Perm s'.entries)
    (configMap.lookup name) (configMap'.lookup name)

theorem SameFile.sections {configMap configMap' : SectionMaps} (h : SameFile configMap configMap')
    {name : Str} {s s' : Section} (hs : configMap.lookup name = some s)
    (hs' : configMap'.lookup name = some s') : s.entries.Perm s'.entries := by
  have hr := h name
  rw [hs,hs'] at hr
  cases hr with
  | some hp => exact hp

variable (parse : FromStr) {s s' : Section}

theorem takeMultiValue_perm {T : Type} (h : s.entries.Perm s'.entries) (f : Str → Except Error T)
    (key : Str) : (s.takeMultiValue f key).1 = (s'.takeMultiValue f key).1 := by
  simp only [Section.takeMultiValue,AList.perm_lookup h]

theorem listenPorts_perm (h : s.entries.Perm s'.entries) :
    listenPorts parse s = listenPorts parse s' := by
  rw [listenPorts,listenPorts,takeMultiValue_perm h]

theorem fallback_perm (h : s.entries.Perm s'.entries) : fallback parse s = fallback parse s' := by
  simp only [fallback,Section.takeOptValue,AList.perm_lookup h]

theorem opened_perm (ips : List IpAddr) {routes routes' : List Route} (h : routes.Perm routes') :
    (opened ips routes).Perm (opened ips routes') := by
  cases ips with
  | nil => exact .refl _
  | cons ip ips =>
    exact (routes.reverse_perm.trans (h.trans routes'.reverse_perm.symm)).map _

variable {parse} {configMap configMap' : SectionMaps} {outcomes outcomes' : BindOutcomes}
  {defaultMap tlsRpMap tcpRpMap defaultMap' tlsRpMap' tcpRpMap' : Section}
  {ips addrs ips' addrs' : List IpAddr} {routes routes' : List Route} {listening listening' : Listening}
  {lb lb' : LoadBalancer}

theorem provided_renames (hfile : SameFile configMap configMap')
    (h : Provides parse outcomes configMap defaultMap tlsRpMap tcpRpMap ips addrs routes)
    (h' : Provides parse outcomes' configMap' defaultMap' tlsRpMap' tcpRpMap' ips' addrs' routes')
    (hl : ⟨.ok listening,lb⟩ = provided parse defaultMap tlsRpMap ips addrs routes)
    (hl' : ⟨.ok listening',lb'⟩ = provided parse defaultMap' tlsRpMap' ips' addrs' routes') :
    lb' = lb ∧ ∃ σ, Renames σ listening listening' := by
  have hdefault := hfile.sections h.default h'.default
  have hips : ips' = ips := by
    have hi := h'.addresses
    rw [← takeMultiValue_perm hdefault,h.addresses] at hi
    exact (Except.ok.inj hi).symm
  have haddrs : addrs' = addrs := by
    have ha := h'.destinations
    rw [← takeMultiValue_perm hdefault,h.destinations] at ha
    exact (Except.ok.inj ha).symm
  have hroutes : routes.Perm routes' := by
    obtain ⟨routes'',hr,hp⟩ := Traversal.mapM_some_perm (hfile.sections h.tcpRp h'.tcpRp) h.read
    exact Option.some.inj (hr.symm.trans h'.read) ▸ hp
  obtain ⟨hok,rfl⟩ := Running.mk.inj hl
  obtain ⟨hok',rfl⟩ := Running.mk.inj hl'
  obtain rfl := Except.ok.inj hok
  obtain rfl := Except.ok.inj hok'
  obtain ⟨σ,hσ⟩ := Traversal.perm_positions (opened_perm ips hroutes)
  subst hips haddrs
  refine ⟨rfl,σ,?_,rfl,rfl,hσ⟩
  rw [← listenPorts_perm parse hdefault,← fallback_perm parse hdefault,
    ← LoadingOrder.insertHosts_perm parse _ (hfile.sections h.tlsRp h'.tlsRp)]

end File

section Server
variable {parse : FromStr} {env env' : LogEnvironment} {load load' : Str → Except Str SectionMaps}
  {outcomes outcomes' : BindOutcomes} {debugAssertions : Bool} {config : Option Str} {path : Str}
  {configMap configMap' : SectionMaps} {listening listening' : Listening} {lb lb' : LoadBalancer}

theorem file_order_unseen
    (hpath : (if debugAssertions then some "resources/config/config.ini".toList else config) =
      some path) (hload : load path = .ok configMap) (hload' : load' path = .ok configMap')
    (hfile : SameFile configMap configMap')
    (hstart : start parse env load outcomes (ConfigBuilder.new.getOpts debugAssertions config) =
      .ok ⟨.ok listening,lb⟩)
    (hstart' : start parse env' load' outcomes' (ConfigBuilder.new.getOpts debugAssertions config) =
      .ok ⟨.ok listening',lb'⟩) :
    ∃ σ, Renames σ listening listening' ∧ ∀ acceptor,
      (∀ actions, Execution.run (System.step listening' acceptor) (System.initial lb'.machines)
          (actions.map (renameAction σ)) =
        (Execution.run (System.step listening acceptor) (System.initial lb.machines) actions).map
          (rename σ)) ∧
      ∀ t, Execution.Reachable (System.step listening' acceptor) (System.initial lb'.machines) t ↔
        ∃ s, Execution.Reachable (System.step listening acceptor) (System.initial lb.machines) s ∧
          rename σ s = t := by
  obtain ⟨_,_,_,_,_,_,_,_,hp,hl,hprov,hrun⟩ := provides_of_start parse hstart
  obtain ⟨_,_,_,_,_,_,_,_,hp',hl',hprov',hrun'⟩ := provides_of_start parse hstart'
  obtain rfl := Option.some.inj (hpath.symm.trans hp)
  obtain rfl := Option.some.inj (hpath.symm.trans hp')
  obtain rfl := Except.ok.inj (hload.symm.trans hl)
  obtain rfl := Except.ok.inj (hload'.symm.trans hl')
  obtain ⟨rfl,σ,hσ⟩ := provided_renames hfile hprov hprov' hrun hrun'
  refine ⟨σ,hσ,fun acceptor => ?_⟩
  have hstep (s : System) (action : Action) := @step_rename σ listening listening' acceptor hσ s action
  have hinit : rename σ (System.initial lb'.machines) = System.initial lb'.machines := rfl
  constructor
  · intro actions
    exact Execution.run_map hstep (System.initial lb'.machines) actions
  · intro t
    exact Execution.reachable_map_iff hstep (renameAction_surjective σ) (System.initial lb'.machines) t

section Example

open LoadingOrder

-- Two lines of `tcp-rp-ports`, met in two orders.
def portsIn (first second : Str × Option Str) : SectionMaps :=
  ((AList.singleton "rusty-valve".toList InternalRoutes.defaultSection).insert
    "tls-rp-ports".toList Startup.hostSection).insert "tcp-rp-ports".toList (twoHosts first second)

theorem portsIn_sameFile : SameFile (portsIn sshPort mailPort) (portsIn mailPort sshPort) := by
  intro name
  by_cases hn : name = "tcp-rp-ports".toList
  · subst hn
    rw [portsIn,portsIn,AList.lookup_insert,AList.lookup_insert]
    exact .some (twoHosts_perm (by decide))
  · rw [portsIn,portsIn,AList.lookup_insert_ne hn,AList.lookup_insert_ne hn]
    cases AList.lookup name _ with
    | none => exact .none
    | some s => exact .some (.refl _)

def startPorts (first second : Str × Option Str) : Except Failure Running :=
  start .std .silent (fun _ => .ok (portsIn first second)) (fun _ _ => none)
    (ConfigBuilder.new.getOpts true none)

theorem startPorts_provided {first second : Str × Option Str} {routes : List Route}
    (hr : (twoHosts first second).entries.mapM (route .std) = some routes) (hne : routes ≠ []) :
    startPorts first second = .ok (provided .std InternalRoutes.defaultSection Startup.hostSection
      [Routing.loopback] [Routing.loopback] routes) :=
  start_of_provides .std .silent rfl rfl
    { proxyFile_provides with
      default := rfl
      tlsRp := rfl
      tcpRp := AList.lookup_insert _
      read := hr
      routed := hne
      bound := allBind_of_none _ (fun _ _ => rfl) 0 _ }

def sshRoute : Route := (2222,.withoutElse (.internalService .sshTarpit))

def directRoute : Route := (465,.withoutElse (.portOnly 465))

theorem two_orders_unseen : ∃ listening listening' lb lb' σ,
    startPorts sshPort mailPort = .ok ⟨.ok listening,lb⟩ ∧
    startPorts mailPort sshPort = .ok ⟨.ok listening',lb'⟩ ∧
    listening.tcpRp.listeners.map Prod.snd = [directRoute,sshRoute] ∧
    listening'.tcpRp.listeners.map Prod.snd = [sshRoute,directRoute] ∧
    Renames σ listening listening' ∧
    ∀ t, Execution.Reachable (System.step listening' Routing.noHello) (System.initial lb'.machines) t ↔
      ∃ s, Execution.Reachable (System.step listening Routing.noHello) (System.initial lb.machines) s ∧
        rename σ s = t := by
  have hread : (twoHosts sshPort mailPort).entries.mapM (route .std) = some [sshRoute,directRoute] := by
    decide
  have hread' : (twoHosts mailPort sshPort).entries.mapM (route .std) = some [directRoute,sshRoute] := by
    decide
  have h := startPorts_provided hread (by decide)
  have h' := startPorts_provided hread' (by decide)
  obtain ⟨σ,hσ,hall⟩ := file_order_unseen rfl rfl rfl portsIn_sameFile h h'
  exact ⟨_,_,_,_,σ,h,h',rfl,rfl,hσ,(hall Routing.noHello).2⟩

end Example

end Server

end FileOrder

end RustyValve
