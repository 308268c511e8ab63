import RustyValve.Moves
import RustyValve.Serving

namespace RustyValve

namespace Loads

open Custody Routing

def live (bridges : List Bridge) (ip : IpAddr) : ℕ :=
  (bridges.map (fun bridge => bridge.backend.ip)).count ip

theorem live_concat (bridges : List Bridge) (bridge : Bridge) (ip : IpAddr) :
    live (bridges ++ [bridge]) ip = live bridges ip + if bridge.backend.ip = ip then 1 else 0 := by
  simp [live,List.count_singleton]

theorem live_takeOut {bridges : List Bridge} {i : ℕ} {bridge : Bridge}
    (h : bridges[i]? = some bridge) (ip : IpAddr) :
    live bridges ip = live (bridges.eraseIdx i) ip + if bridge.backend.ip = ip then 1 else 0 := by
  obtain ⟨hi,rfl⟩ := List.getElem?_eq_some_iff.mp h
  have hp := (List.getElem_cons_eraseIdx_perm hi).map (fun bridge => bridge.backend.ip)
  rw [live,← hp.count_eq,List.map_cons,List.count_cons]
  simp [live]

def Metered (addresses : List IpAddr) (s : System) : Prop :=
  ∀ ip, s.machines[ip]? = if ip ∈ addresses then some ⟨0,false,1,live s.bridges ip⟩ else none

theorem configured_getElem? (addresses : List IpAddr) (ip : IpAddr) :
    (Balance.configured addresses)[ip]? = if ip ∈ addresses then some (.new 1) else none := by
  have fold : ∀ (ips : List IpAddr) (machines : Machines),
      (ips.foldl (fun machines ip => machines.insert ip (.new 1)) machines)[ip]? =
        if ip ∈ ips then some (.new 1) else machines[ip]? := by
    intro ips
    induction ips with
    | nil => simp
    | cons first ips ih =>
      intro machines
      rw [List.foldl_cons,ih,Std.ExtTreeMap.getElem?_insert]
      by_cases hi : ip ∈ ips
      · simp [hi]
      · by_cases hf : first = ip
        · simp [hf]
        · simp [hi,hf,Ne.symm hf]
  rw [Balance.configured,fold]
  simp

section Steps
variable {addresses : List IpAddr} {listening : Listening} {acceptor : Acceptor} {s t : System}

theorem metered_initial (addresses : List IpAddr) :
    Metered addresses (System.initial (Balance.configured addresses)) :=
  configured_getElem? addresses

theorem metered_of_same (hs : Metered addresses s) (hm : t.machines = s.machines)
    (hb : t.bridges = s.bridges) : Metered addresses t := by
  intro ip
  rw [hm,hb]
  exact hs ip

theorem bridges_forwardConn (forwardTable : ServiceForwardTable) (listener : Option ℕ)
    (conn : ForwardedConnection) (s : System) :
    (s.forwardConn forwardTable listener conn).bridges = s.bridges := by
  unfold System.forwardConn
  cases forwardTable.forwarder .loadBalancer <;> rfl

theorem metered_modify {f : DestinationMachine → DestinationMachine} {ip : IpAddr}
    (hs : Metered addresses s) (hm : t.machines = s.machines.modify ip f)
    (hf : f ⟨0,false,1,live s.bridges ip⟩ = ⟨0,false,1,live t.bridges ip⟩)
    (hb : ∀ other ≠ ip, live t.bridges other = live s.bridges other) : Metered addresses t := by
  intro other
  rw [hm,Std.ExtTreeMap.getElem?_modify]
  by_cases he : ip = other
  · subst he
    rw [if_pos Std.ReflCmp.compare_self,hs]
    by_cases hi : ip ∈ addresses <;> simp [hi,hf]
  · rw [if_neg (fun h => he (Std.LawfulEqOrd.compare_eq_iff_eq.mp h)),hs,hb other (Ne.symm he)]

theorem metered_step (s : System) (action : Action) (t : System) (hs : Metered addresses s)
    (h : s.step listening acceptor action = some t) : Metered addresses t := by
  cases System.step_moves h with
  | acceptTcp | peekForwards =>
    exact metered_of_same hs (machines_forwardConn _ _ _ _) (bridges_forwardConn _ _ _ _)
  | @proceed _ _ point outcome =>
    cases hb : (point.step (fun _ => outcome)).2 with
    | none => exact metered_of_same hs rfl (List.append_nil _)
    | some bridge =>
      refine @metered_modify _ _ _ _ bridge.backend.ip hs rfl ?_ (fun other hne => ?_)
      · simp [DestinationMachine.trackerSpawn,live_concat]
      · simp [live_concat,Ne.symm hne]
  | @bridgeEnds bridge b hb =>
    refine @metered_modify _ _ _ _ b.backend.ip hs rfl ?_ (fun other hne => ?_)
    · rw [live_takeOut hb,if_pos rfl]
      rfl
    · rw [live_takeOut hb,if_neg (Ne.symm hne),Nat.add_zero]
  | acceptTls | arrive | peekDrops | peekGoesOn | peekFails | sends | sendFails | receive
      | closeReceiver | start | finish => exact metered_of_same hs rfl rfl

end Steps

section Balance
variable {hosts : HostTable} {routes : List Route} {addresses : List IpAddr} {listening : Listening}
  {acceptor : Acceptor} {machines : Machines} {s t : System}

theorem metered_tracker (hs : Metered addresses s) {bridge : Bridge} (hb : bridge ∈ s.bridges)
    (hm : bridge.backend.ip ∈ s.machines) :
    ∃ machine, s.machines[bridge.backend.ip]? = some machine ∧ 0 < machine.taskTracker := by
  have hp := hs bridge.backend.ip
  split at hp
  · exact ⟨_,hp,List.count_pos_iff.mpr (List.mem_map_of_mem hb)⟩
  · rw [Std.ExtTreeMap.mem_iff_isSome_getElem?,hp] at hm
    cases hm

theorem target_configured (hi : Inv hosts routes listening acceptor machines s) {task : ℕ}
    {destination : Destination} {point : Handling} {outcome : ConnectOutcome} {bridge : Bridge}
    (ht : s.tasks[task]? = some (.running destination point))
    (hb : (point.step (fun _ => outcome)).2 = some bridge) : bridge.backend.ip ∈ s.machines := by
  have hf : Fits hosts routes listening acceptor machines s.accepted
      (.handling (.running destination point)) :=
    hi.fits _ (by simp [holders,Exchange.mem_each,List.mem_of_getElem? ht])
  exact (hi.configured _).mpr (hf.2 _ ((step_targets _ point).2 bridge hb)).configured

theorem bridged_configured (hi : Inv hosts routes listening acceptor machines s) {bridge : Bridge}
    (hb : bridge ∈ s.bridges) : bridge.backend.ip ∈ s.machines := by
  obtain ⟨destination,-,hserved⟩ := hi.fits (.bridged bridge) (by simp [holders,Exchange.mem_each,hb])
  exact (hi.configured _).mpr hserved.configured

theorem step_balanced (hi : Inv hosts routes listening acceptor machines s)
    (hs : Metered addresses s) {action : Action} (h : s.step listening acceptor action = some t) :
    ∃ events, Execution.run Balance.step s.machines events = some t.machines := by
  cases System.step_moves h with
  | acceptTcp | peekForwards => exact ⟨[],by rw [machines_forwardConn]; rfl⟩
  | @proceed task destination point outcome ht =>
    cases hb : (point.step (fun _ => outcome)).2 with
    | none => exact ⟨[],rfl⟩
    | some bridge =>
      refine ⟨[.bridgeStarted bridge.backend.ip],?_⟩
      simp [Balance.step,target_configured hi ht hb,System.bridgeStarted]
  | @bridgeEnds bridge b hb =>
    have hm := List.mem_of_getElem? hb
    obtain ⟨machine,hg,hpos⟩ := metered_tracker hs hm (bridged_configured hi hm)
    refine ⟨[.bridgeEnded b.backend.ip],?_⟩
    simp [Balance.step,hg,hpos]
  | acceptTls | arrive | peekDrops | peekGoesOn | peekFails | sends | sendFails | receive
      | closeReceiver | start | finish => exact ⟨[],rfl⟩

end Balance

-- What the load balancer goes by when it sorts, in whatever state a connection finds it.
structure Accounted (addresses : List IpAddr) (s : System) : Prop where
  metered : Metered addresses s
  reached : Execution.Reachable Balance.step (Balance.configured addresses) s.machines
  alike : ∀ providedIp, ∀ p ∈ eligible providedIp s.machines, p.2.weightedLoad = usizeMax

section Server
variable {parse : FromStr} {env : LogEnvironment} {load : Str → Except Str SectionMaps}
  {outcomes : BindOutcomes} {configBuilder b : ConfigBuilder} {log : LoggerConfig}
  {listening : Listening} {lb : LoadBalancer}

theorem loads_accounted (hini : configBuilder.getIniConfig parse env load = .ok (b,log))
    (hstart : start parse env load outcomes configBuilder = .ok ⟨.ok listening,lb⟩)
    (acceptor : Acceptor) (s : System)
    (hs : Execution.Reachable (System.step listening acceptor) (System.initial lb.machines) s) :
    Accounted b.loadBalancerAddrs s := by
  obtain ⟨b',log',hini',rfl,hm⟩ := Serving.start_serving hstart
  obtain ⟨rfl,-⟩ := Prod.mk.inj (Except.ok.inj (hini.symm.trans hini'))
  have hl := Serving.listening_listensTo b
  rw [hm] at hs
  obtain ⟨actions,hrun⟩ := hs
  let I (s : System) : Prop :=
    Inv b.tlsRpDestProvider b.tcpRpDestProvider (Serving.listening b) acceptor
      (Balance.configured b.loadBalancerAddrs) s ∧ Metered b.loadBalancerAddrs s
  have hinv : ∀ s action t, I s → System.step (Serving.listening b) acceptor s action = some t → I t :=
    fun s action t hi h => ⟨inv_step hl s action t hi.1 h,metered_step s action t hi.2 h⟩
  have hinit : I (System.initial (Balance.configured b.loadBalancerAddrs)) :=
    ⟨inv_initial _ _ _ _ _,metered_initial _⟩
  have hsim : ∀ s action t machines, I s → s.machines = machines →
      System.step (Serving.listening b) acceptor s action = some t → ∃ events machines',
        Execution.run Balance.step machines events = some machines' ∧ t.machines = machines' := by
    rintro s action t _ hi rfl h
    obtain ⟨events,he⟩ := step_balanced hi.1 hi.2 h
    exact ⟨events,_,he,rfl⟩
  obtain ⟨events,machines,hevents,rfl⟩ := Execution.run_simulated
    (R := fun s machines => s.machines = machines) hinv hsim hinit rfl hrun
  have hreach : Execution.Reachable Balance.step (Balance.configured b.loadBalancerAddrs) s.machines :=
    ⟨events,hevents⟩
  exact ⟨(Execution.run_invariant _ hinv hinit hrun).2,hreach,fun providedIp =>
    Balance.weightedLoad_unreachable (Balance.never_reachable hreach)⟩

theorem live_bridge_accounted : ∃ b log listening lb s,
    (ConfigBuilder.new.getOpts true none).getIniConfig .std .silent
      (fun _ => .ok Serving.proxyFile) = .ok (b,log) ∧
    Serving.startProxy = .ok ⟨.ok listening,lb⟩ ∧
    Execution.run (System.step listening noHello) (System.initial lb.machines) Serving.busy = some s ∧
    s.bridges = [⟨0,⟨loopback,1337⟩⟩] ∧
    (s.machines[loopback]?).map DestinationMachine.taskTracker = some 1 ∧
    Accounted b.loadBalancerAddrs s := by
  obtain ⟨b,log,hini,-,-⟩ := Serving.start_serving Serving.startProxy_provided
  refine ⟨b,log,_,_,_,hini,Serving.startProxy_provided,rfl,rfl,rfl,?_⟩
  exact loads_accounted hini Serving.startProxy_provided noHello _ ⟨Serving.busy,rfl⟩

end Server

end Loads

end RustyValve
