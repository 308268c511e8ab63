import RustyValve.Failover
import RustyValve.Library.Execution

namespace RustyValve

namespace Balance

inductive MachineEvent where
  | bridgeStarted (ip : IpAddr)
  | bridgeEnded (ip : IpAddr)
  | addConn (ip : IpAddr)
  | subConn (ip : IpAddr)
deriving DecidableEq, Repr

def step (machines : Machines) : MachineEvent → Option Machines
  | .bridgeStarted ip =>
    if ip ∈ machines then some (machines.modify ip DestinationMachine.trackerSpawn) else none
  | .bridgeEnded ip =>
    match machines[ip]? with
    | none => none
    | some machine =>
      if 0 < machine.taskTracker then some (machines.modify ip DestinationMachine.trackerExit)
      else none
  | .addConn ip => some (machines.modify ip DestinationMachine.addConn)
  | .subConn ip => some (machines.modify ip DestinationMachine.subConn)

def configured (addresses : List IpAddr) : Machines :=
  addresses.foldl (fun machines ip => machines.insert ip (.new 1)) ∅

theorem new_machines (config : LoadBalancerConfig) :
    LoadBalancer.new config = .ok ⟨configured config.addresses⟩ := rfl

def Unreachable (machines : Machines) : Prop :=
  ∀ (ip : IpAddr) (machine : DestinationMachine), machines[ip]? = some machine →
    machine.reachable = false

theorem unreachable_insert {machines : Machines} (h : Unreachable machines) (ip : IpAddr) :
    Unreachable (machines.insert ip (.new 1)) := by
  intro ip' machine hm
  rw [Std.ExtTreeMap.getElem?_insert] at hm
  split at hm
  · rw [← Option.some.inj hm]
    rfl
  · exact h ip' machine hm

theorem unreachable_configured (addresses : List IpAddr) : Unreachable (configured addresses) := by
  have fold : ∀ (ips : List IpAddr) (machines : Machines), Unreachable machines →
      Unreachable (ips.foldl (fun machines ip => machines.insert ip (.new 1)) machines) := by
    intro ips
    induction ips with
    | nil => exact fun _ h => h
    | cons ip ips ih => exact fun machines h => ih _ (unreachable_insert h ip)
  exact fold addresses ∅ (by intro ip machine h; simp at h)

theorem unreachable_modify {machines : Machines} (h : Unreachable machines) (ip : IpAddr)
    {f : DestinationMachine → DestinationMachine} (hf : ∀ m, (f m).reachable = m.reachable) :
    Unreachable (machines.modify ip f) := by
  intro ip' machine hm
  rw [Std.ExtTreeMap.getElem?_modify] at hm
  split at hm
  · simp only [Option.map_eq_some_iff] at hm
    obtain ⟨m,hm,rfl⟩ := hm
    rw [hf]
    exact h ip m hm
  · exact h ip' machine hm

theorem unreachable_step (machines : Machines) (event : MachineEvent) (machines' : Machines)
    (h : Unreachable machines) (hs : step machines event = some machines') :
    Unreachable machines' := by
  cases event with
  | bridgeStarted ip =>
    simp only [step,Option.ite_none_right_eq_some,Option.some.injEq] at hs
    obtain ⟨-,rfl⟩ := hs
    exact unreachable_modify h ip (fun _ => rfl)
  | bridgeEnded ip =>
    simp only [step] at hs
    split at hs
    · cases hs
    · simp only [Option.ite_none_right_eq_some,Option.some.injEq] at hs
      obtain ⟨-,rfl⟩ := hs
      exact unreachable_modify h ip (fun _ => rfl)
  | addConn ip =>
    simp only [step,Option.some.injEq] at hs
    subst hs
    exact unreachable_modify h ip (fun _ => rfl)
  | subConn ip =>
    simp only [step,Option.some.injEq] at hs
    subst hs
    exact unreachable_modify h ip (fun _ => rfl)

theorem never_reachable {addresses : List IpAddr} {machines : Machines}
    (h : Execution.Reachable step (configured addresses) machines) : Unreachable machines :=
  Execution.reachable_invariant step (unreachable_configured addresses) unreachable_step h

theorem weightedLoad_unreachable {providedIp : Option (List IpAddr)} {machines : Machines}
    (h : Unreachable machines) :
    ∀ p ∈ eligible providedIp machines, p.2.weightedLoad = usizeMax := by
  intro p hp
  have hr := h p.1 p.2 (mem_eligible.mp hp).1
  simp [DestinationMachine.weightedLoad,DestinationMachine.available,hr]

def liveBridges (machines : Machines) (ip : IpAddr) : ℕ :=
  (machines[ip]?.map DestinationMachine.taskTracker).getD 0

theorem liveBridges_eligible {providedIp : Option (List IpAddr)} {machines : Machines}
    {p : IpAddr × DestinationMachine} (hp : p ∈ eligible providedIp machines) :
    liveBridges machines p.1 = p.2.taskTracker := by
  simp [liveBridges,(mem_eligible.mp hp).1]

def firstTried (sort : UnstableSort (IpAddr × DestinationMachine)) (machines : Machines)
    (outcome : SocketAddr → ConnectOutcome) (conn : ForwardedConnection) : Option SocketAddr :=
  (Run.handled sort machines outcome conn (2 * machines.size + 1)).attempts.head?

def LeastLoadedFirst (sort : UnstableSort (IpAddr × DestinationMachine)) (machines : Machines)
    (providedIp : Option (List IpAddr)) : Prop :=
  ∀ outcome port stream remote settings first,
    firstTried sort machines outcome
      (.newTcpConn stream remote settings (Destination.overMachines port providedIp)) = some first →
    ∀ p ∈ eligible providedIp machines, liveBridges machines first.ip ≤ p.2.taskTracker

theorem firstTried_eq (sort : UnstableSort (IpAddr × DestinationMachine)) (machines : Machines)
    (outcome : SocketAddr → ConnectOutcome) (port : UInt16) (providedIp : Option (List IpAddr))
    (stream : StreamId) (remote : SocketAddr) (settings : ConnectionSettings) :
    firstTried sort machines outcome
        (.newTcpConn stream remote settings (Destination.overMachines port providedIp)) =
      (pickBestIp sort providedIp machines).head?.map (fun p => ⟨p.1,port⟩) := by
  rw [firstTried,Run.handled_final sort machines outcome port providedIp stream remote settings _ le_rfl,
    FirstSuccess.head?_tries,Run.sockets,List.head?_map]

-- Which of the eligible machines the sort leaves first when it finds them all equal.
def leader (sort : UnstableSort (IpAddr × DestinationMachine)) (providedIp : Option (List IpAddr))
    (machines : Machines) : Option (IpAddr × DestinationMachine) :=
  (sort.run (fun _ => usizeMax) (eligible providedIp machines)).head?

theorem pickBestIp_head (sort : UnstableSort (IpAddr × DestinationMachine))
    (providedIp : Option (List IpAddr)) {machines : Machines} (h : Unreachable machines) :
    (pickBestIp sort providedIp machines).head? = leader sort providedIp machines := by
  rw [pickBestIp,leader,sort.congr _ (fun _ => usizeMax) _ (weightedLoad_unreachable h)]

theorem leastLoadedFirst_iff_leader (sort : UnstableSort (IpAddr × DestinationMachine))
    (providedIp : Option (List IpAddr)) {machines : Machines} (h : Unreachable machines) :
    LeastLoadedFirst sort machines providedIp ↔
      ∀ l ∈ leader sort providedIp machines, ∀ p ∈ eligible providedIp machines,
        l.2.taskTracker ≤ p.2.taskTracker := by
  have hl {l : IpAddr × DestinationMachine} (hl : l ∈ leader sort providedIp machines) :
      l ∈ eligible providedIp machines :=
    (sort.mem_run _).mp (List.mem_of_head? hl)
  constructor
  · intro hc l hm p hp
    have hf : (pickBestIp sort providedIp machines).head? = some l := by
      rw [pickBestIp_head sort providedIp h]
      exact hm
    have ht := hc (fun _ => .refused) 0 0 ⟨.v4 0,0⟩ ⟨0⟩ ⟨l.1,0⟩ (by rw [firstTried_eq,hf]; rfl) p hp
    rwa [liveBridges_eligible (hl hm)] at ht
  · intro hc outcome port stream remote settings first hf p hp
    rw [firstTried_eq,pickBestIp_head sort providedIp h,Option.map_eq_some_iff] at hf
    obtain ⟨l,hm,rfl⟩ := hf
    rw [liveBridges_eligible (hl hm)]
    exact hc l hm p hp

theorem leader_favouring {providedIp : Option (List IpAddr)} {machines : Machines}
    {p : IpAddr × DestinationMachine} (hp : p ∈ eligible providedIp machines) :
    leader (UnstableSort.favouring p) providedIp machines = some p :=
  UnstableSort.favouring_head p _ hp (fun _ _ => rfl)

theorem least_loaded_first_iff {addresses : List IpAddr} {machines : Machines}
    (h : Execution.Reachable step (configured addresses) machines)
    (providedIp : Option (List IpAddr)) :
    (∀ sort, LeastLoadedFirst sort machines providedIp ↔
      ∀ l ∈ leader sort providedIp machines, ∀ p ∈ eligible providedIp machines,
        l.2.taskTracker ≤ p.2.taskTracker) ∧
    ((∀ sort, LeastLoadedFirst sort machines providedIp) ↔
      ∀ p ∈ eligible providedIp machines, ∀ q ∈ eligible providedIp machines,
        p.2.taskTracker = q.2.taskTracker) := by
  have hu := never_reachable h
  refine ⟨fun sort => leastLoadedFirst_iff_leader sort providedIp hu,?_,?_⟩
  · intro hc p hp q hq
    have hpq := (leastLoadedFirst_iff_leader _ providedIp hu).mp (hc (.favouring p)) p
      (leader_favouring hp) q hq
    have hqp := (leastLoadedFirst_iff_leader _ providedIp hu).mp (hc (.favouring q)) q
      (leader_favouring hq) p hp
    exact Nat.le_antisymm hpq hqp
  · intro hc sort
    rw [leastLoadedFirst_iff_leader sort providedIp hu]
    intro l hl p hp
    exact (hc l ((sort.mem_run _).mp (List.mem_of_head? hl)) p hp).le

def loopbacks : List IpAddr := [.v4 0x7F000001#32,.v4 0x7F000002#32]

def busyFirst : Machines := (configured loopbacks).modify (.v4 0x7F000001#32) .trackerSpawn

theorem busyFirst_reachable : Execution.Reachable step (configured loopbacks) busyFirst :=
  ⟨[.bridgeStarted (.v4 0x7F000001#32)],by decide⟩

theorem busyFirst_tried_first :
    Execution.Reachable step (configured loopbacks) busyFirst ∧
      ¬ LeastLoadedFirst UnstableSort.stable busyFirst none := by
  refine ⟨busyFirst_reachable,?_⟩
  rw [leastLoadedFirst_iff_leader _ _ (never_reachable busyFirst_reachable)]
  decide

def bothBusy : Machines := busyFirst.modify (.v4 0x7F000002#32) .trackerSpawn

theorem bothBusy_reachable : Execution.Reachable step (configured loopbacks) bothBusy :=
  ⟨[.bridgeStarted (.v4 0x7F000001#32),.bridgeStarted (.v4 0x7F000002#32)],by decide⟩

theorem equal_bridges_least_loaded_first :
    liveBridges bothBusy (.v4 0x7F000001#32) = 1 ∧ liveBridges bothBusy (.v4 0x7F000002#32) = 1 ∧
      LeastLoadedFirst UnstableSort.stable bothBusy none :=
  ⟨by decide,by decide,
    (least_loaded_first_iff bothBusy_reachable none).2.mpr (by decide) UnstableSort.stable⟩

end Balance

end RustyValve
