import RustyValve.Services.LoadBalancer
import Mathlib.Logic.Function.Iterate

namespace RustyValve

structure Run where
  point : Handling
  attempts : List SocketAddr
  bridges : List Bridge

namespace Run

def start (point : Handling) : Run := ⟨point,[],[]⟩

def next (outcome : SocketAddr → ConnectOutcome) (r : Run) : Run :=
  ⟨(r.point.step outcome).1,r.attempts ++ r.point.attempt.toList,
    r.bridges ++ (r.point.step outcome).2.toList⟩

def holders (r : Run) : List ConnectionInner :=
  r.point.heldByLoop ++ r.point.heldByConnect ++ r.bridges.map (fun b => .tcp b.stream)

def ranOut : Except Error Unit := .error (.anyhow "ran out of available connections".toList)

def accepts (outcome : SocketAddr → ConnectOutcome) (socketAddr : SocketAddr) : Bool :=
  outcome socketAddr == .accepted

@[simp] theorem accepts_iff {outcome : SocketAddr → ConnectOutcome} {s : SocketAddr} :
    accepts outcome s = true ↔ outcome s = .accepted := by simp [accepts]

def sockets (port : UInt16) (order : List (IpAddr × DestinationMachine)) : List SocketAddr :=
  order.map (fun p => ⟨p.1,port⟩)

variable (outcome : SocketAddr → ConnectOutcome)

theorem iterate_returned (attempt : Option (Except Error Unit)) (left : Option ConnectionInner)
    (as : List SocketAddr) (bs : List Bridge) (k : ℕ) :
    (next outcome)^[k] ⟨.returned attempt left,as,bs⟩ = ⟨.returned attempt left,as,bs⟩ := by
  apply Function.iterate_fixed
  simp [next,Handling.step,Handling.attempt]

theorem next_looping_concat (port : UInt16) (inner : ConnectionInner) (ip : IpAddr)
    (machine : DestinationMachine) (back : List (IpAddr × DestinationMachine))
    (as : List SocketAddr) (bs : List Bridge) :
    next outcome ⟨.looping port (some inner) (back ++ [(ip,machine)]),as,bs⟩ =
      ⟨.connecting port inner ⟨ip,port⟩ back,as,bs⟩ := by
  simp [next,Handling.step,Handling.attempt]

theorem next_connecting_accepted {s : SocketAddr} (h : outcome s = .accepted) (port : UInt16)
    (stream : StreamId) (back : List (IpAddr × DestinationMachine)) (as : List SocketAddr)
    (bs : List Bridge) :
    next outcome ⟨.connecting port (.tcp stream) s back,as,bs⟩ =
      ⟨.returned (some (.ok ())) none,as ++ [s],bs ++ [⟨stream,s⟩]⟩ := by
  simp [next,Handling.step,Handling.attempt,DestinationMachine.connect,h]

theorem next_connecting_failed {s : SocketAddr} (h : outcome s ≠ .accepted) (port : UInt16)
    (stream : StreamId) (back : List (IpAddr × DestinationMachine)) (as : List SocketAddr)
    (bs : List Bridge) :
    next outcome ⟨.connecting port (.tcp stream) s back,as,bs⟩ =
      ⟨.looping port (some (.tcp stream)) back,as ++ [s],bs⟩ := by
  cases ho : outcome s with
  | accepted => exact absurd ho h
  | refused => simp [next,Handling.step,Handling.attempt,DestinationMachine.connect,ho]
  | timedOut => simp [next,Handling.step,Handling.attempt,DestinationMachine.connect,ho]

def ending (stream : StreamId) : Option SocketAddr → Handling
  | some _ => .returned (some (.ok ())) none
  | none => .returned (some ranOut) (some (.tcp stream))

theorem attempts_run (port : UInt16) (stream : StreamId)
    (order : List (IpAddr × DestinationMachine)) (as : List SocketAddr) :
    (next outcome)^[2 * order.length + 1] ⟨attemptConnections (.tcp stream) port order.reverse,as,[]⟩ =
      ⟨ending stream ((sockets port order).find? (accepts outcome)),
        as ++ FirstSuccess.tries (accepts outcome) (sockets port order),
        (((sockets port order).find? (accepts outcome)).map (Bridge.mk stream)).toList⟩ := by
  induction order generalizing as with
  | nil => simp [attemptConnections,next,Handling.step,Handling.attempt,sockets,FirstSuccess.tries,ending,ranOut]
  | cons p rest ih =>
    obtain ⟨ip,machine⟩ := p
    have hn : 2 * ((ip,machine) :: rest).length + 1 = (2 * rest.length + 1) + 1 + 1 := by
      simp only [List.length_cons]
      omega
    rw [hn,Function.iterate_succ_apply,Function.iterate_succ_apply,List.reverse_cons,
      attemptConnections,next_looping_concat]
    by_cases h : outcome ⟨ip,port⟩ = .accepted
    · rw [next_connecting_accepted outcome h,iterate_returned]
      simp [sockets,FirstSuccess.tries,h,ending]
    · rw [next_connecting_failed outcome h]
      have ht := ih (as ++ [⟨ip,port⟩])
      rw [attemptConnections] at ht
      rw [ht]
      simp [sockets,FirstSuccess.tries,h]

end Run

section Eligible

theorem machines_keys_nodup (machines : Machines) : (machines.toList.map Prod.fst).Nodup := by
  rw [List.nodup_iff_pairwise_ne,List.pairwise_map]
  apply machines.distinct_keys_toList.imp
  intro a b h he
  exact h (by rw [he]; exact Std.ReflCmp.compare_self)

theorem eligible_sublist (providedIp : Option (List IpAddr)) (machines : Machines) :
    (eligible providedIp machines).Sublist machines.toList := by
  cases providedIp with
  | none => exact List.Sublist.refl _
  | some ips => exact List.filter_sublist

theorem eligible_keys_nodup (providedIp : Option (List IpAddr)) (machines : Machines) :
    ((eligible providedIp machines).map Prod.fst).Nodup :=
  (machines_keys_nodup machines).sublist ((eligible_sublist providedIp machines).map _)

theorem mem_eligible {providedIp : Option (List IpAddr)} {machines : Machines} {ip : IpAddr}
    {machine : DestinationMachine} :
    (ip,machine) ∈ eligible providedIp machines ↔
      machines[ip]? = some machine ∧ ∀ ips, providedIp = some ips → ip ∈ ips := by
  cases providedIp with
  | none => simp [eligible,Std.ExtTreeMap.mem_toList_iff_getElem?_eq_some]
  | some ips => simp [eligible,Std.ExtTreeMap.mem_toList_iff_getElem?_eq_some]

-- Every machine for a port alone, those of the list for a port with addresses.
def MayTry (machines : Machines) (providedIp : Option (List IpAddr)) (ip : IpAddr) : Prop :=
  (∃ machine, machines[ip]? = some machine) ∧ ∀ ips, providedIp = some ips → ip ∈ ips

theorem order_keys {providedIp : Option (List IpAddr)} {machines : Machines}
    {order : List (IpAddr × DestinationMachine)} (h : order.Perm (eligible providedIp machines))
    {ip : IpAddr} : ip ∈ order.map Prod.fst ↔ MayTry machines providedIp ip := by
  rw [(h.map Prod.fst).mem_iff,List.mem_map]
  constructor
  · rintro ⟨⟨_,machine⟩,hp,rfl⟩
    obtain ⟨hm,hips⟩ := mem_eligible.mp hp
    exact ⟨⟨machine,hm⟩,hips⟩
  · rintro ⟨⟨machine,hm⟩,hips⟩
    exact ⟨(ip,machine),mem_eligible.mpr ⟨hm,hips⟩,rfl⟩

theorem eligible_length_le (providedIp : Option (List IpAddr)) (machines : Machines) :
    (eligible providedIp machines).length ≤ machines.size := by
  rw [← Std.ExtTreeMap.length_toList]
  exact (eligible_sublist providedIp machines).length_le

theorem pickBestIp_perm (sort : UnstableSort (IpAddr × DestinationMachine))
    (providedIp : Option (List IpAddr)) (machines : Machines) :
    (pickBestIp sort providedIp machines).Perm (eligible providedIp machines) := sort.perm _ _

theorem pickBestIp_length_le (sort : UnstableSort (IpAddr × DestinationMachine))
    (providedIp : Option (List IpAddr)) (machines : Machines) :
    (pickBestIp sort providedIp machines).length ≤ machines.size :=
  (pickBestIp_perm sort providedIp machines).length_eq ▸ eligible_length_le providedIp machines

end Eligible

def Destination.overMachines (port : UInt16) : Option (List IpAddr) → Destination
  | none => .portOnly port
  | some addrs => .portAndAddrs port addrs

theorem handleConnection_overMachines (sort : UnstableSort (IpAddr × DestinationMachine))
    (machines : Machines) (port : UInt16) (providedIp : Option (List IpAddr))
    (conn : ForwardedConnection) (h : conn.destination = Destination.overMachines port providedIp) :
    handleConnection sort conn machines =
      attemptConnections conn.inner port (pickBestIp sort providedIp machines).reverse := by
  cases providedIp <;> simp [handleConnection,dispatch,h,Destination.overMachines]

namespace Run

def handled (sort : UnstableSort (IpAddr × DestinationMachine)) (machines : Machines)
    (outcome : SocketAddr → ConnectOutcome) (conn : ForwardedConnection) (k : ℕ) : Run :=
  (next outcome)^[k] (start (handleConnection sort conn machines))

variable (sort : UnstableSort (IpAddr × DestinationMachine)) (machines : Machines)
  (outcome : SocketAddr → ConnectOutcome) (port : UInt16) (providedIp : Option (List IpAddr))
  (stream : StreamId) (remote : SocketAddr) (settings : ConnectionSettings)

theorem handled_final (k : ℕ) (hk : 2 * machines.size + 1 ≤ k) :
    handled sort machines outcome
        (.newTcpConn stream remote settings (Destination.overMachines port providedIp)) k =
      ⟨ending stream ((sockets port (pickBestIp sort providedIp machines)).find? (accepts outcome)),
        FirstSuccess.tries (accepts outcome) (sockets port (pickBestIp sort providedIp machines)),
        (((sockets port (pickBestIp sort providedIp machines)).find? (accepts outcome)).map
          (Bridge.mk stream)).toList⟩ := by
  have hl := pickBestIp_length_le sort providedIp machines
  obtain ⟨j,rfl⟩ := Nat.exists_eq_add_of_le
    (show 2 * (pickBestIp sort providedIp machines).length + 1 ≤ k by omega)
  rw [handled,handleConnection_overMachines sort machines port providedIp _ rfl,Nat.add_comm,
    Function.iterate_add_apply,start]
  simp only [ForwardedConnection.newTcpConn]
  rw [attempts_run outcome port stream]
  cases hf : (sockets port (pickBestIp sort providedIp machines)).find? (accepts outcome) with
  | none => simp only [ending,iterate_returned,List.nil_append]
  | some s => simp only [ending,iterate_returned,List.nil_append]

theorem mem_sockets {s : SocketAddr} {order : List (IpAddr × DestinationMachine)} :
    s ∈ sockets port order ↔ s.port = port ∧ s.ip ∈ order.map Prod.fst := by
  simp only [sockets,List.mem_map]
  constructor
  · rintro ⟨p,hp,rfl⟩
    exact ⟨rfl,p,hp,rfl⟩
  · rintro ⟨rfl,p,hp,hi⟩
    exact ⟨p,hp,by rw [hi]⟩

theorem sockets_nodup {machines : Machines} {providedIp : Option (List IpAddr)}
    {order : List (IpAddr × DestinationMachine)} (h : order.Perm (eligible providedIp machines)) :
    (sockets port order).Nodup := by
  have hk : (order.map Prod.fst).Nodup :=
    (h.map Prod.fst).nodup_iff.mpr (eligible_keys_nodup providedIp machines)
  have hs : sockets port order = (order.map Prod.fst).map (fun ip => (⟨ip,port⟩ : SocketAddr)) := by
    simp [sockets]
  rw [hs]
  exact hk.map (fun a b h => congrArg SocketAddr.ip h)

def loadOf (machines : Machines) (ip : IpAddr) : ℕ :=
  (machines[ip]?.map DestinationMachine.weightedLoad).getD usizeMax

theorem sockets_sorted : (sockets port (pickBestIp sort providedIp machines)).Pairwise
    (fun a b => loadOf machines a.ip ≤ loadOf machines b.ip) := by
  have hl {p : IpAddr × DestinationMachine} (hp : p ∈ pickBestIp sort providedIp machines) :
      loadOf machines p.1 = p.2.weightedLoad := by
    have he := (mem_eligible.mp ((pickBestIp_perm sort providedIp machines).mem_iff.mp hp)).1
    simp [loadOf,he]
  rw [sockets,List.pairwise_map]
  refine List.Pairwise.imp_of_mem ?_
    (sort.sorted (fun p => p.2.weightedLoad) (eligible providedIp machines))
  intro a b ha hb h
  rw [hl ha,hl hb]
  exact h

structure Failover (r : Run) : Prop where
  tried_eligible : ∀ s ∈ r.attempts, s.port = port ∧ MayTry machines providedIp s.ip
  tried_once : r.attempts.Nodup
  tried_in_order : r.attempts.Pairwise (fun a b => loadOf machines a.ip ≤ loadOf machines b.ip)
  stops_at_success : ∀ pre s post, r.attempts = pre ++ s :: post → outcome s = .accepted → post = []
  bridged_iff : r.bridges ≠ [] ↔ ∃ ip, MayTry machines providedIp ip ∧ outcome ⟨ip,port⟩ = .accepted
  bridged_last : ∀ b ∈ r.bridges, r.bridges = [b] ∧ b.stream = stream ∧
    outcome b.backend = .accepted ∧ r.attempts.getLast? = some b.backend ∧
    r.point = .returned (some (.ok ())) none
  exhausted : (∀ ip, MayTry machines providedIp ip → outcome ⟨ip,port⟩ ≠ .accepted) →
    (∀ ip, MayTry machines providedIp ip → r.attempts.count ⟨ip,port⟩ = 1) ∧
    r.point = .returned (some ranOut) (some (.tcp stream))

theorem failover_final (k : ℕ) (hk : 2 * machines.size + 1 ≤ k) :
    Failover machines outcome port providedIp stream
      (handled sort machines outcome
        (.newTcpConn stream remote settings (Destination.overMachines port providedIp)) k) := by
  rw [handled_final sort machines outcome port providedIp stream remote settings k hk]
  have hmem {s : SocketAddr} : s ∈ sockets port (pickBestIp sort providedIp machines) ↔
      s.port = port ∧ MayTry machines providedIp s.ip := by
    rw [mem_sockets,order_keys (pickBestIp_perm sort providedIp machines)]
  have hpre := FirstSuccess.tries_prefix (accepts outcome)
    (sockets port (pickBestIp sort providedIp machines))
  have hnodup := sockets_nodup port (pickBestIp_perm sort providedIp machines)
  have hfind : ((sockets port (pickBestIp sort providedIp machines)).find? (accepts outcome)).isSome ↔
      ∃ ip, MayTry machines providedIp ip ∧ outcome ⟨ip,port⟩ = .accepted := by
    simp only [List.find?_isSome,accepts_iff]
    constructor
    · rintro ⟨⟨ip,_⟩,hs,ha⟩
      obtain ⟨rfl,hip⟩ := hmem.mp hs
      exact ⟨ip,hip,ha⟩
    · rintro ⟨ip,hip,ha⟩
      exact ⟨⟨ip,port⟩,hmem.mpr ⟨rfl,hip⟩,ha⟩
  constructor
  case tried_eligible => exact fun s hs => hmem.mp (hpre.subset hs)
  case tried_once => exact hnodup.sublist hpre.sublist
  case tried_in_order => exact (sockets_sorted sort machines port providedIp).sublist hpre.sublist
  case stops_at_success =>
    intro pre s post h hs
    exact FirstSuccess.nothing_after_success (accepts outcome) h (accepts_iff.mpr hs)
  case bridged_iff =>
    rw [← hfind]
    cases (sockets port (pickBestIp sort providedIp machines)).find? (accepts outcome) <;> simp
  case bridged_last =>
    intro b hb
    cases hf : (sockets port (pickBestIp sort providedIp machines)).find? (accepts outcome) with
    | none => simp [hf] at hb
    | some s =>
      obtain rfl : b = ⟨stream,s⟩ := by simpa [hf] using hb
      have ha : accepts outcome s = true := List.find?_some hf
      exact ⟨rfl,rfl,accepts_iff.mp ha,FirstSuccess.getLast?_tries (accepts outcome) hf,rfl⟩
  case exhausted =>
    intro hno
    have hnone : ∀ s ∈ sockets port (pickBestIp sort providedIp machines), ¬ accepts outcome s := by
      rintro ⟨ip,_⟩ hs
      obtain ⟨rfl,hip⟩ := hmem.mp hs
      simpa using hno ip hip
    have hf := List.find?_eq_none.mpr hnone
    dsimp only
    rw [hf,FirstSuccess.tries_of_none (accepts outcome) hnone]
    exact ⟨fun ip hip => List.count_eq_one_of_mem hnodup (hmem.mpr ⟨rfl,hip⟩),rfl⟩

def bruhReturn : Option (Except Error Unit) := some (.error (.anyhow "bruh".toList))

-- Holds of `attempt_connections` at every step: the stream is in one place, and the loop is never
-- entered with an empty Option.
def HeldOnce (inner : ConnectionInner) (r : Run) : Prop :=
  r.holders = [inner] ∧ (∀ left, r.point ≠ .returned bruhReturn left) ∧
    ∀ port opt back, r.point = .looping port opt back → opt = some inner

def pointHolders (point : Handling) : List ConnectionInner :=
  point.heldByLoop ++ point.heldByConnect

@[simp] theorem pointHolders_looping (port : UInt16) (opt : Option ConnectionInner)
    (back : List (IpAddr × DestinationMachine)) :
    pointHolders (.looping port opt back) = opt.toList := List.append_nil _

@[simp] theorem pointHolders_connecting (port : UInt16) (inner : ConnectionInner) (s : SocketAddr)
    (back : List (IpAddr × DestinationMachine)) :
    pointHolders (.connecting port inner s back) = [inner] := rfl

@[simp] theorem pointHolders_connectingOnly (inner : ConnectionInner) (s : SocketAddr) :
    pointHolders (.connectingOnly inner s) = [inner] := rfl

@[simp] theorem pointHolders_returned (attempt : Option (Except Error Unit))
    (left : Option ConnectionInner) :
    pointHolders (.returned attempt left) = left.toList := List.append_nil _

def bridgeHolders (bs : List Bridge) : List ConnectionInner := bs.map (fun b => .tcp b.stream)

def connectHolders : Option ConnectionInner × Option Bridge → List ConnectionInner
  | (left,bridge) => left.toList ++ bridgeHolders bridge.toList

theorem connect_holders (result : ConnectOutcome) (inner : ConnectionInner) (s : SocketAddr) :
    connectHolders (DestinationMachine.connect result inner s) = [inner] := by
  cases inner with
  | quic => rfl
  | tcp stream => cases result <;> rfl

-- A step loses nothing that is held and duplicates nothing.
theorem step_holders (point : Handling) :
    pointHolders (point.step outcome).1 ++ bridgeHolders (point.step outcome).2.toList =
      pointHolders point := by
  cases point with
  | looping port opt back =>
    cases hg : back.getLast? with
    | none => simp [Handling.step,hg,bridgeHolders]
    | some backend => cases opt <;> simp [Handling.step,hg,bridgeHolders]
  | connecting port inner s back =>
    have h := connect_holders (outcome s) inner s
    rcases hc : DestinationMachine.connect (outcome s) inner s with ⟨left,bridge⟩
    rw [hc] at h
    cases left <;> simpa [Handling.step,hc,connectHolders] using h
  | connectingOnly inner s =>
    have h := connect_holders (outcome s) inner s
    rcases hc : DestinationMachine.connect (outcome s) inner s with ⟨left,bridge⟩
    rw [hc] at h
    simpa [Handling.step,hc,connectHolders] using h
  | returned attempt left => simp [Handling.step,bridgeHolders]

theorem holders_next (r : Run) : (next outcome r).holders.Perm r.holders := by
  have h := step_holders outcome r.point
  change (pointHolders (r.point.step outcome).1 ++
    List.map _ (r.bridges ++ (r.point.step outcome).2.toList)).Perm
      (pointHolders r.point ++ bridgeHolders r.bridges)
  rw [← h,List.map_append,List.append_assoc]
  exact List.perm_append_comm.append_left _

theorem step_looping {point : Handling} {port : UInt16} {opt : Option ConnectionInner}
    {back : List (IpAddr × DestinationMachine)}
    (h : (point.step outcome).1 = .looping port opt back) : opt.isSome := by
  cases point with
  | looping _ opt' back' =>
    cases hg : back'.getLast? <;> cases opt' <;> simp [Handling.step,hg] at h
  | connecting _ inner s _ =>
    rcases hc : DestinationMachine.connect (outcome s) inner s with ⟨left,bridge⟩
    cases left with
    | none => simp [Handling.step,hc] at h
    | some inner' =>
      simp only [Handling.step,hc,Handling.looping.injEq] at h
      rw [← h.2.1]
      rfl
  | connectingOnly inner s => simp [Handling.step] at h
  | returned attempt left => simp [Handling.step] at h

theorem step_not_bruh {point : Handling} (hp : ∀ left, point ≠ .returned bruhReturn left)
    (hl : ∀ port opt back, point = .looping port opt back → opt.isSome)
    (left : Option ConnectionInner) : (point.step outcome).1 ≠ .returned bruhReturn left := by
  cases point with
  | looping port opt back =>
    obtain ⟨inner,rfl⟩ := Option.isSome_iff_exists.mp (hl port opt back rfl)
    cases hg : back.getLast? with
    | none =>
      simp only [Handling.step,hg,ne_eq,Handling.returned.injEq,not_and]
      exact fun he => absurd he (by decide)
    | some backend => simp [Handling.step,hg]
  | connecting port inner s back =>
    rcases hc : DestinationMachine.connect (outcome s) inner s with ⟨left',bridge⟩
    cases left' <;> simp [Handling.step,hc,bruhReturn]
  | connectingOnly inner s => simp [Handling.step,bruhReturn]
  | returned attempt left' => exact hp left

theorem heldOnce_next {inner : ConnectionInner} {r : Run} (h : HeldOnce inner r) :
    HeldOnce inner (next outcome r) := by
  obtain ⟨hh,hb,hl⟩ := h
  have hn : (next outcome r).holders = [inner] :=
    List.perm_singleton.mp (hh ▸ holders_next outcome r)
  refine ⟨hn,?_,fun port opt back he => ?_⟩
  · exact step_not_bruh outcome hb (fun port opt back he => by rw [hl port opt back he]; rfl)
  · obtain ⟨inner',rfl⟩ := Option.isSome_iff_exists.mp (step_looping outcome he)
    rw [holders,he] at hn
    obtain ⟨rfl,-⟩ := List.cons.inj hn
    rfl

theorem heldOnce_start (conn : ForwardedConnection) :
    HeldOnce conn.inner (start (handleConnection sort conn machines)) := by
  unfold handleConnection dispatch
  split
  · simp [HeldOnce,start,holders,attemptConnections,Handling.heldByLoop,Handling.heldByConnect]
  · split <;> simp [HeldOnce,start,holders,Handling.heldByLoop,Handling.heldByConnect,bruhReturn]
  · simp [HeldOnce,start,holders,attemptConnections,Handling.heldByLoop,Handling.heldByConnect]
  · simp [HeldOnce,start,holders,Handling.heldByLoop,Handling.heldByConnect,bruhReturn]

theorem heldOnce_handled (conn : ForwardedConnection) (k : ℕ) :
    HeldOnce conn.inner (handled sort machines outcome conn k) := by
  induction k with
  | zero => exact heldOnce_start sort machines conn
  | succ k ih =>
    rw [handled,Function.iterate_succ_apply']
    exact heldOnce_next outcome ih

theorem quic_never_bridged (conn : ForwardedConnection) (h : conn.inner = .quic) (k : ℕ) :
    (handled sort machines outcome conn k).bridges = [] := by
  have hh := (heldOnce_handled sort machines outcome conn k).1
  rw [h,holders] at hh
  cases hb : (handled sort machines outcome conn k).bridges with
  | nil => rfl
  | cons b bs =>
    have hm : ConnectionInner.tcp b.stream ∈ [ConnectionInner.quic] := by
      rw [← hh,hb]
      simp
    simp at hm

theorem one_at_a_time (conn : ForwardedConnection) (k : ℕ) :
    (handled sort machines outcome conn (k + 1)).attempts =
      (handled sort machines outcome conn k).attempts ++
        (handled sort machines outcome conn k).point.attempt.toList := by
  rw [handled,handled,Function.iterate_succ_apply']
  rfl

theorem failover_complete_and_ordered :
    (∀ k, 2 * machines.size + 1 ≤ k →
      Failover machines outcome port providedIp stream
        (handled sort machines outcome
          (.newTcpConn stream remote settings (Destination.overMachines port providedIp)) k)) ∧
    (∀ k, HeldOnce (.tcp stream) (handled sort machines outcome
        (.newTcpConn stream remote settings (Destination.overMachines port providedIp)) k)) ∧
    (∀ k, (handled sort machines outcome
        (.newTcpConn stream remote settings (Destination.overMachines port providedIp)) (k + 1)).attempts =
      (handled sort machines outcome
        (.newTcpConn stream remote settings (Destination.overMachines port providedIp)) k).attempts ++
      (handled sort machines outcome
        (.newTcpConn stream remote settings (Destination.overMachines port providedIp)) k).point.attempt.toList) ∧
    ∀ quic : ForwardedConnection, quic.inner = .quic → ∀ k,
      (handled sort machines outcome quic k).bridges = [] :=
  ⟨failover_final sort machines outcome port providedIp stream remote settings,
    heldOnce_handled sort machines outcome
      (.newTcpConn stream remote settings (Destination.overMachines port providedIp)),
    one_at_a_time sort machines outcome
      (.newTcpConn stream remote settings (Destination.overMachines port providedIp)),
    quic_never_bridged sort machines outcome⟩

def loopbackMachines : Machines :=
  ((∅ : Machines).insert (.v4 0x7F000001#32) (.new 1)).insert (.v4 0x7F000002#32) (.new 1)

def onlySecondAccepts (s : SocketAddr) : ConnectOutcome :=
  if s.ip = .v4 0x7F000002#32 then .accepted else .refused

-- One machine is not in the list of the connection, the other refuses it or takes it.
def threeMachines : Machines := loopbackMachines.insert (.v4 0x7F000003#32) (.new 1)

theorem failover_reaches_listed_machine :
    (handled UnstableSort.stable loopbackMachines onlySecondAccepts
        (.newTcpConn 0 ⟨.v4 0x0A000001#32,40000⟩ ⟨5⟩ (Destination.overMachines 80 none)) 5).bridges ≠ [] ∧
    (handled UnstableSort.stable threeMachines onlySecondAccepts
      (.newTcpConn 0 ⟨.v4 0x0A000001#32,40000⟩ ⟨5⟩ (Destination.overMachines 80
        (some [.v4 0x7F000003#32,.v4 0x7F000002#32]))) 7).bridges ≠ [] ∧
    ∀ s ∈ (handled UnstableSort.stable threeMachines onlySecondAccepts
      (.newTcpConn 0 ⟨.v4 0x0A000001#32,40000⟩ ⟨5⟩ (Destination.overMachines 80
        (some [.v4 0x7F000003#32,.v4 0x7F000002#32]))) 7).attempts, s.ip ≠ .v4 0x7F000001#32 := by
  have hany := (failover_complete_and_ordered UnstableSort.stable loopbackMachines onlySecondAccepts
    80 none 0 ⟨.v4 0x0A000001#32,40000⟩ ⟨5⟩).1 5 (by decide)
  have hlisted := (failover_complete_and_ordered UnstableSort.stable threeMachines onlySecondAccepts
    80 (some [.v4 0x7F000003#32,.v4 0x7F000002#32]) 0 ⟨.v4 0x0A000001#32,40000⟩ ⟨5⟩).1 7 (by decide)
  refine ⟨hany.bridged_iff.mpr ⟨.v4 0x7F000002#32,⟨⟨.new 1,by decide⟩,by simp⟩,by decide⟩,
    hlisted.bridged_iff.mpr ⟨.v4 0x7F000002#32,⟨⟨.new 1,by decide⟩,by simp⟩,by decide⟩,?_⟩
  intro s hs he
  have hl := (hlisted.tried_eligible s hs).2.2 _ rfl
  rw [he] at hl
  exact absurd hl (by decide)

end Run

end RustyValve
