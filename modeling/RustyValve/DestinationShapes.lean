import RustyValve.Failover

namespace RustyValve

section Eligible

theorem eligible_of_covering {machines : Machines} {addrs : List IpAddr}
    (h : ∀ ip ∈ machines, ip ∈ addrs) : eligible (some addrs) machines = eligible none machines := by
  refine List.filter_eq_self.mpr (fun p hp => ?_)
  have hm : machines[p.1]? = some p.2 := Std.ExtTreeMap.mem_toList_iff_getElem?_eq_some.mp hp
  simpa using h p.1 (Std.ExtTreeMap.mem_iff_isSome_getElem?.mpr (by simp [hm]))

theorem eligible_congr {addrs addrs' : List IpAddr} (h : ∀ ip, ip ∈ addrs ↔ ip ∈ addrs')
    (machines : Machines) : eligible (some addrs) machines = eligible (some addrs') machines := by
  have hc (ip : IpAddr) : addrs.contains ip = addrs'.contains ip := by
    rw [Bool.eq_iff_iff,List.contains_iff_mem,List.contains_iff_mem]
    exact h ip
  simp only [eligible,hc]

theorem pickBestIp_singleton (sort : UnstableSort (IpAddr × DestinationMachine)) (ip : IpAddr)
    (machines : Machines) :
    pickBestIp sort (some [ip]) machines = (machines[ip]?.map (fun m => (ip,m))).toList := by
  have hp := pickBestIp_perm sort (some [ip]) machines
  have hn := (eligible_keys_nodup (some [ip]) machines).of_map
  cases hm : machines[ip]? with
  | none =>
    have he : eligible (some [ip]) machines = [] := by
      rw [List.eq_nil_iff_forall_not_mem]
      rintro ⟨ip',machine⟩ hx
      obtain ⟨hg,hi⟩ := mem_eligible.mp hx
      obtain rfl : ip' = ip := by simpa using hi [ip] rfl
      rw [hm] at hg
      cases hg
    rw [he] at hp
    exact hp.eq_nil
  | some machine =>
    have he : (eligible (some [ip]) machines).Perm [(ip,machine)] := by
      refine (List.perm_ext_iff_of_nodup hn (List.nodup_singleton _)).mpr ?_
      rintro ⟨ip',machine'⟩
      rw [mem_eligible]
      constructor
      · rintro ⟨hg,hi⟩
        obtain rfl : ip' = ip := by simpa using hi [ip] rfl
        rw [hm,Option.some.injEq] at hg
        simp [hg]
      · intro hx
        obtain ⟨rfl,rfl⟩ : ip' = ip ∧ machine' = machine := by simpa using hx
        exact ⟨hm,by simp⟩
    exact List.perm_singleton.mp (hp.trans he)

end Eligible

namespace Run

variable (outcome : SocketAddr → ConnectOutcome)

def Returned (point : Handling) : Prop := ∃ attempt left, point = .returned attempt left

-- What is still held when `handle_connection` returns is dropped.
structure ServedSame (r r' : Run) : Prop where
  attempts : r.attempts = r'.attempts
  bridges : r.bridges = r'.bridges
  dropped : r.point.heldByLoop = r'.point.heldByLoop
  returned : Returned r.point ∧ Returned r'.point

theorem ServedSame.rfl_of_returned {r : Run} (h : Returned r.point) : ServedSame r r :=
  ⟨rfl,rfl,rfl,h,h⟩

theorem iterate_of_returned {r : Run} {n : ℕ} (h : Returned ((next outcome)^[n] r).point) {k : ℕ}
    (hk : n ≤ k) : (next outcome)^[k] r = (next outcome)^[n] r := by
  obtain ⟨j,rfl⟩ := Nat.exists_eq_add_of_le' hk
  obtain ⟨attempt,left,hp⟩ := h
  rw [Function.iterate_add_apply]
  generalize (next outcome)^[n] r = s at hp ⊢
  obtain ⟨point,as,bs⟩ := s
  cases hp
  exact iterate_returned outcome attempt left as bs j

theorem next_connecting_cases (port : UInt16) (inner : ConnectionInner) (s : SocketAddr)
    (back : List (IpAddr × DestinationMachine)) (as : List SocketAddr) (bs : List Bridge) :
    (∃ bs', next outcome ⟨.connecting port inner s back,as,bs⟩ =
        ⟨.returned (some (.ok ())) none,as ++ [s],bs'⟩) ∨
      ∃ inner' bs', next outcome ⟨.connecting port inner s back,as,bs⟩ =
        ⟨.looping port (some inner') back,as ++ [s],bs'⟩ := by
  rcases hc : DestinationMachine.connect (outcome s) inner s with ⟨left,bridge⟩
  cases left with
  | none => exact .inl ⟨_,by simp [next,Handling.step,Handling.attempt,hc]; rfl⟩
  | some inner' => exact .inr ⟨inner',_,by simp [next,Handling.step,Handling.attempt,hc]; rfl⟩

theorem attempts_return (port : UInt16) (inner : ConnectionInner)
    (order : List (IpAddr × DestinationMachine)) (as : List SocketAddr) (bs : List Bridge) :
    Returned ((next outcome)^[2 * order.length + 1]
      ⟨attemptConnections inner port order.reverse,as,bs⟩).point := by
  induction order generalizing inner as bs with
  | nil => exact ⟨_,_,rfl⟩
  | cons p rest ih =>
    obtain ⟨ip,machine⟩ := p
    have hn : 2 * ((ip,machine) :: rest).length + 1 = (2 * rest.length + 1) + 1 + 1 := by
      simp only [List.length_cons]
      omega
    rw [hn,Function.iterate_succ_apply,Function.iterate_succ_apply,List.reverse_cons,
      attemptConnections,next_looping_concat]
    rcases next_connecting_cases outcome port inner ⟨ip,port⟩ rest.reverse as bs with
      ⟨bs',h⟩ | ⟨inner',bs',h⟩
    · rw [h,iterate_returned]
      exact ⟨_,_,rfl⟩
    · rw [h]
      exact ih inner' _ bs'

variable (sort : UnstableSort (IpAddr × DestinationMachine)) (machines : Machines)
  (conn : ForwardedConnection)

def toward (d : Destination) : ForwardedConnection := { conn with destination := d }

theorem handled_overMachines_returned (port : UInt16) (providedIp : Option (List IpAddr)) {k : ℕ}
    (hk : 2 * machines.size + 1 ≤ k) :
    Returned (handled sort machines outcome
      (toward conn (Destination.overMachines port providedIp)) k).point := by
  have hl := pickBestIp_length_le sort providedIp machines
  have hr := attempts_return outcome port conn.inner (pickBestIp sort providedIp machines) [] []
  rw [handled,start,handleConnection_overMachines sort machines port providedIp _ rfl]
  change Returned ((next outcome)^[k] ⟨attemptConnections conn.inner port _,[],[]⟩).point
  rw [iterate_of_returned outcome hr (by omega)]
  exact hr

theorem handled_congr {port : UInt16} {providedIp providedIp' : Option (List IpAddr)}
    (h : eligible providedIp machines = eligible providedIp' machines) (k : ℕ) :
    handled sort machines outcome (toward conn (Destination.overMachines port providedIp)) k =
      handled sort machines outcome (toward conn (Destination.overMachines port providedIp')) k := by
  rw [handled,handled,handleConnection_overMachines sort machines port providedIp _ rfl,
    handleConnection_overMachines sort machines port providedIp' _ rfl,pickBestIp,pickBestIp,h]
  rfl

theorem served_same_of_eligible (port : UInt16) {providedIp providedIp' : Option (List IpAddr)}
    (h : eligible providedIp machines = eligible providedIp' machines) {k : ℕ}
    (hk : 2 * machines.size + 1 ≤ k) :
    ServedSame (handled sort machines outcome (toward conn (Destination.overMachines port providedIp)) k)
      (handled sort machines outcome (toward conn (Destination.overMachines port providedIp')) k) := by
  rw [handled_congr outcome sort machines conn h]
  exact .rfl_of_returned (handled_overMachines_returned outcome sort machines conn port providedIp' hk)

section Single
variable (ip : IpAddr) (port : UInt16)

def connected : Option ConnectionInner × Option Bridge :=
  DestinationMachine.connect (outcome ⟨ip,port⟩) conn.inner ⟨ip,port⟩

theorem handled_socket_unknown (h : machines[ip]? = none) (k : ℕ) :
    handled sort machines outcome (toward conn (.socket ⟨ip,port⟩)) k =
      ⟨.returned none (some conn.inner),[],[]⟩ := by
  have hd : handleConnection sort (toward conn (.socket ⟨ip,port⟩)) machines =
      .returned none (some conn.inner) := by
    simp [handleConnection,dispatch,toward,h]
  rw [handled,hd,start,iterate_returned]

theorem handled_socket (h : machines[ip]? ≠ none) {k : ℕ} (hk : 1 ≤ k) :
    handled sort machines outcome (toward conn (.socket ⟨ip,port⟩)) k =
      ⟨.returned none (connected outcome conn ip port).1,[⟨ip,port⟩],
        (connected outcome conn ip port).2.toList⟩ := by
  obtain ⟨machine,hm⟩ := Option.ne_none_iff_exists'.mp h
  have hd : handleConnection sort (toward conn (.socket ⟨ip,port⟩)) machines =
      .connectingOnly conn.inner ⟨ip,port⟩ := by
    simp [handleConnection,dispatch,toward,hm]
  have h1 : (next outcome)^[1] (start (.connectingOnly conn.inner ⟨ip,port⟩)) =
      ⟨.returned none (connected outcome conn ip port).1,[⟨ip,port⟩],
        (connected outcome conn ip port).2.toList⟩ := by
    simp [next,start,Handling.step,Handling.attempt,connected]
  rw [handled,hd,iterate_of_returned outcome (n := 1) (by rw [h1]; exact ⟨_,_,rfl⟩) hk,h1]

theorem handled_only_unknown (h : machines[ip]? = none) {k : ℕ} (hk : 1 ≤ k) :
    handled sort machines outcome (toward conn (.portAndAddrs port [ip])) k =
      ⟨.returned (some ranOut) (some conn.inner),[],[]⟩ := by
  have hd : handleConnection sort (toward conn (.portAndAddrs port [ip])) machines =
      .looping port (some conn.inner) [] := by
    rw [handleConnection_overMachines sort machines port (some [ip]) _ rfl,pickBestIp_singleton,h]
    rfl
  have h1 : (next outcome)^[1] (start (.looping port (some conn.inner) [])) =
      ⟨.returned (some ranOut) (some conn.inner),[],[]⟩ := rfl
  rw [handled,hd,iterate_of_returned outcome (n := 1) (by rw [h1]; exact ⟨_,_,rfl⟩) hk,h1]

theorem handled_only (h : machines[ip]? ≠ none) {k : ℕ} (hk : 3 ≤ k) :
    ∃ attempt, handled sort machines outcome (toward conn (.portAndAddrs port [ip])) k =
      ⟨.returned attempt (connected outcome conn ip port).1,[⟨ip,port⟩],
        (connected outcome conn ip port).2.toList⟩ := by
  obtain ⟨machine,hm⟩ := Option.ne_none_iff_exists'.mp h
  have hd : handleConnection sort (toward conn (.portAndAddrs port [ip])) machines =
      .looping port (some conn.inner) ([] ++ [(ip,machine)]) := by
    rw [handleConnection_overMachines sort machines port (some [ip]) _ rfl,pickBestIp_singleton,hm]
    rfl
  have h3 : ∃ attempt, (next outcome)^[3] (start (.looping port (some conn.inner) ([] ++ [(ip,machine)]))) =
      ⟨.returned attempt (connected outcome conn ip port).1,[⟨ip,port⟩],
        (connected outcome conn ip port).2.toList⟩ := by
    rw [start,Function.iterate_succ_apply,next_looping_concat,connected]
    rcases hc : DestinationMachine.connect (outcome ⟨ip,port⟩) conn.inner ⟨ip,port⟩ with ⟨left,bridge⟩
    cases left with
    | none => exact ⟨some (.ok ()),by simp [next,Handling.step,Handling.attempt,hc]⟩
    | some inner => exact ⟨some ranOut,by simp [next,Handling.step,Handling.attempt,hc,ranOut]⟩
  obtain ⟨attempt,h3⟩ := h3
  refine ⟨attempt,?_⟩
  rw [handled,hd,iterate_of_returned outcome (n := 3) (by rw [h3]; exact ⟨_,_,rfl⟩) hk,h3]

theorem served_same_single {k : ℕ} (hk : 2 * machines.size + 1 ≤ k) :
    ServedSame (handled sort machines outcome (toward conn (.socket ⟨ip,port⟩)) k)
      (handled sort machines outcome (toward conn (.portAndAddrs port [ip])) k) := by
  by_cases h : machines[ip]? = none
  · rw [handled_socket_unknown outcome sort machines conn ip port h,
      handled_only_unknown outcome sort machines conn ip port h (by omega)]
    exact ⟨rfl,rfl,rfl,⟨_,_,rfl⟩,⟨_,_,rfl⟩⟩
  · have hn : machines.size ≠ 0 := fun h0 => h (by
      rw [Std.ExtTreeMap.eq_empty_iff_size_eq_zero.mpr h0]
      simp)
    obtain ⟨attempt,ha⟩ := handled_only outcome sort machines conn ip port h (k := k) (by omega)
    rw [handled_socket outcome sort machines conn ip port h (by omega),ha]
    exact ⟨rfl,rfl,rfl,⟨_,_,rfl⟩,⟨_,_,rfl⟩⟩

end Single

theorem same_meaning_served_same (port : UInt16) {k : ℕ} (hk : 2 * machines.size + 1 ≤ k) :
    (∀ ip, ServedSame (handled sort machines outcome (toward conn (.socket ⟨ip,port⟩)) k)
      (handled sort machines outcome (toward conn (.portAndAddrs port [ip])) k)) ∧
    (∀ addrs : List IpAddr, (∀ ip ∈ machines, ip ∈ addrs) →
      ServedSame (handled sort machines outcome (toward conn (.portOnly port)) k)
        (handled sort machines outcome (toward conn (.portAndAddrs port addrs)) k)) ∧
    ∀ addrs addrs' : List IpAddr, (∀ ip, ip ∈ addrs ↔ ip ∈ addrs') →
      ServedSame (handled sort machines outcome (toward conn (.portAndAddrs port addrs)) k)
        (handled sort machines outcome (toward conn (.portAndAddrs port addrs')) k) := by
  refine ⟨fun ip => served_same_single outcome sort machines conn ip port hk,
    fun addrs h => ?_,fun addrs addrs' h => ?_⟩
  · have he := (eligible_of_covering h).symm
    exact served_same_of_eligible outcome sort machines conn port he hk
  · have he := eligible_congr h machines
    exact served_same_of_eligible outcome sort machines conn port he hk

def loopbackClient : ForwardedConnection :=
  .newTcpConn 0 ⟨.v4 0x0A000001#32,40000⟩ ⟨5⟩ (.portOnly 80)

def loopbackAddrs : List IpAddr := [.v4 0x7F000002#32,.v4 0x7F000001#32,.v4 0x7F000002#32]

theorem loopback_shapes_served_same :
    ServedSame
        (handled .stable loopbackMachines onlySecondAccepts
          (toward loopbackClient (.socket ⟨.v4 0x7F000002#32,80⟩)) 5)
        (handled .stable loopbackMachines onlySecondAccepts
          (toward loopbackClient (.portAndAddrs 80 [.v4 0x7F000002#32])) 5) ∧
      ServedSame
        (handled .stable loopbackMachines onlySecondAccepts (toward loopbackClient (.portOnly 80)) 5)
        (handled .stable loopbackMachines onlySecondAccepts
          (toward loopbackClient (.portAndAddrs 80 loopbackAddrs)) 5) ∧
      ServedSame
        (handled .stable loopbackMachines onlySecondAccepts
          (toward loopbackClient (.portAndAddrs 80 loopbackAddrs)) 5)
        (handled .stable loopbackMachines onlySecondAccepts
          (toward loopbackClient (.portAndAddrs 80 loopbackAddrs.tail)) 5) := by
  have h := same_meaning_served_same onlySecondAccepts .stable loopbackMachines loopbackClient 80
    (k := 5) (by decide)
  refine ⟨h.1 _,h.2.1 _ (fun ip hm => ?_),h.2.2 _ _ (by simp [loopbackAddrs,or_comm])⟩
  simp only [loopbackMachines,Std.ExtTreeMap.mem_insert,Std.LawfulEqOrd.compare_eq_iff_eq] at hm
  rcases hm with rfl | rfl | hm
  · simp [loopbackAddrs]
  · simp [loopbackAddrs]
  · simp at hm

end Run

end RustyValve
