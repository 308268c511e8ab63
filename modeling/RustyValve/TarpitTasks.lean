import RustyValve.Library.Execution
import RustyValve.Services.SshTarpit

namespace RustyValve

open Execution

namespace Tarpit
variable {transcript : List (List UInt8)}

def InHand (transcript : List (List UInt8)) (t : Tarpit) : Prop :=
  match t.point with
  | .awaitsWritable line => Cyclic.item transcript t.line = some line
  | .awaitsWrite line => Cyclic.item transcript t.line = some line
  | .sleeping => True
  | .returned => True

theorem new_inHand (tcpStream : StreamId) (settings : SshTarpit.Settings) :
    (new tcpStream settings).InHand transcript := trivial

theorem wakes_inHand (t : Tarpit) : (t.wakes transcript).InHand transcript := by
  unfold wakes
  cases h : Cyclic.item transcript t.line with
  | none => trivial
  | some line => exact h

theorem step_inHand (t : Tarpit) (event : TarpitEvent) (u : Tarpit) (ht : t.InHand transcript)
    (h : t.step transcript event = some u) : u.InHand transcript := by
  cases step_moves transcript h with
  | wakes hp => exact t.wakes_inHand
  | writable line hp =>
    rw [InHand,hp] at ht
    exact ht
  | writableFails line hp => trivial
  | wrote line accepted hp hn => trivial
  | writeFails line hp => trivial

-- It makes no further call, and it gets to its end.
structure LetsGo (transcript : List (List UInt8)) (t : Tarpit) : Prop where
  silent : ∀ events u, run (step transcript) t events = some u → ∀ e ∈ events, ¬ e.IsCall
  ends : ∃ events u, run (step transcript) t events = some u ∧ u.point = .returned

theorem returned_letsGo {t : Tarpit} (h : t.point = .returned) : t.LetsGo transcript := by
  constructor
  case silent =>
    intro events u hu
    cases events with
    | nil => simp
    | cons e events =>
      simp only [run_cons,Option.bind_eq_some_iff] at hu
      obtain ⟨v,hv,-⟩ := hu
      cases step_moves transcript hv <;> simp_all
  case ends => exact ⟨[],t,rfl,h⟩

theorem sleeping_calls {t : Tarpit} (hne : transcript ≠ []) (h : t.point = .sleeping) :
    ¬ t.LetsGo transcript := by
  intro hl
  obtain ⟨line,hline⟩ :=
    Option.ne_none_iff_exists'.mp (mt (Cyclic.item_eq_none (i := t.line)).mp hne)
  have hcalls : run (step transcript) t [.wakes,.writable] =
      some { t with point := .awaitsWrite line } := by
    simp only [run_cons,step,h,wakes,hline,Option.bind_some,run_nil]
  exact hl.silent _ _ hcalls .writable (by simp) (by simp [TarpitEvent.IsCall])

theorem error_letsGo_iff {t u : Tarpit} {event : TarpitEvent} (ht : t.InHand transcript)
    (h : t.step transcript event = some u) (he : event.IsError) :
    u.LetsGo transcript ↔ event = .writableFails := by
  cases step_moves transcript h with
  | wakes hp => simp [TarpitEvent.IsError] at he
  | writable line hp => simp [TarpitEvent.IsError] at he
  | writableFails line hp => exact iff_of_true (returned_letsGo rfl) rfl
  | wrote line accepted hp hn => simp [TarpitEvent.IsError] at he
  | writeFails line hp =>
    rw [InHand,hp] at ht
    refine iff_of_false (sleeping_calls ?_ rfl) (by simp)
    intro hn
    rw [Cyclic.item_eq_none.mpr hn] at ht
    cases ht

def LetsGoOnError (transcript : List (List UInt8)) (t : Tarpit) (events : List TarpitEvent) : Prop :=
  ∀ pre e s, pre ++ [e] <+: events → e.IsError → run (step transcript) t (pre ++ [e]) = some s →
    s.LetsGo transcript

theorem dead_connection_let_go_iff (transcript : List (List UInt8)) (tcpStream : StreamId)
    (settings : SshTarpit.Settings) {events : List TarpitEvent} {t : Tarpit}
    (hrun : run (step transcript) (new tcpStream settings) events = some t) :
    LetsGoOnError transcript (new tcpStream settings) events ↔ .writeFails ∉ events := by
  constructor
  · intro h hm
    obtain ⟨pre,post,rfl⟩ := List.append_of_mem hm
    simp only [run_append,run_cons,Option.bind_eq_some_iff] at hrun
    obtain ⟨s,hs,u,hu,-⟩ := hrun
    have hg := h pre .writeFails u ⟨post,by simp⟩ (.inr rfl) (by simp [run_append,hs,hu])
    have hi := run_invariant (step transcript) step_inHand (new_inHand tcpStream settings) hs
    exact absurd ((error_letsGo_iff hi hu (.inr rfl)).mp hg) (by simp)
  · intro hn pre e s hp he hs
    simp only [run_append,run_cons,run_nil,Option.bind_eq_some_iff] at hs
    obtain ⟨u,hu,v,hv,hs⟩ := hs
    obtain rfl := Option.some.inj hs
    have hi := run_invariant (step transcript) step_inHand (new_inHand tcpStream settings) hu
    refine (error_letsGo_iff hi hv he).mpr (he.resolve_right ?_)
    rintro rfl
    exact hn (hp.subset (by simp))

theorem unwritable_let_go :
    LetsGoOnError transcriptOpening (new 0 ⟨1000,10⟩) [.wakes,.writableFails] :=
  (dead_connection_let_go_iff transcriptOpening 0 ⟨1000,10⟩ rfl).mpr (by decide)

theorem failed_write_calls_again :
    ∃ s, run (step transcriptOpening) (new 0 ⟨1000,10⟩) [.wakes,.writable,.writeFails] = some s ∧
      TarpitEvent.IsError .writeFails ∧ ¬ s.LetsGo transcriptOpening :=
  ⟨_,rfl,.inr rfl,sleeping_calls (by decide) rfl⟩

end Tarpit

namespace SshTarpit
variable (transcript : List (List UInt8))

theorem polled_length_le (s : SshTarpit) (task : ℕ) (t : Tarpit) :
    (s.polled task t).tarpits.length ≤ s.tarpits.length := by
  unfold polled
  split_ifs
  · exact List.length_eraseIdx_le _ _
  · exact List.length_set.le

-- Each task is in a state that a run of its own reaches.
def TasksRun (s : SshTarpit) : Prop := ∀ task ∈ s.tarpits, ∃ tcpStream,
  Reachable (Tarpit.step transcript) (.new tcpStream s.settings) task

theorem spawn_tasksRun {s : SshTarpit} (hs : s.TasksRun transcript) (tcpStream : StreamId) :
    (s.spawn tcpStream).TasksRun transcript := by
  intro task hm
  rcases List.mem_append.mp hm with hm | hm
  · exact hs task hm
  · rw [List.mem_singleton.mp hm]
    exact ⟨tcpStream,reachable_refl _ _⟩

theorem polled_tasksRun {s : SshTarpit} (hs : s.TasksRun transcript) {task : ℕ} {t u : Tarpit}
    {event : TarpitEvent} (ht : s.tarpits[task]? = some t) (hu : t.step transcript event = some u) :
    (s.polled task u).TasksRun transcript := by
  intro other hm
  unfold polled at hm
  dsimp only at hm
  split_ifs at hm
  · exact hs other (List.mem_of_mem_eraseIdx hm)
  · rcases List.mem_or_eq_of_mem_set hm with hm | rfl
    · exact hs other hm
    · obtain ⟨tcpStream,hr⟩ := hs t (List.mem_of_getElem? ht)
      exact ⟨tcpStream,reachable_step _ hr hu⟩

theorem step_tasksRun (s : SshTarpit) (a : Action) (t : SshTarpit) (hs : s.TasksRun transcript)
    (h : s.step transcript a = some t) : t.TasksRun transcript := by
  cases a with
  | receives conn =>
    simp only [step] at h
    split_ifs at h
    obtain rfl := Option.some.inj h
    unfold receives
    cases conn.inner with
    | tcp tcpStream => exact spawn_tasksRun transcript hs tcpStream
    | quic => exact hs
  | closes =>
    simp only [step] at h
    split_ifs at h
    obtain rfl := Option.some.inj h
    exact hs
  | tarpit task event =>
    simp only [step,Option.bind_eq_some_iff,Option.map_eq_some_iff] at h
    obtain ⟨t',ht,u,hu,rfl⟩ := h
    exact polled_tasksRun transcript hs ht hu

theorem tasks_run {config : SshTarpitConfig} {self s : SshTarpit} (hnew : new config = .ok self)
    (h : Reachable (step transcript) self s) : s.TasksRun transcript := by
  obtain rfl := Except.ok.inj hnew
  exact reachable_invariant _ (by simp [TasksRun]) (step_tasksRun transcript) h

theorem step_alive {s t : SshTarpit} {a : Action} (h : s.step transcript a = some t) :
    (t.tarpits.length = s.tarpits.length + 1 ∧
      ∃ conn tcpStream, a = .receives conn ∧ conn.inner = .tcp tcpStream) ∨
    (t.tarpits.length ≤ s.tarpits.length ∧
      ∀ conn tcpStream, a = .receives conn → conn.inner ≠ .tcp tcpStream) := by
  cases a with
  | receives conn =>
    simp only [step] at h
    split_ifs at h
    obtain rfl := Option.some.inj h
    cases hc : conn.inner with
    | tcp tcpStream => exact .inl ⟨by simp [receives,hc,spawn],conn,tcpStream,rfl,hc⟩
    | quic =>
      refine .inr ⟨by simp [receives,hc],?_⟩
      rintro conn' tcpStream he
      obtain rfl := Action.receives.inj he
      rw [hc]
      exact ConnectionInner.noConfusion
  | closes =>
    simp only [step] at h
    split_ifs at h
    obtain rfl := Option.some.inj h
    exact .inr ⟨le_rfl,by rintro _ _ ⟨⟩⟩
  | tarpit task event =>
    simp only [step,Option.bind_eq_some_iff,Option.map_eq_some_iff] at h
    obtain ⟨t',-,u,-,rfl⟩ := h
    exact .inr ⟨s.polled_length_le task u,by rintro _ _ ⟨⟩⟩

def Overfills (limit : ℕ) (s : SshTarpit) (a : Action) : Prop :=
  limit ≤ s.tarpits.length ∧ ∃ conn tcpStream, a = .receives conn ∧ conn.inner = .tcp tcpStream

theorem step_within_iff {limit : ℕ} (s : SshTarpit) (a : Action) (t : SshTarpit)
    (hs : s.tarpits.length ≤ limit) (h : s.step transcript a = some t) : t.tarpits.length ≤ limit ↔ ¬ s.Overfills limit a := by
  rcases step_alive transcript h with ⟨hlen,harrives⟩ | ⟨hlen,hstays⟩
  · rw [hlen,Overfills,not_and']
    exact ⟨fun hl _ => by omega,fun hn => by have := hn harrives; omega⟩
  · refine iff_of_true (hlen.trans hs) ?_
    rintro ⟨-,conn,tcpStream,ha,hc⟩
    exact hstays conn tcpStream ha hc

theorem tarpit_limit_iff {config : SshTarpitConfig} {self : SshTarpit} (hnew : new config = .ok self)
    {actions : List Action} {t : SshTarpit} (hrun : run (step transcript) self actions = some t) :
    Always (step transcript) (fun s => s.tarpits.length ≤ config.maxConnections.toNat) self actions ↔
      EachStep (step transcript) (fun s a => ¬ s.Overfills config.maxConnections.toNat a) self
        actions := by
  have hself : self.tarpits.length ≤ config.maxConnections.toNat := by
    obtain rfl := Except.ok.inj hnew
    exact Nat.zero_le _
  exact always_iff (I := fun _ => True) (step transcript) (fun _ _ _ _ _ => trivial)
    (fun s a t _ hs h => step_within_iff transcript s a t hs h) trivial hself hrun

def sshConn (tcpStream : StreamId) : ForwardedConnection :=
  .newTcpConn tcpStream ⟨.v4 0x7F000001#32,40000⟩ ⟨5⟩ (.internalService .sshTarpit)

def limitedTo (maxConnections : UInt64) : SshTarpit := ⟨⟨maxConnections,10⟩,true,[]⟩

theorem two_arrivals_within_limit : Always (step transcriptOpening) (fun s => s.tarpits.length ≤ 2)
    (limitedTo 2) [.receives (sshConn 0),.receives (sshConn 1)] := by
  refine (@tarpit_limit_iff transcriptOpening ⟨2,10⟩ _ rfl _ _ rfl).mpr ?_
  simp [eachStep_cons,eachStep_nil,Overfills,step,receives,sshConn,spawn,
    ForwardedConnection.newTcpConn]

theorem second_arrival_over_limit : new ⟨1,10⟩ = .ok (limitedTo 1) ∧
    ∃ s, run (step transcriptOpening) (limitedTo 1) [.receives (sshConn 0),.receives (sshConn 1)] = some s ∧
      ¬ s.tarpits.length ≤ (1 : UInt64).toNat :=
  ⟨rfl,_,rfl,by decide⟩

end SshTarpit

end RustyValve
