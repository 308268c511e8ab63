import RustyValve.Connection
import RustyValve.Library.Execution

namespace RustyValve

-- A task that has returned keeps its entry until it is joined.
structure JoinSet (Task : Type) where
  entries : List Task
deriving DecidableEq, Repr

namespace JoinSet
variable {Task : Type}

def new : JoinSet Task := ⟨[]⟩

def spawn (task : Task) (self : JoinSet Task) : JoinSet Task := ⟨self.entries ++ [task]⟩

def len (self : JoinSet Task) : ℕ := self.entries.length

end JoinSet

-- The loop of `listen_tls` while it awaits the next connection. An inspection task is known by its
-- stream; `finishedBefore` records which had returned when the previous connection was accepted.
structure ListenTls where
  handlerSet : JoinSet StreamId
  accepted : List StreamId
  running : List StreamId
  finishedBefore : List StreamId
deriving DecidableEq, Repr

namespace ListenTls

open Execution

inductive Action where
  | accepts (tcpStream : StreamId)
  | acceptFails
  | finishes (tcpStream : StreamId)
deriving DecidableEq, Repr

def initial : ListenTls := ⟨.new,[],[],[]⟩

def finished (s : ListenTls) : List StreamId := s.accepted.filter (· ∉ s.running)

def aliveSince (s : ListenTls) : List StreamId := s.accepted.filter (· ∉ s.finishedBefore)

def spawn (tcpStream : StreamId) (s : ListenTls) : ListenTls where
  handlerSet := s.handlerSet.spawn tcpStream
  accepted := s.accepted ++ [tcpStream]
  running := s.running ++ [tcpStream]
  finishedBefore := s.finished

def finish (tcpStream : StreamId) (s : ListenTls) : ListenTls :=
  { s with running := s.running.erase tcpStream }

def step (s : ListenTls) : Action → Option ListenTls
  | .accepts tcpStream => if tcpStream ∈ s.accepted then none else some (s.spawn tcpStream)
  | .acceptFails => some s
  | .finishes tcpStream => if tcpStream ∈ s.running then some (s.finish tcpStream) else none

-- Nothing takes an entry out of the set.
def NothingJoined (s : ListenTls) : Prop := s.handlerSet.entries = s.accepted

theorem initial_nothingJoined : initial.NothingJoined := rfl

structure KeepsNoFinished (s : ListenTls) : Prop where
  joined : ∀ tcpStream ∈ s.handlerSet.entries, tcpStream ∉ s.finishedBefore
  bounded : s.handlerSet.len ≤ s.aliveSince.length

theorem step_accepts {s t : ListenTls} {tcpStream : StreamId} :
    s.step (.accepts tcpStream) = some t ↔ tcpStream ∉ s.accepted ∧ t = s.spawn tcpStream := by
  rw [step,Option.ite_none_left_eq_some,Option.some.injEq,eq_comm]

theorem step_finishes {s t : ListenTls} {tcpStream : StreamId} :
    s.step (.finishes tcpStream) = some t ↔ tcpStream ∈ s.running ∧ t = s.finish tcpStream := by
  rw [step,Option.ite_none_right_eq_some,Option.some.injEq,eq_comm]

theorem step_nothingJoined (s : ListenTls) (a : Action) (t : ListenTls) (hs : s.NothingJoined)
    (h : s.step a = some t) : t.NothingJoined := by
  cases a with
  | accepts tcpStream =>
    obtain ⟨-,rfl⟩ := step_accepts.mp h
    rw [NothingJoined,spawn,JoinSet.spawn,hs]
  | acceptFails =>
    obtain rfl := Option.some.inj h
    exact hs
  | finishes tcpStream =>
    obtain ⟨-,rfl⟩ := step_finishes.mp h
    exact hs

theorem keepsNoFinished_iff {s : ListenTls} (hs : s.NothingJoined)
    (hsub : s.finishedBefore ⊆ s.accepted) : s.KeepsNoFinished ↔ s.finishedBefore = [] := by
  constructor
  · intro h
    apply List.eq_nil_iff_forall_not_mem.mpr
    intro tcpStream hm
    refine h.joined tcpStream ?_ hm
    rw [hs]
    exact hsub hm
  · intro h
    constructor
    case joined => simp [h]
    case bounded =>
      have he : s.handlerSet.entries = s.accepted := hs
      simp [JoinSet.len,he,aliveSince,h]

theorem finished_subset (s : ListenTls) : s.finished ⊆ s.accepted := List.filter_subset_self _

-- A connection is accepted after a task has finished.
def Overtakes (s : ListenTls) (a : Action) : Prop := ∃ tcpStream, a = .accepts tcpStream ∧ s.finished ≠ []

theorem step_keepsNoFinished_iff (s : ListenTls) (a : Action) (t : ListenTls) (hi : s.NothingJoined)
    (hs : s.KeepsNoFinished) (h : s.step a = some t) : t.KeepsNoFinished ↔ ¬ s.Overtakes a := by
  cases a with
  | accepts tcpStream =>
    have ht := step_nothingJoined s _ t hi h
    obtain ⟨-,rfl⟩ := step_accepts.mp h
    rw [keepsNoFinished_iff ht (fun x hx => List.mem_append_left _ (s.finished_subset hx)),spawn]
    simp [Overtakes]
  | acceptFails =>
    obtain rfl := Option.some.inj h
    exact iff_of_true hs (by simp [Overtakes])
  | finishes tcpStream =>
    obtain ⟨-,rfl⟩ := step_finishes.mp h
    exact iff_of_true ⟨hs.joined,hs.bounded⟩ (by simp [Overtakes])

theorem initial_keepsNoFinished : initial.KeepsNoFinished :=
  ⟨by simp [initial,JoinSet.new],le_rfl⟩

theorem handler_set_clean_iff {actions : List Action} {t : ListenTls}
    (hrun : run step initial actions = some t) :
    Always step KeepsNoFinished initial actions ↔
      EachStep step (fun s a => ¬ s.Overtakes a) initial actions :=
  always_iff step step_nothingJoined step_keepsNoFinished_iff initial_nothingJoined
    initial_keepsNoFinished hrun

theorem two_running_clean :
    Always step KeepsNoFinished initial [.accepts 0,.acceptFails,.accepts 1,.finishes 0] := by
  refine (handler_set_clean_iff rfl).mpr ?_
  simp [eachStep_cons,eachStep_nil,Overtakes,step,spawn,finished,initial]

theorem finished_entry_kept : ∃ s, run step initial [.accepts 0,.finishes 0,.accepts 1] = some s ∧
    s.handlerSet.entries = [0,1] ∧ s.finishedBefore = [0] ∧ ¬ s.KeepsNoFinished := by
  refine ⟨_,rfl,rfl,rfl,fun h => ?_⟩
  exact absurd (List.mem_singleton.mpr rfl) (h.joined 0 (by decide))

end ListenTls

end RustyValve
