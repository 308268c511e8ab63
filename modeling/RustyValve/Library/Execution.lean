import Mathlib.Data.List.Basic
import Mathlib.Data.List.Induction
import Mathlib.Logic.Relation
import Mathlib.Order.Basic

namespace Execution

variable {S A : Type} (step : S → A → Option S)

def run (s : S) (as : List A) : Option S := as.foldlM step s

@[simp] theorem run_nil (s : S) : run step s [] = some s := rfl

@[simp] theorem run_cons (s : S) (a : A) (as : List A) :
    run step s (a :: as) = (step s a).bind (fun t => run step t as) := rfl

theorem run_append (s : S) (as bs : List A) :
    run step s (as ++ bs) = (run step s as).bind (fun t => run step t bs) := by
  simp [run,List.foldlM_append]

def Reachable (init s : S) : Prop := ∃ as, run step init as = some s

theorem reachable_refl (init : S) : Reachable step init init := ⟨[],rfl⟩

theorem reachable_step {init s t : S} {a : A} (h : Reachable step init s) (ht : step s a = some t) :
    Reachable step init t := by
  obtain ⟨as,has⟩ := h
  exact ⟨as ++ [a],by rw [run_append,has,Option.bind_some,run_cons,ht,Option.bind_some,run_nil]⟩

theorem run_invariant {P : S → Prop} (hstep : ∀ s a t, P s → step s a = some t → P t)
    {s t : S} {as : List A} (hs : P s) (ht : run step s as = some t) : P t := by
  induction as generalizing s with
  | nil => exact Option.some.inj ht ▸ hs
  | cons a as ih =>
    simp only [run_cons,Option.bind_eq_some_iff] at ht
    obtain ⟨u,hu,hr⟩ := ht
    exact ih (hstep s a u hs hu) hr

-- In every state that a run passes through, and at every step that it takes.
def Always (P : S → Prop) (s : S) (as : List A) : Prop :=
  ∀ pre u, pre <+: as → run step s pre = some u → P u

def EachStep (Q : S → A → Prop) (s : S) (as : List A) : Prop :=
  ∀ pre a post u, as = pre ++ a :: post → run step s pre = some u → Q u a

theorem eachStep_nil (Q : S → A → Prop) (s : S) : EachStep step Q s [] := by
  rintro pre a post u h
  exact absurd h.symm (List.append_ne_nil_of_right_ne_nil _ (List.cons_ne_nil _ _))

theorem eachStep_cons {Q : S → A → Prop} {s : S} {a : A} {as : List A} :
    EachStep step Q s (a :: as) ↔ Q s a ∧ ∀ t, step s a = some t → EachStep step Q t as := by
  constructor
  · intro h
    refine ⟨h [] a as s rfl rfl,?_⟩
    rintro t ht pre b post u rfl hu
    exact h (a :: pre) b post u rfl (by rw [run_cons,ht,Option.bind_some,hu])
  · rintro ⟨hq,hrest⟩ pre b post u h hu
    cases pre with
    | nil =>
      obtain ⟨rfl,-⟩ := List.cons.inj h
      obtain rfl := Option.some.inj hu
      exact hq
    | cons c pre =>
      obtain ⟨rfl,has⟩ := List.cons.inj h
      rw [run_cons,Option.bind_eq_some_iff] at hu
      obtain ⟨t,ht,hu⟩ := hu
      exact hrest t ht pre b post u has hu

theorem eachStep_append {Q : S → A → Prop} {s : S} {as bs : List A} :
    EachStep step Q s (as ++ bs) ↔
      EachStep step Q s as ∧ ∀ t, run step s as = some t → EachStep step Q t bs := by
  induction as generalizing s with
  | nil => simp [eachStep_nil]
  | cons a as ih =>
    simp only [List.cons_append,eachStep_cons,ih,run_cons,Option.bind_eq_some_iff]
    constructor
    · rintro ⟨hq,hrest⟩
      refine ⟨⟨hq,fun t ht => (hrest t ht).1⟩,?_⟩
      rintro u ⟨t,ht,hu⟩
      exact (hrest t ht).2 u hu
    · rintro ⟨⟨hq,has⟩,hbs⟩
      exact ⟨hq,fun t ht => ⟨has t ht,fun u hu => hbs u ⟨t,ht,hu⟩⟩⟩

-- When what a step must meet to keep a property is known, so is what a run must meet to keep it.
theorem always_iff {I P : S → Prop} {Q : S → A → Prop}
    (hinv : ∀ s a t, I s → step s a = some t → I t)
    (hstep : ∀ s a t, I s → P s → step s a = some t → (P t ↔ Q s a))
    {s t : S} {as : List A} (hi : I s) (hs : P s) (ht : run step s as = some t) :
    Always step P s as ↔ EachStep step Q s as := by
  constructor
  · rintro h pre a post u rfl hu
    simp only [run_append,hu,Option.bind_some,run_cons,Option.bind_eq_some_iff] at ht
    obtain ⟨v,hv,-⟩ := ht
    refine (hstep u a v (run_invariant step hinv hi hu) (h pre u (List.prefix_append _ _) hu) hv).mp
      (h (pre ++ [a]) v ?_ ?_)
    · exact ⟨post,by simp⟩
    · simp [run_append,hu,hv]
  · intro h pre
    induction pre using List.reverseRecOn with
    | nil =>
      intro u _ hu
      exact Option.some.inj hu ▸ hs
    | append_singleton pre a ih =>
      rintro u ⟨post,rfl⟩ hu
      simp only [run_append,Option.bind_eq_some_iff,run_cons,run_nil] at hu
      obtain ⟨v,hv,w,hw,hu⟩ := hu
      obtain rfl := Option.some.inj hu
      have hp := ih v ⟨a :: post,by simp⟩ hv
      exact (hstep v a w (run_invariant step hinv hi hv) hp hw).mpr (h pre a post v (by simp) hv)

-- A property that a run loses is lost in one of its steps.
theorem run_crosses {P : S → Prop} {s t : S} {as : List A} (hs : P s) (ht : ¬ P t)
    (h : run step s as = some t) :
    ∃ pre a post u v, as = pre ++ a :: post ∧ run step s pre = some u ∧ step u a = some v ∧
      run step v post = some t ∧ P u ∧ ¬ P v := by
  induction as generalizing s with
  | nil =>
    obtain rfl := Option.some.inj h
    exact absurd hs ht
  | cons a as ih =>
    simp only [run_cons,Option.bind_eq_some_iff] at h
    obtain ⟨v,hv,hr⟩ := h
    by_cases hp : P v
    · obtain ⟨pre,b,post,u,w,rfl,hu,hw,hpost,hpu,hpw⟩ := ih hp hr
      exact ⟨a :: pre,b,post,u,w,rfl,by rw [run_cons,hv,Option.bind_some,hu],hw,hpost,hpu,hpw⟩
    · exact ⟨[],a,as,s,v,rfl,rfl,hv,hr,hs,hp⟩

section Recorded
variable {H : Type} (record : S → A → H → H)

-- What is written down along a run.
def recorded : S → List A → H → H
  | _,[],h => h
  | s,a :: as,h =>
    match step s a with
    | none => h
    | some t => recorded t as (record s a h)

theorem run_recorded {P : S → H → Prop}
    (hstep : ∀ s h a t, P s h → step s a = some t → P t (record s a h)) {s t : S} {h : H} {as : List A}
    (hs : P s h) (ht : run step s as = some t) : P t (recorded step record s as h) := by
  induction as generalizing s h with
  | nil =>
    obtain rfl := Option.some.inj ht
    exact hs
  | cons a as ih =>
    simp only [run_cons,Option.bind_eq_some_iff] at ht
    obtain ⟨u,hu,hr⟩ := ht
    rw [recorded,hu]
    exact ih (hstep s h a u hs hu) hr

end Recorded

-- Steps that each use up some of a measure.
theorem run_length_le {I : S → Prop} {Q : S → A → Prop} {measure : S → ℕ}
    (hinv : ∀ s a t, I s → step s a = some t → I t)
    (hless : ∀ s a t, I s → Q s a → step s a = some t → measure t < measure s)
    {s t : S} {as : List A} (hi : I s) (hq : EachStep step Q s as) (h : run step s as = some t) :
    as.length + measure t ≤ measure s := by
  induction as generalizing s with
  | nil =>
    obtain rfl := Option.some.inj h
    exact Nat.le_of_eq (Nat.zero_add _)
  | cons a as ih =>
    simp only [run_cons,Option.bind_eq_some_iff] at h
    obtain ⟨u,hu,hr⟩ := h
    obtain ⟨hqa,hqs⟩ := (eachStep_cons step).mp hq
    have hm := ih (hinv s a u hi hu) (hqs u hu) hr
    have hl := hless s a u hi hqa hu
    rw [List.length_cons]
    omega

section Reaches
variable (Q : S → A → Prop)

def Reaches (s t : S) : Prop := ∃ as, EachStep step Q s as ∧ run step s as = some t

theorem reaches_refl (s : S) : Reaches step Q s s := ⟨[],eachStep_nil step Q s,rfl⟩

variable {step Q}

theorem reaches_step {s t : S} {a : A} (hq : Q s a) (h : step s a = some t) : Reaches step Q s t :=
  ⟨[a],(eachStep_cons step).mpr ⟨hq,fun u _ => eachStep_nil step Q u⟩,by
    rw [run_cons,h,Option.bind_some,run_nil]⟩

theorem reaches_trans {s t u : S} (hst : Reaches step Q s t) (htu : Reaches step Q t u) :
    Reaches step Q s u := by
  obtain ⟨as,hqa,ha⟩ := hst
  obtain ⟨bs,hqb,hb⟩ := htu
  refine ⟨as ++ bs,(eachStep_append step).mpr ⟨hqa,fun v hv => ?_⟩,?_⟩
  · obtain rfl := Option.some.inj (ha.symm.trans hv)
    exact hqb
  · rw [run_append,ha,Option.bind_some,hb]

theorem Reaches.reachable {init s t : S} (hs : Reachable step init s) (h : Reaches step Q s t) :
    Reachable step init t := by
  obtain ⟨as,has⟩ := hs
  obtain ⟨bs,-,hbs⟩ := h
  exact ⟨as ++ bs,by rw [run_append,has,Option.bind_some,hbs]⟩

theorem Reaches.invariant {P : S → Prop} (hstep : ∀ s a t, Q s a → P s → step s a = some t → P t)
    {s t : S} (hs : P s) (h : Reaches step Q s t) : P t := by
  obtain ⟨as,hqs,ht⟩ := h
  induction as generalizing s with
  | nil => exact Option.some.inj ht ▸ hs
  | cons a as ih =>
    simp only [run_cons,Option.bind_eq_some_iff] at ht
    obtain ⟨u,hu,hr⟩ := ht
    obtain ⟨hqa,hqas⟩ := (eachStep_cons step).mp hqs
    exact ih (hstep s a u hqa hs hu) (hqas u hu) hr

-- Steps that use up some of a measure can be taken until none is left to take.
theorem reaches_exhausted {I : S → Prop} {measure : S → ℕ}
    (hinv : ∀ s a t, I s → step s a = some t → I t)
    (hless : ∀ s a t, I s → Q s a → step s a = some t → measure t < measure s) {s : S} (hi : I s) :
    ∃ t, Reaches step Q s t ∧ ∀ a u, Q t a → step t a ≠ some u := by
  induction hm : measure s using Nat.strongRecOn generalizing s with
  | _ m ih =>
    by_cases hdone : ∀ a u, Q s a → step s a ≠ some u
    · exact ⟨s,reaches_refl step Q s,hdone⟩
    · simp only [not_forall,not_not] at hdone
      obtain ⟨a,u,hq,hu⟩ := hdone
      obtain ⟨t,ht,hend⟩ := ih (measure u) (hm ▸ hless s a u hi hq hu) (hinv s a u hi hu) rfl
      exact ⟨t,reaches_trans (reaches_step hq hu) ht,hend⟩

end Reaches

-- What is seen of the state goes on by `R` when it does so in each step.
theorem run_follows {X : Type} {I : S → Prop} {V : S → X → Prop} {R : X → X → Prop}
    (hinv : ∀ s a t, I s → step s a = some t → I t)
    (hstep : ∀ s a t x, I s → step s a = some t → V s x → ∃ y, V t y ∧ Relation.ReflGen R x y)
    {s t : S} {as : List A} {x : X} (hi : I s) (hx : V s x) (h : run step s as = some t) :
    ∃ y, V t y ∧ Relation.ReflTransGen R x y := by
  induction as generalizing s x with
  | nil =>
    obtain rfl := Option.some.inj h
    exact ⟨x,hx,.refl⟩
  | cons a as ih =>
    simp only [run_cons,Option.bind_eq_some_iff] at h
    obtain ⟨u,hu,hr⟩ := h
    obtain ⟨y,hy,hxy⟩ := hstep s a u x hi hu hx
    obtain ⟨z,hz,hyz⟩ := ih (hinv s a u hi hu) hy hr
    exact ⟨z,hz,hxy.to_reflTransGen.trans hyz⟩

-- What is seen in the states of a run, one after the other.
theorem run_seen {X : Type} {I : S → Prop} {V : S → X → Prop} {R : X → X → Prop}
    (hinv : ∀ s a t, I s → step s a = some t → I t)
    (hstep : ∀ s a t x, I s → step s a = some t → V s x → ∃ y, V t y ∧ R x y)
    {s t : S} {as : List A} {x : X} (hi : I s) (hx : V s x) (h : run step s as = some t) :
    ∃ xs : List X, xs.length = as.length ∧ (x :: xs).IsChain R ∧
      ∀ n ≤ as.length, ∀ u, run step s (as.take n) = some u → ∃ y, (x :: xs)[n]? = some y ∧ V u y := by
  induction as generalizing s x with
  | nil =>
    refine ⟨[],rfl,.singleton x,fun n hn u hu => ?_⟩
    obtain rfl := Nat.le_zero.mp hn
    obtain rfl := Option.some.inj hu
    exact ⟨x,rfl,hx⟩
  | cons a as ih =>
    simp only [run_cons,Option.bind_eq_some_iff] at h
    obtain ⟨v,hv,hr⟩ := h
    obtain ⟨y,hy,hxy⟩ := hstep s a v x hi hv hx
    obtain ⟨ys,hl,hchain,hseen⟩ := ih (hinv s a v hi hv) hy hr
    refine ⟨y :: ys,congrArg Nat.succ hl,List.isChain_cons_cons.mpr ⟨hxy,hchain⟩,fun n hn u hu => ?_⟩
    cases n with
    | zero =>
      obtain rfl := Option.some.inj hu
      exact ⟨x,rfl,hx⟩
    | succ n =>
      rw [List.take_succ_cons,run_cons,hv,Option.bind_some] at hu
      exact hseen n (Nat.le_of_succ_le_succ hn) u hu

theorem reachable_invariant {P : S → Prop} {init s : S} (hinit : P init)
    (hstep : ∀ s a t, P s → step s a = some t → P t) (h : Reachable step init s) : P s := by
  obtain ⟨as,has⟩ := h
  exact run_invariant step hstep hinit has

section Simulation
variable {T B : Type} {step} {step' : T → B → Option T} {I : S → Prop} {R : S → T → Prop}

-- A step that the other system matches by a run.
theorem run_simulated (hinv : ∀ s a s', I s → step s a = some s' → I s')
    (hstep : ∀ s a s' t, I s → R s t → step s a = some s' →
      ∃ bs t', run step' t bs = some t' ∧ R s' t')
    {s s' : S} {t : T} {as : List A} (hi : I s) (hr : R s t) (h : run step s as = some s') :
    ∃ bs t', run step' t bs = some t' ∧ R s' t' := by
  induction as generalizing s t with
  | nil =>
    obtain rfl := Option.some.inj h
    exact ⟨[],t,rfl,hr⟩
  | cons a as ih =>
    simp only [run_cons,Option.bind_eq_some_iff] at h
    obtain ⟨u,hu,h⟩ := h
    obtain ⟨bs,v,hv,hrv⟩ := hstep s a u t hi hr hu
    obtain ⟨cs,t',ht',hr'⟩ := ih (hinv s a u hi hu) hrv h
    exact ⟨bs ++ cs,t',by rw [run_append,hv,Option.bind_some,ht'],hr'⟩

end Simulation

section Mapped
variable {T B : Type} {step} {step' : T → B → Option T} {f : S → T} {g : A → B}

-- Two systems whose states and actions correspond.
theorem run_map (hstep : ∀ s a, step' (f s) (g a) = (step s a).map f) (s : S) (as : List A) :
    run step' (f s) (as.map g) = (run step s as).map f := by
  induction as generalizing s with
  | nil => rfl
  | cons a as ih =>
    rw [List.map_cons,run_cons,run_cons,hstep]
    cases step s a with
    | none => rfl
    | some t => exact ih t

theorem reachable_map_iff (hstep : ∀ s a, step' (f s) (g a) = (step s a).map f)
    (hg : Function.Surjective g) (init : S) (t : T) :
    Reachable step' (f init) t ↔ ∃ s, Reachable step init s ∧ f s = t := by
  constructor
  · rintro ⟨bs,hbs⟩
    obtain ⟨as,rfl⟩ := List.map_surjective_iff.mpr hg bs
    rw [run_map hstep,Option.map_eq_some_iff] at hbs
    obtain ⟨s,hs,rfl⟩ := hbs
    exact ⟨s,⟨as,hs⟩,rfl⟩
  · rintro ⟨s,⟨as,has⟩,rfl⟩
    exact ⟨as.map g,by rw [run_map hstep,has,Option.map_some]⟩

end Mapped

end Execution
