import Mathlib.Data.Multiset.Bind

namespace Exchange

variable {H K A : Type*}

-- `ys` is `xs` with `old` taken out and `new` put in.
def Swaps (xs ys old new : Multiset H) : Prop := ∃ rest, xs = old + rest ∧ ys = new + rest

variable {xs ys old new : Multiset H}

theorem swaps_bind (h : Swaps xs ys old new) (tokens : H → Multiset A) {created : Multiset A}
    (hc : new.bind tokens = old.bind tokens + created) :
    ys.bind tokens = xs.bind tokens + created := by
  obtain ⟨rest,rfl,rfl⟩ := h
  rw [Multiset.add_bind,Multiset.add_bind,hc,add_right_comm]

-- What was not exchanged holds no token that was.
theorem swaps_forall (h : Swaps xs ys old new) (tokens : H → Multiset A)
    (hnodup : (xs.bind tokens).Nodup) {P Q : H → Prop} (hxs : ∀ x ∈ xs, P x)
    (hkept : ∀ x, P x → (∀ a ∈ tokens x, a ∉ old.bind tokens) → Q x) (hnew : ∀ y ∈ new, Q y) :
    ∀ y ∈ ys, Q y := by
  obtain ⟨rest,rfl,rfl⟩ := h
  rw [Multiset.add_bind,Multiset.nodup_add] at hnodup
  intro y hy
  rcases Multiset.mem_add.mp hy with hy | hy
  · exact hnew y hy
  · refine hkept y (hxs y (Multiset.mem_add.mpr (.inr hy))) (fun a ha hold => ?_)
    exact Multiset.disjoint_left.mp hnodup.2.2 hold (Multiset.mem_bind.mpr ⟨y,hy,ha⟩)

-- Who holds a token that was exchanged has passed it on by `R`; the others keep theirs.
theorem swaps_held (h : Swaps xs ys old new) (tokens : H → Multiset A) {R : H → H → Prop}
    (hrefl : ∀ x, R x x) (hpassed : ∀ x ∈ old, ∀ a ∈ tokens x, ∃ y ∈ new, a ∈ tokens y ∧ R x y)
    {x : H} {a : A} (hx : x ∈ xs) (ha : a ∈ tokens x) : ∃ y ∈ ys, a ∈ tokens y ∧ R x y := by
  obtain ⟨rest,rfl,rfl⟩ := h
  rcases Multiset.mem_add.mp hx with hx | hx
  · obtain ⟨y,hy,hay,hr⟩ := hpassed x hx a ha
    exact ⟨y,Multiset.mem_add.mpr (.inl hy),hay,hr⟩
  · exact ⟨x,Multiset.mem_add.mpr (.inr hx),ha,hrefl x⟩

theorem swaps_all (h : Swaps xs ys old new) {P : H → Prop} (hxs : ∀ x ∈ xs, P x)
    (hnew : (∀ x ∈ old, P x) → ∀ y ∈ new, P y) : ∀ y ∈ ys, P y := by
  obtain ⟨rest,rfl,rfl⟩ := h
  intro y hy
  rcases Multiset.mem_add.mp hy with hy | hy
  · exact hnew (fun x hx => hxs x (Multiset.mem_add.mpr (.inl hx))) y hy
  · exact hxs y (Multiset.mem_add.mpr (.inr hy))

theorem swaps_weighs_less (h : Swaps xs ys old new) {weight : H → ℕ}
    (hw : (new.map weight).sum < (old.map weight).sum) :
    (ys.map weight).sum < (xs.map weight).sum := by
  obtain ⟨rest,rfl,rfl⟩ := h
  rw [Multiset.map_add,Multiset.sum_add,Multiset.map_add,Multiset.sum_add]
  exact Nat.add_lt_add_right hw _

theorem held_unique {tokens : H → Multiset A} (hnodup : (xs.bind tokens).Nodup) {x y : H} {a : A}
    (hx : x ∈ xs) (hy : y ∈ xs) (hax : a ∈ tokens x) (hay : a ∈ tokens y) : x = y := by
  obtain ⟨rest,rfl⟩ := Multiset.exists_cons_of_mem hx
  rw [Multiset.cons_bind,Multiset.nodup_add] at hnodup
  rcases Multiset.mem_cons.mp hy with rfl | hy
  · rfl
  · exact absurd (Multiset.mem_bind.mpr ⟨y,hy,hay⟩) (Multiset.disjoint_left.mp hnodup.2.2 hax)

def each (f : K → H) (l : List K) : Multiset H := Multiset.ofList (l.map f)

theorem mem_each {f : K → H} {l : List K} {y : H} : y ∈ each f l ↔ ∃ x ∈ l, f x = y := by
  simp [each]

theorem each_takeOut {l : List K} {i : ℕ} {x : K} (h : l[i]? = some x) (f : K → H) :
    each f l = {f x} + each f (l.eraseIdx i) := by
  obtain ⟨hi,rfl⟩ := List.getElem?_eq_some_iff.mp h
  have hp := ((List.getElem_cons_eraseIdx_perm hi).map f).symm
  rw [each,Multiset.coe_eq_coe.mpr hp,List.map_cons,Multiset.singleton_add]
  rfl

theorem each_append (f : K → H) (l m : List K) : each f (l ++ m) = each f l + each f m := by
  rw [each,List.map_append,← Multiset.coe_add]
  rfl

theorem each_cons (f : K → H) (x : K) (l : List K) : each f (x :: l) = {f x} + each f l := rfl

theorem each_nil (f : K → H) : each f [] = 0 := rfl

theorem each_bind (f : K → H) (l : List K) (tokens : H → Multiset A) :
    (each f l).bind tokens = (Multiset.ofList l).bind (fun x => tokens (f x)) := by
  rw [each,← Multiset.map_coe,Multiset.bind_map]

end Exchange
