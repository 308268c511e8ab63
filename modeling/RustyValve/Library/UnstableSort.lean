import Mathlib.Data.List.Sort

structure UnstableSort (A : Type) where
  run : (A → ℕ) → List A → List A
  perm : ∀ key xs, (run key xs).Perm xs
  sorted : ∀ key xs, (run key xs).Pairwise (fun a b => key a ≤ key b)
  congr : ∀ key key' xs, (∀ x ∈ xs, key x = key' x) → run key xs = run key' xs

namespace UnstableSort

variable {A : Type}

def sortOn (key : A → ℕ) (xs : List A) : List A := xs.insertionSort (fun a b => key a ≤ key b)

theorem sortOn_perm (key : A → ℕ) (xs : List A) : (sortOn key xs).Perm xs :=
  List.perm_insertionSort _ xs

theorem sortOn_sorted (key : A → ℕ) (xs : List A) :
    (sortOn key xs).Pairwise (fun a b => key a ≤ key b) := by
  have : Std.Total (fun a b : A => key a ≤ key b) := ⟨fun a b => Nat.le_total _ _⟩
  have : IsTrans A (fun a b => key a ≤ key b) := ⟨fun _ _ _ => Nat.le_trans⟩
  exact List.pairwise_insertionSort _ xs

theorem orderedInsert_congr {key key' : A → ℕ} {x : A} {xs : List A} (hx : key x = key' x)
    (h : ∀ y ∈ xs, key y = key' y) :
    xs.orderedInsert (fun a b => key a ≤ key b) x = xs.orderedInsert (fun a b => key' a ≤ key' b) x := by
  induction xs with
  | nil => rfl
  | cons y xs ih =>
    simp only [List.orderedInsert,hx,h y (by simp),ih (fun z hz => h z (by simp [hz]))]

theorem sortOn_congr (key key' : A → ℕ) (xs : List A) (h : ∀ x ∈ xs, key x = key' x) :
    sortOn key xs = sortOn key' xs := by
  induction xs with
  | nil => rfl
  | cons x xs ih =>
    have ht := ih (fun y hy => h y (by simp [hy]))
    unfold sortOn at ht ⊢
    rw [List.insertionSort_cons,List.insertionSort_cons,ht]
    exact orderedInsert_congr (h x (by simp))
      (fun y hy => h y (by simp [(List.perm_insertionSort _ xs).mem_iff.mp hy]))

def stable : UnstableSort A where
  run := sortOn
  perm := sortOn_perm
  sorted := sortOn_sorted
  congr := sortOn_congr

def favouring [DecidableEq A] (x : A) : UnstableSort A where
  run key := sortOn (fun a => 2 * key a + if a = x then 0 else 1)
  perm key := sortOn_perm _
  sorted key xs := (sortOn_sorted _ xs).imp (fun {a b} h => by split_ifs at h <;> omega)
  congr key key' xs h := sortOn_congr _ _ xs (fun x hx => by rw [h x hx])

theorem mem_run (sort : UnstableSort A) (key : A → ℕ) {xs : List A} {x : A} :
    x ∈ sort.run key xs ↔ x ∈ xs := (sort.perm key xs).mem_iff

theorem favouring_head [DecidableEq A] (x : A) (key : A → ℕ) {xs : List A} (hx : x ∈ xs)
    (heq : ∀ a ∈ xs, key a = key x) : ((favouring x).run key xs).head? = some x := by
  let weight : A → ℕ := fun a => 2 * key a + if a = x then 0 else 1
  cases hl : ((favouring x).run key xs).head? with
  | none =>
    rw [List.head?_eq_none_iff] at hl
    have hm := ((favouring x).mem_run key).mpr hx
    simp [hl] at hm
  | some h =>
    have hh : key h = key x := heq h (((favouring x).mem_run key).mp (List.mem_of_head? hl))
    have hw : weight h ≤ weight x := by
      obtain ⟨t,ht⟩ := List.head?_eq_some_iff.mp hl
      have hs : (h :: t).Pairwise (fun a b => weight a ≤ weight b) := ht ▸ sortOn_sorted weight xs
      have hm : x ∈ h :: t := ht ▸ ((favouring x).mem_run key).mpr hx
      rcases List.mem_cons.mp hm with rfl | hm
      · exact Nat.le_refl _
      · exact List.rel_of_pairwise_cons hs hm
    by_contra hne
    simp only [weight,if_neg (fun he => hne (congrArg some he)),if_true] at hw
    omega

end UnstableSort
