import Mathlib.Data.List.Infix

namespace Cyclic

variable {A : Type}

section Items

-- The i-th item of the list repeated for ever.
def item (xs : List A) (i : ℕ) : Option A := xs[i % xs.length]?

def repeated (k : ℕ) (xs : List A) : List A := (List.replicate k xs).flatten

def Begins (ys xs : List A) : Prop := ∃ k, ys <+: repeated k xs

theorem item_eq_none {xs : List A} {i : ℕ} : item xs i = none ↔ xs = [] := by
  rw [item,List.getElem?_eq_none_iff]
  constructor
  · intro h
    by_contra hne
    exact absurd (Nat.mod_lt i (List.length_pos_iff.mpr hne)) (Nat.not_lt.mpr h)
  · rintro rfl
    exact Nat.zero_le _

theorem item_append {xs : List A} {i : ℕ} (h : i < xs.length) (ys : List A) :
    item (xs ++ ys) i = xs[i]? := by
  have hl : i < (xs ++ ys).length := by
    rw [List.length_append]
    exact Nat.lt_add_right _ h
  rw [item,Nat.mod_eq_of_lt hl,List.getElem?_append_left h]

theorem item_map {B : Type} (f : A → B) (xs : List A) (i : ℕ) :
    item (xs.map f) i = (item xs i).map f := by
  rw [item,item,List.length_map,List.getElem?_map]

theorem repeated_succ (k : ℕ) (xs : List A) : repeated (k + 1) xs = xs ++ repeated k xs := by
  rw [repeated,List.replicate_succ,List.flatten_cons,repeated]

theorem repeated_length (k : ℕ) (xs : List A) : (repeated k xs).length = k * xs.length := by
  simp [repeated]

theorem repeated_getElem? {k : ℕ} {xs : List A} {i : ℕ} (h : i < k * xs.length) :
    (repeated k xs)[i]? = item xs i := by
  induction k generalizing i with
  | zero => simp at h
  | succ k ih =>
    rw [repeated_succ]
    by_cases hi : i < xs.length
    · rw [List.getElem?_append_left hi,item,Nat.mod_eq_of_lt hi]
    · have hle := Nat.le_of_not_lt hi
      rw [Nat.succ_mul] at h
      rw [List.getElem?_append_right hle,ih (by omega),item,item,← Nat.mod_eq_sub_mod hle]

theorem begins_iff {ys xs : List A} : Begins ys xs ↔ ∀ i < ys.length, ys[i]? = item xs i := by
  constructor
  · rintro ⟨k,hk⟩ i hi
    have hl : i < k * xs.length := by
      rw [← repeated_length]
      exact Nat.lt_of_lt_of_le hi hk.length_le
    rw [← repeated_getElem? hl,List.prefix_iff_getElem?.mp hk i hi,List.getElem?_eq_getElem hi]
  · intro h
    refine ⟨ys.length,List.prefix_iff_getElem?.mpr (fun i hi => ?_)⟩
    rw [← List.getElem?_eq_getElem hi,h i hi]
    apply repeated_getElem?
    have hne : xs ≠ [] := by
      rintro rfl
      have hn := h i hi
      rw [item_eq_none.mpr rfl,List.getElem?_eq_getElem hi] at hn
      cases hn
    exact Nat.lt_of_lt_of_le hi (Nat.le_mul_of_pos_right _ (List.length_pos_iff.mpr hne))

theorem begins_nil (xs : List A) : Begins [] xs := ⟨0,List.nil_prefix⟩

theorem begins_append_iff {ys zs xs : List A} (h : Begins ys xs) :
    Begins (ys ++ zs) xs ↔ ∀ j < zs.length, zs[j]? = item xs (ys.length + j) := by
  rw [begins_iff]
  constructor
  · intro ha j hj
    have hi := ha (ys.length + j) (by simpa using hj)
    rwa [List.getElem?_append_right (Nat.le_add_right _ _),Nat.add_sub_cancel_left] at hi
  · intro hz i hi
    rw [List.length_append] at hi
    by_cases hl : i < ys.length
    · rw [List.getElem?_append_left hl]
      exact begins_iff.mp h i hl
    · have hle := Nat.le_of_not_lt hl
      rw [List.getElem?_append_right hle,hz (i - ys.length) (by omega),Nat.add_sub_cancel' hle]

end Items

section Firsts

-- The first items of the list repeated for ever.
def firsts (xs : List A) (i : ℕ) : List A := (List.range i).filterMap (item xs)

theorem firsts_succ {xs : List A} {i : ℕ} {x : A} (h : item xs i = some x) :
    firsts xs (i + 1) = firsts xs i ++ [x] := by
  rw [firsts,List.range_succ,List.filterMap_append,← firsts]
  simp [h]

theorem firsts_length {xs : List A} (hne : xs ≠ []) (i : ℕ) : (firsts xs i).length = i := by
  induction i with
  | zero => rfl
  | succ i ih =>
    obtain ⟨x,hx⟩ := Option.ne_none_iff_exists'.mp (mt (item_eq_none (i := i)).mp hne)
    rw [firsts_succ hx,List.length_append,ih]
    rfl

theorem firsts_nil (i : ℕ) : firsts ([] : List A) i = [] := by simp [firsts,item]

theorem firsts_begins (xs : List A) (i : ℕ) : Begins (firsts xs i) xs := by
  rcases eq_or_ne xs [] with rfl | hne
  · rw [firsts_nil]
    exact begins_nil []
  · induction i with
    | zero => exact begins_nil xs
    | succ i ih =>
      obtain ⟨x,hx⟩ := Option.ne_none_iff_exists'.mp (mt (item_eq_none (i := i)).mp hne)
      rw [firsts_succ hx,begins_append_iff ih]
      intro j hj
      obtain rfl : j = 0 := by simpa using hj
      rw [firsts_length hne,Nat.add_zero,hx]
      rfl

end Firsts

section Lines

theorem repeated_flatten (k : ℕ) (xs : List (List A)) :
    repeated k xs.flatten = (repeated k xs).flatten := by
  induction k with
  | zero => rfl
  | succ k ih => rw [repeated_succ,repeated_succ,List.flatten_append,ih]

theorem Begins.flatten {ys xs : List (List A)} (h : Begins ys xs) :
    Begins ys.flatten xs.flatten := by
  obtain ⟨k,hk⟩ := h
  refine ⟨k,?_⟩
  rw [repeated_flatten]
  exact hk.flatten

-- Where a line stands in the lines repeated for ever.
theorem item_flatten {xs : List (List A)} {i : ℕ} {text : List A} (h : item xs i = some text) {j : ℕ}
    (hj : j < text.length) : text[j]? = item xs.flatten ((firsts xs i).flatten.length + j) := by
  have hb := (firsts_begins xs (i + 1)).flatten
  rw [firsts_succ h,List.flatten_append,List.flatten_singleton] at hb
  exact (begins_append_iff (firsts_begins xs i).flatten).mp hb j hj

end Lines

end Cyclic
