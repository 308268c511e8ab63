import Mathlib.Data.List.Basic

namespace FirstSuccess

variable {A : Type} (succeeds : A → Bool)

def tries : List A → List A
  | [] => []
  | x :: xs => if succeeds x then [x] else x :: tries xs

theorem tries_prefix (xs : List A) : tries succeeds xs <+: xs := by
  induction xs with
  | nil => exact List.nil_prefix
  | cons x xs ih =>
    simp only [tries]
    split
    · exact (List.prefix_cons_inj x).mpr List.nil_prefix
    · exact (List.prefix_cons_inj x).mpr ih

theorem tries_of_none {xs : List A} (h : ∀ x ∈ xs, ¬ succeeds x) : tries succeeds xs = xs := by
  induction xs with
  | nil => rfl
  | cons x xs ih =>
    rw [tries,if_neg (h x (by simp)),ih (fun y hy => h y (by simp [hy]))]

theorem nothing_after_success {xs pre post : List A} {x : A}
    (h : tries succeeds xs = pre ++ x :: post) (hx : succeeds x) : post = [] := by
  induction xs generalizing pre with
  | nil => simp [tries] at h
  | cons y xs ih =>
    simp only [tries] at h
    split at h
    case isTrue =>
      cases pre with
      | nil => exact (List.cons.inj h).2.symm
      | cons z pre => simp at h
    case isFalse hy =>
      cases pre with
      | nil =>
        obtain ⟨rfl,-⟩ := List.cons.inj h
        exact absurd hx hy
      | cons z pre => exact ih (List.cons.inj h).2

theorem getLast?_tries {xs : List A} {x : A} (h : xs.find? succeeds = some x) :
    (tries succeeds xs).getLast? = some x := by
  induction xs with
  | nil => simp at h
  | cons y xs ih =>
    rw [List.find?_cons] at h
    cases hy : succeeds y with
    | true =>
      rw [hy] at h
      simpa [tries,hy] using h
    | false =>
      rw [hy] at h
      simp [tries,hy,List.getLast?_cons,ih h]

theorem head?_tries (xs : List A) : (tries succeeds xs).head? = xs.head? := by
  cases xs with
  | nil => rfl
  | cons x xs =>
    simp only [tries]
    split <;> rfl

end FirstSuccess
