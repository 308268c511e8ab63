import Mathlib.Data.List.Perm.Basic
import Mathlib.Logic.Equiv.Basic

namespace Traversal

variable {A B E : Type}

theorem mapM_eq_ok {f : A → Except E B} {xs : List A} {ys : List B} :
    xs.mapM f = .ok ys ↔ List.Forall₂ (fun x y => f x = .ok y) xs ys := by
  induction xs generalizing ys with
  | nil => simp [pure,Except.pure,eq_comm]
  | cons x xs ih =>
    rw [List.mapM_cons,List.forall₂_cons_left_iff]
    cases hx : f x with
    | error e => simp [bind,Except.bind]
    | ok y =>
      cases hm : xs.mapM f with
      | error e => simp [bind,Except.bind,← ih,hm]
      | ok tail => simp [bind,Except.bind,pure,Except.pure,← ih,hm,eq_comm]

theorem mapM_eq_some {f : A → Option B} {xs : List A} {ys : List B} :
    xs.mapM f = some ys ↔ List.Forall₂ (fun x y => f x = some y) xs ys := by
  induction xs generalizing ys with
  | nil => simp [eq_comm]
  | cons x xs ih =>
    rw [List.mapM_cons,List.forall₂_cons_left_iff]
    cases hx : f x with
    | none => simp
    | some y =>
      cases hm : xs.mapM f with
      | none => simp [← ih,hm]
      | some tail => simp [← ih,hm,eq_comm]

theorem mem_of_mapM_eq_some {f : A → Option B} {xs : List A} {ys : List B}
    (h : xs.mapM f = some ys) {y : B} (hy : y ∈ ys) : ∃ x ∈ xs, f x = some y := by
  induction mapM_eq_some.mp h with
  | nil => cases hy
  | @cons x y' xs ys hx hrest ih =>
    rcases List.mem_cons.mp hy with rfl | hm
    · exact ⟨x,List.mem_cons_self,hx⟩
    · obtain ⟨x',hx',hf⟩ := ih (mapM_eq_some.mpr hrest) hm
      exact ⟨x',List.mem_cons_of_mem _ hx',hf⟩

-- Reordering what is read reorders what comes out, and cannot make a reading fail.
theorem mapM_some_perm {f : A → Option B} {xs xs' : List A} {ys : List B} (h : xs.Perm xs')
    (hm : xs.mapM f = some ys) : ∃ ys', xs'.mapM f = some ys' ∧ ys.Perm ys' := by
  obtain ⟨ys',hf,hp⟩ := List.perm_comp_forall₂ h.symm (mapM_eq_some.mp hm)
  exact ⟨ys',mapM_eq_some.mpr hf,hp.symm⟩

section Positions

def afterHead (σ : Equiv.Perm ℕ) : Equiv.Perm ℕ where
  toFun
    | 0 => 0
    | i + 1 => σ i + 1
  invFun
    | 0 => 0
    | i + 1 => σ.symm i + 1
  left_inv i := by cases i <;> simp
  right_inv i := by cases i <;> simp

-- A reordering as a permutation of the positions.
theorem perm_positions {xs ys : List A} (h : xs.Perm ys) :
    ∃ σ : Equiv.Perm ℕ, ∀ i, ys[σ i]? = xs[i]? := by
  induction h with
  | nil => exact ⟨Equiv.refl ℕ,fun i => rfl⟩
  | cons x h ih =>
    obtain ⟨σ,hσ⟩ := ih
    refine ⟨afterHead σ,fun i => ?_⟩
    cases i with
    | zero => rfl
    | succ i => exact hσ i
  | swap x y xs =>
    refine ⟨Equiv.swap 0 1,fun i => ?_⟩
    match i with
    | 0 => rfl
    | 1 => rfl
    | i + 2 => rw [Equiv.swap_apply_of_ne_of_ne (by omega) (by omega)]; rfl
  | trans h₁ h₂ ih₁ ih₂ =>
    obtain ⟨σ,hσ⟩ := ih₁
    obtain ⟨τ,hτ⟩ := ih₂
    exact ⟨σ.trans τ,fun i => (hτ (σ i)).trans (hσ i)⟩

end Positions

end Traversal
