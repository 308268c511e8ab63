import Mathlib.Data.List.DropRight
import Mathlib.Data.List.Infix

namespace Delimiter

variable {A : Type}

section Once
variable [DecidableEq A]

def splitOnce (d : A) : List A → Option (List A × List A)
  | [] => none
  | x :: xs => if x = d then some ([],xs) else (splitOnce d xs).map (fun p => (x :: p.1,p.2))

theorem splitOnce_append (d : A) (a b : List A) (h : d ∉ a) :
    splitOnce d (a ++ d :: b) = some (a,b) := by
  induction a with
  | nil => simp [splitOnce]
  | cons x a ih =>
    simp only [List.mem_cons,not_or] at h
    simp [splitOnce,Ne.symm h.1,ih h.2]

theorem splitOnce_eq_none {d : A} {xs : List A} : splitOnce d xs = none ↔ d ∉ xs := by
  induction xs with
  | nil => simp [splitOnce]
  | cons x xs ih =>
    by_cases hx : x = d
    · simp [splitOnce,hx]
    · simp [splitOnce,hx,ih,Ne.symm hx]

theorem splitOnce_eq_some {d : A} {xs a b : List A} :
    splitOnce d xs = some (a,b) ↔ xs = a ++ d :: b ∧ d ∉ a := by
  constructor
  · intro h
    induction xs generalizing a with
    | nil => simp [splitOnce] at h
    | cons x xs ih =>
      by_cases hx : x = d
      · simp only [splitOnce,hx,if_true,Option.some.injEq,Prod.mk.injEq] at h
        obtain ⟨rfl,rfl⟩ := h
        simp [hx]
      · simp only [splitOnce,hx,if_false,Option.map_eq_some_iff,Prod.mk.injEq] at h
        obtain ⟨⟨a',b'⟩,hs,rfl,rfl⟩ := h
        obtain ⟨rfl,hd⟩ := ih hs
        exact ⟨rfl,by simp [Ne.symm hx,hd]⟩
  · rintro ⟨rfl,h⟩
    exact splitOnce_append d a b h

def rsplitOnce (d : A) (xs : List A) : Option (List A × List A) :=
  (splitOnce d xs.reverse).map (fun p => (p.2.reverse,p.1.reverse))

theorem rsplitOnce_append (d : A) (a b : List A) (h : d ∉ b) :
    rsplitOnce d (a ++ d :: b) = some (a,b) := by
  have hs := splitOnce_append d b.reverse a.reverse (by simpa using h)
  simp [rsplitOnce,hs]

theorem rsplitOnce_eq_none {d : A} {xs : List A} : rsplitOnce d xs = none ↔ d ∉ xs := by
  simp [rsplitOnce,splitOnce_eq_none]

theorem rsplitOnce_eq_some {d : A} {xs a b : List A} :
    rsplitOnce d xs = some (a,b) ↔ xs = a ++ d :: b ∧ d ∉ b := by
  constructor
  · intro h
    simp only [rsplitOnce,Option.map_eq_some_iff,Prod.mk.injEq] at h
    obtain ⟨⟨b',a'⟩,hs,rfl,rfl⟩ := h
    obtain ⟨hx,hd⟩ := splitOnce_eq_some.mp hs
    refine ⟨?_,by simpa using hd⟩
    simpa using congrArg List.reverse hx
  · rintro ⟨rfl,h⟩
    exact rsplitOnce_append d a b h

end Once

section Trim
variable (p : A → Bool)

def trimStart (xs : List A) : List A := xs.dropWhile p

def trimEnd (xs : List A) : List A := xs.rdropWhile p

def trim (xs : List A) : List A := trimEnd p (trimStart p xs)

theorem trimStart_append_of_all (a xs : List A) (h : ∀ x ∈ a, p x) :
    trimStart p (a ++ xs) = trimStart p xs := by
  induction a with
  | nil => rfl
  | cons x a ih =>
    have hx := h x (by simp)
    simpa [trimStart,hx] using ih (fun y hy => h y (by simp [hy]))

theorem trimStart_append_of_not {x : A} (a b : List A) (h : ¬ p x) :
    trimStart p (a ++ x :: b) = trimStart p a ++ x :: b := by
  induction a with
  | nil => simp [trimStart,h]
  | cons y a ih =>
    by_cases hy : p y
    · simpa [trimStart,hy] using ih
    · simp [trimStart,hy]

theorem trimStart_decomposition (xs : List A) :
    ∃ a, xs = a ++ trimStart p xs ∧ ∀ x ∈ a, p x :=
  ⟨xs.takeWhile p,List.takeWhile_append_dropWhile.symm,fun _ h => List.mem_takeWhile_imp h⟩

theorem trimStart_reverse (xs : List A) :
    trimStart p xs.reverse = (trimEnd p xs).reverse := by
  simp [trimStart,trimEnd,List.rdropWhile]

theorem trimEnd_append_of_all (xs b : List A) (h : ∀ x ∈ b, p x) :
    trimEnd p (xs ++ b) = trimEnd p xs := by
  have hr := trimStart_append_of_all p b.reverse xs.reverse (by simpa using h)
  rw [← List.reverse_append,trimStart_reverse,trimStart_reverse] at hr
  exact List.reverse_injective hr

theorem trimEnd_append_of_not {x : A} (a b : List A) (h : ¬ p x) :
    trimEnd p (a ++ x :: b) = a ++ x :: trimEnd p b := by
  have hr := trimStart_append_of_not p b.reverse a.reverse h
  apply List.reverse_injective
  rw [← trimStart_reverse]
  simpa [trimStart_reverse] using hr

theorem trimEnd_decomposition (xs : List A) :
    ∃ b, xs = trimEnd p xs ++ b ∧ ∀ x ∈ b, p x := by
  obtain ⟨a,ha,hp⟩ := trimStart_decomposition p xs.reverse
  refine ⟨a.reverse,?_,by simpa using hp⟩
  rw [trimStart_reverse] at ha
  simpa using congrArg List.reverse ha

theorem trimStart_of_forall_not {xs : List A} (h : ∀ x ∈ xs, ¬ p x) : trimStart p xs = xs := by
  cases xs with
  | nil => rfl
  | cons x xs => exact trimStart_append_of_not p [] xs (h x List.mem_cons_self)

theorem trim_of_forall_not {xs : List A} (h : ∀ x ∈ xs, ¬ p x) : trim p xs = xs := by
  have hr := trimStart_of_forall_not p (fun x hx => h x (List.mem_reverse.mp hx))
  rw [trimStart_reverse] at hr
  rw [trim,trimStart_of_forall_not p h]
  exact List.reverse_injective hr

theorem trim_decomposition (xs : List A) :
    ∃ a b, xs = a ++ trim p xs ++ b ∧ (∀ x ∈ a, p x) ∧ ∀ x ∈ b, p x := by
  obtain ⟨a,ha,hpa⟩ := trimStart_decomposition p xs
  obtain ⟨b,hb,hpb⟩ := trimEnd_decomposition p (trimStart p xs)
  exact ⟨a,b,by rw [List.append_assoc,trim,← hb,← ha],hpa,hpb⟩

theorem trim_append_of_all (a xs b : List A) (ha : ∀ x ∈ a, p x) (hb : ∀ x ∈ b, p x) :
    trim p (a ++ xs ++ b) = trim p xs := by
  rw [List.append_assoc,trim,trimStart_append_of_all p a _ ha]
  by_cases h : ∀ x ∈ xs, p x
  · have hxb : ∀ x ∈ xs ++ b, p x := by
      simpa [or_imp,forall_and] using And.intro h hb
    have hn (ys : List A) (hy : ∀ x ∈ ys, p x) : trimStart p ys = [] := by
      simpa [trimStart] using trimStart_append_of_all p ys [] hy
    simp [trim,hn _ h,hn _ hxb]
  · push Not at h
    obtain ⟨x,hx,hp⟩ := h
    obtain ⟨l,r,rfl⟩ := List.append_of_mem hx
    rw [List.append_assoc,List.cons_append,trimStart_append_of_not p l _ hp,
      ← List.cons_append,← List.append_assoc,trimEnd_append_of_all p _ b hb,
      trim,trimStart_append_of_not p l _ hp]

theorem trim_append_of_not {x : A} (a b : List A) (h : ¬ p x) :
    trim p (a ++ x :: b) = trimStart p a ++ x :: trimEnd p b := by
  rw [trim,trimStart_append_of_not p a b h,trimEnd_append_of_not p _ b h]

theorem trim_trim (xs : List A) : trim p (trim p xs) = trim p xs := by
  obtain ⟨a,b,hx,ha,hb⟩ := trim_decomposition p xs
  have ht := trim_append_of_all p a (trim p xs) b ha hb
  rw [← hx] at ht
  exact ht.symm

theorem mem_of_mem_trim {x : A} {xs : List A} (h : x ∈ trim p xs) : x ∈ xs := by
  obtain ⟨a,b,hx,_,_⟩ := trim_decomposition p xs
  rw [hx]
  simp [h]

theorem mem_trim_of_not {x : A} {xs : List A} (h : x ∈ xs) (hp : ¬ p x) : x ∈ trim p xs := by
  obtain ⟨a,b,hx,ha,hb⟩ := trim_decomposition p xs
  rw [hx] at h
  simp only [List.mem_append] at h
  rcases h with (h | h) | h
  · exact absurd (ha x h) hp
  · exact h
  · exact absurd (hb x h) hp

end Trim

section Pieces
variable [DecidableEq A] (p : A → Bool)

theorem splitOn_cons {d x : A} (hx : x ≠ d) (xs : List A) :
    ∃ f front, xs.splitOn d = f :: front ∧ (x :: xs).splitOn d = (x :: f) :: front := by
  cases hs : xs.splitOn d with
  | nil => exact absurd hs (List.splitOn_ne_nil d xs)
  | cons f front => exact ⟨f,front,rfl,by simp [List.splitOn_cons_eq_if_modifyHead,hx,hs]⟩

theorem exists_mem_splitOn {d x : A} (hx : x ≠ d) {xs : List A} (h : x ∈ xs) :
    ∃ piece ∈ xs.splitOn d, x ∈ piece := by
  induction xs with
  | nil => simp at h
  | cons y xs ih =>
    by_cases hy : y = d
    · have hm : x ∈ xs := (List.mem_cons.mp h).resolve_left (fun he => hx (he.trans hy))
      obtain ⟨piece,hp,hxp⟩ := ih hm
      exact ⟨piece,by simp [List.splitOn_cons_eq_if_modifyHead,hy,hp],hxp⟩
    · obtain ⟨f,front,hs,hc⟩ := splitOn_cons hy xs
      rw [hc]
      rcases List.mem_cons.mp h with rfl | hm
      · exact ⟨x :: f,by simp,by simp⟩
      · obtain ⟨piece,hp,hxp⟩ := ih hm
        rw [hs] at hp
        rcases List.mem_cons.mp hp with rfl | hp
        · exact ⟨y :: piece,by simp,by simp [hxp]⟩
        · exact ⟨piece,by simp [hp],hxp⟩

def splitTerminator (d : A) (xs : List A) : List (List A) :=
  let pieces := xs.splitOn d
  if pieces.getLast? = some [] then pieces.dropLast else pieces

theorem splitOn_append_tail {d : A} (xs b : List A) (h : d ∉ b) :
    ∃ front last, xs.splitOn d = front ++ [last] ∧ (xs ++ b).splitOn d = front ++ [last ++ b] := by
  induction xs with
  | nil => exact ⟨[],[],by simp,by simpa using List.splitOn_eq_singleton h⟩
  | cons x xs ih =>
    obtain ⟨front,last,hf,hb⟩ := ih
    by_cases hx : x = d
    · exact ⟨[] :: front,last,by simp [List.splitOn_cons_eq_if_modifyHead,hx,hf],
        by simp [List.splitOn_cons_eq_if_modifyHead,hx,hb]⟩
    · obtain ⟨f,fs,hs,hc⟩ := splitOn_cons hx xs
      obtain ⟨g,gs,ht,hd⟩ := splitOn_cons hx (xs ++ b)
      rw [hs] at hf
      rw [ht] at hb
      rw [List.cons_append,hc,hd]
      cases front with
      | nil =>
        obtain ⟨hf,hfs⟩ := List.cons.inj hf
        obtain ⟨hg,hgs⟩ := List.cons.inj hb
        exact ⟨[],x :: last,by simp [hf,hfs],by simp [hg,hgs]⟩
      | cons e front =>
        obtain ⟨hf,hfs⟩ := List.cons.inj hf
        obtain ⟨hg,hgs⟩ := List.cons.inj hb
        exact ⟨(x :: e) :: front,last,by simp [hf,hfs],by simp [hg,hgs]⟩

theorem map_trim_splitOn_append {d : A} (a xs b : List A) (hd : ¬ p d)
    (ha : ∀ x ∈ a, p x) (hb : ∀ x ∈ b, p x) :
    ((a ++ xs ++ b).splitOn d).map (trim p) = (xs.splitOn d).map (trim p) := by
  have hdb : d ∉ b := fun h => hd (hb d h)
  obtain ⟨front,last,hf,hl⟩ := splitOn_append_tail (a ++ xs) b hdb
  have tail : ((a ++ xs ++ b).splitOn d).map (trim p) = ((a ++ xs).splitOn d).map (trim p) := by
    have ht := trim_append_of_all p [] last b (by simp) hb
    simp only [List.nil_append] at ht
    rw [hl,hf]
    simp [ht]
  rw [tail]
  clear tail hf hl
  induction a with
  | nil => rfl
  | cons x a ih =>
    have hx : p x := ha x (by simp)
    have hxd : x ≠ d := fun h => hd (h ▸ hx)
    obtain ⟨f,front,hs,hc⟩ := splitOn_cons hxd (a ++ xs)
    have ht := trim_append_of_all p [x] f [] (by simpa using hx) (by simp)
    rw [← ih (fun y hy => ha y (by simp [hy])),List.cons_append,hc,hs]
    simpa using ht

end Pieces

end Delimiter
