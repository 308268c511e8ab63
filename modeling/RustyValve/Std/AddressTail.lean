import RustyValve.Std.NetParser
import Mathlib.Data.List.Chain

namespace RustyValve.NetParser

section Tail
variable {A B : Type}

-- The reader does not notice what is written after a text.
def Stops (tail : Str) (read : Reader A) : Prop :=
  ∀ s, read (s ++ tail) = (read s).map (fun p => (p.1,p.2 ++ tail))

variable {tail : Str}

theorem stops_yields (a : A) : Stops tail (yields a) := fun _ => rfl

theorem stops_andThen {read : Reader A} {next : A → Reader B} (hr : Stops tail read)
    (hn : ∀ a, Stops tail (next a)) : Stops tail (andThen read next) := by
  intro s
  simp only [andThen,hr s]
  cases read s with
  | none => rfl
  | some p => exact hn p.1 p.2

variable {c : Char} {d : Str}

theorem stops_readGivenChar {sep : Char} (h : c ≠ sep) : Stops (c :: d) (readGivenChar sep) := by
  intro s
  cases s with
  | nil => simp [readGivenChar,h]
  | cons x s =>
    by_cases hx : x = sep
    · simp [readGivenChar,hx]
    · simp [readGivenChar,hx]

theorem takeWhile_append_of_not {p : Char → Bool} (h : ¬ p c) (s : Str) :
    (s ++ c :: d).takeWhile p = s.takeWhile p ∧
      (s ++ c :: d).dropWhile p = s.dropWhile p ++ c :: d := by
  induction s with
  | nil => simp [h]
  | cons x s ih =>
    by_cases hx : p x
    · simpa [hx] using ih
    · simp [hx]

theorem stops_readNumber {radix : ℕ} (h : ¬ isDigitOf radix c) (maxDigits bound : ℕ) (z : Bool) :
    Stops (c :: d) (readNumber radix maxDigits bound z) := by
  intro s
  obtain ⟨ht,hr⟩ := takeWhile_append_of_not (d := d) h s
  simp only [readNumber,ht,hr]
  split <;> rfl

theorem stops_readSeparator {sep : Char} (h : c ≠ sep) (index : ℕ) {inner : Reader A}
    (hi : Stops (c :: d) inner) : Stops (c :: d) (readSeparator sep index inner) := by
  unfold readSeparator
  split
  · exact hi
  · exact stops_andThen (stops_readGivenChar h) (fun _ => hi)

theorem stops_readOctets (h : c ≠ '.') (hd : ¬ isDigitOf 10 c) (index n : ℕ) :
    Stops (c :: d) (readOctets index n) := by
  induction n generalizing index with
  | zero => exact stops_yields []
  | succ n ih =>
    apply stops_andThen
    · exact stops_readSeparator h index (stops_readNumber hd _ _ _)
    · exact fun _ => stops_andThen (ih _) (fun _ => stops_yields _)

theorem stops_readIpv4Addr (d : Str) : Stops (':' :: d) readIpv4Addr :=
  stops_readOctets (by decide) (by decide) 0 4

theorem stops_readGroup (d : Str) : Stops (':' :: d) (readNumber 16 4 65535 true) :=
  stops_readNumber (by decide) _ _ _

-- At the end of the text another separator is another group.
theorem separator_append {inner : Reader A} (hi : Stops (':' :: d) inner) {index : ℕ} {s : Str}
    (h : s = [] → index = 0) :
    readSeparator ':' index inner (s ++ ':' :: d) =
      (readSeparator ':' index inner s).map (fun p => (p.1,p.2 ++ ':' :: d)) := by
  by_cases h0 : index = 0
  · simp only [readSeparator,h0,if_true]
    exact hi s
  · obtain ⟨x,s,rfl⟩ := List.exists_cons_of_ne_nil (fun he => h0 (h he))
    simp only [readSeparator,h0,if_false,andThen,List.cons_append,readGivenChar]
    split
    · exact hi s
    · rfl

end Tail

section Digits

theorem foldl_digits_lt {A : Type} {radix : ℕ} {value : A → ℕ} {ds : List A}
    (h : ∀ d ∈ ds, value d < radix) :
    ds.foldl (fun n d => radix * n + value d) 0 < radix ^ ds.length := by
  induction ds using List.reverseRecOn with
  | nil => simp
  | append_singleton ds d ih =>
    have hv := h d (by simp)
    have hl := ih (fun x hx => h x (by simp [hx]))
    rw [List.foldl_append,List.foldl_cons,List.foldl_nil,List.length_append,List.length_singleton,
      pow_succ,mul_comm _ radix]
    calc radix * ds.foldl (fun n d => radix * n + value d) 0 + value d
        < radix * (ds.foldl (fun n d => radix * n + value d) 0 + 1) := by rw [Nat.mul_succ]; omega
      _ ≤ radix * radix ^ ds.length := Nat.mul_le_mul_left radix hl

theorem digitValue_lt {c : Char} (h : c.isDigit) : digitValue c < 10 := by
  have hr := isDigit_range h
  have h0 : '0'.toNat = 48 := rfl
  simp only [digitValue,h,if_true,h0]
  omega

theorem isDigitOf_of_isDigit {c : Char} (h : c.isDigit) : isDigitOf 16 c :=
  decide_eq_true (Nat.lt_of_lt_of_le (digitValue_lt h) (by decide))

def groupValue (d : Str) : ℕ := d.foldl (fun n c => 16 * n + digitValue c) 0

variable {d : Str}

theorem readGroup_digits (hd : ∀ c ∈ d, c.isDigit) (hne : d ≠ []) :
    readNumber 16 4 65535 true d = if d.length ≤ 4 then some (groupValue d,[]) else none := by
  have hall : ∀ c ∈ d, isDigitOf 16 c := fun c hc => isDigitOf_of_isDigit (hd c hc)
  have hv : groupValue d < 16 ^ d.length :=
    foldl_digits_lt (fun c hc => of_decide_eq_true (hall c hc))
  have hl : d.length ≠ 0 := fun h => hne (List.length_eq_zero_iff.mp h)
  simp only [readNumber,List.takeWhile_eq_self_iff.mpr hall,List.dropWhile_eq_nil_iff.mpr hall,
    Bool.not_true,Bool.false_and,Bool.false_eq_true,or_false,hl,false_or]
  change (if 4 < d.length ∨ 65535 < groupValue d then none else some (groupValue d,[])) = _
  by_cases h4 : d.length ≤ 4
  · have h5 : groupValue d < 16 ^ 4 := lt_of_lt_of_le hv (Nat.pow_le_pow_right (by decide) h4)
    rw [if_pos h4,if_neg (by omega)]
  · rw [if_neg h4,if_pos (by omega)]

theorem readIpv4Addr_without_dot {s : Str} (h : '.' ∉ s) : readIpv4Addr s = none := by
  have later (index n : ℕ) {r : Str} (hr : '.' ∉ r) : readOctets (index + 1) (n + 1) r = none := by
    cases r with
    | nil => simp [readOctets,readSeparator,andThen,readGivenChar]
    | cons x r =>
      have hx : x ≠ '.' := fun he => hr (by simp [he])
      simp [readOctets,readSeparator,andThen,readGivenChar,hx]
  have hr : '.' ∉ s.dropWhile (isDigitOf 10) := fun hm => h ((List.dropWhile_suffix _).subset hm)
  simp only [readIpv4Addr,readOctets,readSeparator,if_true,andThen,readNumber]
  split
  · rfl
  · exact (congrArg (Option.bind · _) (later 0 2 hr)).trans rfl

theorem digits_without_dot (hd : ∀ c ∈ d, c.isDigit) : '.' ∉ d := fun h => absurd (hd _ h) (by decide)

end Digits

section Groups
variable {d : Str}

-- The groups were read to the end of the text, and one more has room and a separator before it.
def GoesOn (d : Str) (index n : ℕ) (r : (List ℕ × Bool) × Str) : Prop :=
  r.2 = [] ∧ r.1.2 = false ∧ r.1.1.length < n ∧ 0 < index + r.1.1.length ∧ d.length ≤ 4

instance (d : Str) (index n : ℕ) (r : (List ℕ × Bool) × Str) : Decidable (GoesOn d index n r) := by
  unfold GoesOn
  infer_instance

theorem goesOn_cons {index n group : ℕ} {groups : List ℕ} {ipv4 : Bool} {rest : Str} :
    GoesOn d index (n + 1) ((group :: groups,ipv4),rest) ↔
      GoesOn d (index + 1) n ((groups,ipv4),rest) := by
  simp only [GoesOn,List.length_cons,Nat.succ_lt_succ_iff]
  have hp : 0 < index + (groups.length + 1) ↔ 0 < index + 1 + groups.length := by omega
  rw [hp]

theorem readGroups_nil (index n : ℕ) : readGroups index n [] = (([],false),[]) := by
  cases n with
  | zero => rfl
  | succ n =>
    have h4 : readSeparator ':' index readIpv4Addr [] = none := by
      unfold readSeparator
      split <;> rfl
    have hg : readSeparator ':' index (readNumber 16 4 65535 true) [] = none := by
      unfold readSeparator
      split <;> rfl
    simp only [readGroups,h4,hg,ite_self]

def added (d : Str) (index n : ℕ) (r : (List ℕ × Bool) × Str) : (List ℕ × Bool) × Str :=
  if GoesOn d index n r then ((r.1.1 ++ [groupValue d],false),[]) else (r.1,r.2 ++ ':' :: d)

theorem added_cons (index n group : ℕ) (r : (List ℕ × Bool) × Str) :
    added d index (n + 1) ((group :: r.1.1,r.1.2),r.2) =
      ((group :: (added d (index + 1) n r).1.1,(added d (index + 1) n r).1.2),
        (added d (index + 1) n r).2) := by
  by_cases hgo : GoesOn d (index + 1) n r
  · rw [added,added,if_pos hgo,if_pos (goesOn_cons.mpr hgo)]
    rfl
  · rw [added,added,if_neg hgo,if_neg (fun h => hgo (goesOn_cons.mp h))]

theorem readGroups_colon (hd : ∀ c ∈ d, c.isDigit) (hne : d ≠ []) {index : ℕ} (h0 : index ≠ 0)
    (n : ℕ) : readGroups index (n + 1) (':' :: d) = added d index (n + 1) (([],false),[]) := by
  have h4 : readSeparator ':' index readIpv4Addr (':' :: d) = none := by
    simp only [readSeparator,h0,if_false,andThen,readGivenChar,if_true,Option.bind_some,
      readIpv4Addr_without_dot (digits_without_dot hd)]
  have hg : readSeparator ':' index (readNumber 16 4 65535 true) (':' :: d) =
      if d.length ≤ 4 then some (groupValue d,[]) else none := by
    simp only [readSeparator,h0,if_false,andThen,readGivenChar,if_true,Option.bind_some,
      readGroup_digits hd hne]
  by_cases hl : d.length ≤ 4
  · have hgo : GoesOn d index (n + 1) (([],false),[]) :=
      ⟨rfl,rfl,Nat.succ_pos n,Nat.pos_of_ne_zero h0,hl⟩
    simp only [readGroups,h4,hg,hl,ite_self,if_true,readGroups_nil,added,if_pos hgo,List.nil_append]
  · have hgo : ¬ GoesOn d index (n + 1) (([],false),[]) := fun h => hl h.2.2.2.2
    simp only [readGroups,h4,hg,hl,ite_self,if_false,added,if_neg hgo,List.nil_append]

theorem readGroups_append (hd : ∀ c ∈ d, c.isDigit) (hne : d ≠ []) (index n : ℕ) (s : Str) :
    readGroups index n (s ++ ':' :: d) = added d index n (readGroups index n s) := by
  induction n generalizing index s with
  | zero =>
    have hgo : ¬ GoesOn d index 0 (([],false),s) := fun h => absurd h.2.2.1 (Nat.not_lt_zero _)
    rw [readGroups,readGroups,added,if_neg hgo]
  | succ n ih =>
    by_cases he : s = [] → index = 0
    · have h4 := separator_append (stops_readIpv4Addr d) he
      have hg := separator_append (stops_readGroup d) he
      have hif : (if 1 ≤ n then readSeparator ':' index readIpv4Addr (s ++ ':' :: d) else none) =
          (if 1 ≤ n then readSeparator ':' index readIpv4Addr s else none).map
            (fun p => (p.1,p.2 ++ ':' :: d)) := by
        split
        · exact h4
        · rfl
      rw [readGroups,readGroups,hif,hg]
      cases (if 1 ≤ n then readSeparator ':' index readIpv4Addr s else none) with
      | some p =>
        have hgo {r : List ℕ} {rest : Str} : ¬ GoesOn d index (n + 1) ((r,true),rest) :=
          fun h => Bool.noConfusion h.2.1
        simp only [Option.map_some,added,if_neg hgo]
      | none =>
        cases readSeparator ':' index (readNumber 16 4 65535 true) s with
        | none =>
          have hgo : ¬ GoesOn d index (n + 1) (([],false),s) := by
            rintro ⟨hs,-,-,hp,-⟩
            rw [he hs] at hp
            exact Nat.lt_irrefl 0 hp
          simp only [Option.map_none,added,if_neg hgo]
        | some p =>
          obtain ⟨group,rest⟩ := p
          simp only [Option.map_none,Option.map_some,ih]
          exact (added_cons index n group _).symm
    · obtain ⟨rfl,h0⟩ := Classical.not_imp.mp he
      rw [readGroups_nil,List.nil_append]
      exact readGroups_colon hd hne h0 n

end Groups

section Gap

def Gapless (s : Str) : Prop := s.IsChain (fun a b => ¬ (a = ':' ∧ b = ':'))

theorem not_gapless (front back : Str) : ¬ Gapless (front ++ ':' :: ':' :: back) := fun h =>
  (List.isChain_append_cons_cons.mp h).2.1 ⟨rfl,rfl⟩

theorem gapless_cons {s : Str} (hs : Gapless s) (hh : s.head? ≠ some ':') (c : Char) :
    Gapless (c :: s) := by
  refine List.isChain_cons.mpr ⟨?_,hs⟩
  rintro y hy ⟨-,rfl⟩
  exact hh hy

structure Piece (s : Str) : Prop where
  nonempty : s ≠ []
  no_colon : ':' ∉ s

theorem gapless_piece_append {piece s : Str} (hp : Piece piece) (hs : Gapless s) :
    Gapless (piece ++ s) := by
  obtain ⟨-,hc⟩ := hp
  induction piece with
  | nil => exact hs
  | cons x piece ih =>
    refine List.isChain_cons.mpr ⟨?_,ih (fun hm => hc (List.mem_cons_of_mem x hm))⟩
    rintro y - ⟨rfl,-⟩
    exact hc List.mem_cons_self

theorem head?_piece_append {piece : Str} (hp : Piece piece) (s : Str) :
    (piece ++ s).head? ≠ some ':' := by
  obtain ⟨x,piece,rfl⟩ := List.exists_cons_of_ne_nil hp.nonempty
  intro h
  exact hp.no_colon (by simp [Option.some.inj h])

variable {A B : Type}

def Advances (read : Reader A) : Prop := ∀ s v rest, read s = some (v,rest) → rest.length < s.length

theorem advances_readNumber (radix maxDigits bound : ℕ) (z : Bool) :
    Advances (readNumber radix maxDigits bound z) := by
  intro s v rest h
  have hl := congrArg List.length (List.takeWhile_append_dropWhile (p := isDigitOf radix) (l := s))
  simp only [readNumber] at h
  split at h
  case isTrue => cases h
  case isFalse hn =>
    obtain ⟨-,rfl⟩ := Prod.mk.inj (Option.some.inj h)
    rw [List.length_append] at hl
    have h0 := (not_or.mp hn).1
    omega

theorem advances_andThen {read : Reader A} {next : A → Reader B} (hr : Advances read)
    (hn : ∀ a, Consumes (next a)) : Advances (andThen read next) := by
  intro s v rest h
  simp only [andThen,Option.bind_eq_some_iff] at h
  obtain ⟨⟨a,mid⟩,ha,hb⟩ := h
  obtain ⟨used,rfl,-⟩ := hn a mid v rest hb
  have hl := hr s a _ ha
  rw [List.length_append] at hl
  omega

theorem advances_readIpv4Addr : Advances readIpv4Addr :=
  advances_andThen (advances_readNumber 10 3 255 false)
    (fun _ => consumes_andThen (consumes_readOctets 1 3) (fun _ => consumes_yields _))

theorem piece_of_read {read : Reader A} (hc : Consumes read) (hs : ∀ d, Stops (':' :: d) read)
    (ha : Advances read) {s : Str} {v : A} {rest : Str} (h : read s = some (v,rest)) :
    ∃ piece, s = piece ++ rest ∧ Piece piece := by
  obtain ⟨piece,he,-⟩ := hc s v rest h
  have hne : piece ≠ [] := by
    rintro rfl
    have hl := ha s v rest h
    rw [he] at hl
    exact Nat.lt_irrefl _ hl
  refine ⟨piece,he,hne,fun hm => ?_⟩
  obtain ⟨front,back,rfl,hf⟩ := List.eq_append_cons_of_mem hm
  rw [he,List.append_assoc,List.cons_append,hs,Option.map_eq_some_iff] at h
  obtain ⟨⟨w,mid⟩,hw,hp⟩ := h
  obtain ⟨used,hu,-⟩ := hc front w mid hw
  have hl := congrArg List.length (Prod.mk.inj hp).2
  simp only [List.length_append,List.length_cons] at hl
  omega

theorem gapless_separator {inner : Reader A} (hc : Consumes inner)
    (hs : ∀ d, Stops (':' :: d) inner) (ha : Advances inner) {index : ℕ} {s : Str} {v : A}
    {rest : Str} (h : readSeparator ':' index inner s = some (v,rest)) :
    ∃ used, s = used ++ rest ∧ ∀ t, Gapless t → Gapless (used ++ t) := by
  unfold readSeparator at h
  split at h
  · obtain ⟨piece,he,hp⟩ := piece_of_read hc hs ha h
    exact ⟨piece,he,fun t ht => gapless_piece_append hp ht⟩
  · simp only [andThen,Option.bind_eq_some_iff] at h
    obtain ⟨⟨⟨⟩,mid⟩,hsep,h⟩ := h
    obtain ⟨piece,rfl,hp⟩ := piece_of_read hc hs ha h
    obtain ⟨x,s,rfl⟩ := List.exists_cons_of_ne_nil (l := s) (by rintro rfl; cases hsep)
    simp only [readGivenChar] at hsep
    split at hsep
    · rename_i hx
      obtain ⟨-,rfl⟩ := Prod.mk.inj (Option.some.inj hsep)
      refine ⟨x :: piece,rfl,fun t ht => ?_⟩
      exact gapless_cons (gapless_piece_append hp ht) (head?_piece_append hp t) x
    · cases hsep

theorem readGroups_gapless (index n : ℕ) (s : Str) :
    ∃ used, s = used ++ (readGroups index n s).2 ∧ Gapless used := by
  induction n generalizing index s with
  | zero => exact ⟨[],rfl,.nil⟩
  | succ n ih =>
    rw [readGroups]
    split
    case h_1 octets rest hr =>
      split at hr
      · obtain ⟨used,he,hg⟩ := gapless_separator (consumes_readOctets 0 4) stops_readIpv4Addr
          advances_readIpv4Addr hr
        exact ⟨used,he,by simpa using hg [] .nil⟩
      · cases hr
    case h_2 =>
      split
      case h_1 group rest hr =>
        obtain ⟨used,he,hg⟩ := gapless_separator (consumes_readNumber (by decide) _ _ _)
          stops_readGroup (advances_readNumber _ _ _ _) hr
        obtain ⟨more,hm,hg'⟩ := ih (index + 1) rest
        exact ⟨used ++ more,by rw [List.append_assoc,← hm,he],hg more hg'⟩
      case h_2 => exact ⟨[],rfl,.nil⟩

end Gap

section Address

inductive Ipv6Text (s : Str) : Prop
  | full {groups : List ℕ} {ipv4 : Bool} : readGroups 0 8 s = ((groups,ipv4),[]) →
      groups.length = 8 → Ipv6Text s
  | compressed {head tail : List ℕ} {ipv4 : Bool} {back : Str} :
      readGroups 0 8 s = ((head,false),':' :: ':' :: back) → head.length ≠ 8 →
      readGroups 0 (8 - (head.length + 1)) back = ((tail,ipv4),[]) → Ipv6Text s

theorem readGivenChar_eq_some {c : Char} {s rest : Str} {u : Unit} :
    readGivenChar c s = some (u,rest) ↔ s = c :: rest := by
  cases s with
  | nil => simp [readGivenChar]
  | cons x s =>
    simp only [readGivenChar,Option.ite_none_right_eq_some,Option.some.injEq,Prod.mk.injEq,
      true_and,List.cons.injEq]

theorem readSeparator_without_colon {A : Type} (index : ℕ) (inner : Reader A) {s : Str}
    (h : ':' ∉ s) : readSeparator ':' (index + 1) inner s = none := by
  cases s with
  | nil => rfl
  | cons x s =>
    have hx : x ≠ ':' := fun he => h (by simp [he])
    simp only [readSeparator,Nat.succ_ne_zero,if_false,andThen,readGivenChar,hx]
    rfl

theorem readGroups_without_colon (index n : ℕ) {s : Str} (h : ':' ∉ s) :
    readGroups (index + 1) n s = (([],false),s) := by
  cases n with
  | zero => rfl
  | succ n => simp only [readGroups,readSeparator_without_colon index _ h,ite_self]

-- One group, or the two of an embedded IPv4 address.
theorem groups_without_colon {s : Str} (h : ':' ∉ s) (n : ℕ) :
    (readGroups 0 (n + 1) s).1.1.length ≤ 2 := by
  rw [readGroups]
  split
  case h_1 => exact Nat.le_refl 2
  case h_2 =>
    split
    case h_1 group rest hr =>
      obtain ⟨used,rfl,-⟩ := consumes_readNumber (by decide) _ _ _ s group rest hr
      rw [readGroups_without_colon 0 n (fun hm => h (List.mem_append_right used hm))]
      exact Nat.le_succ 1
    case h_2 => exact Nat.zero_le 2

theorem colon_of_ipv6 {s : Str} (h : Ipv6Text s) : ':' ∈ s := by
  by_contra hc
  rcases h with ⟨hr,h8⟩ | ⟨hr,-,-⟩
  · have hl := groups_without_colon hc 7
    rw [hr] at hl
    exact absurd (h8 ▸ hl) (by decide)
  · obtain ⟨used,hu,-⟩ := readGroups_gapless 0 8 s
    rw [hr] at hu
    exact hc (by rw [hu]; simp)

theorem readIpv6Addr_whole (s : Str) : (∃ groups, readIpv6Addr s = some (groups,[])) ↔ Ipv6Text s := by
  constructor
  · rintro ⟨groups,h⟩
    rcases hr : readGroups 0 8 s with ⟨⟨head,headIpv4⟩,rest⟩
    simp only [readIpv6Addr,andThen,hr,Option.bind_some] at h
    by_cases h8 : head.length = 8
    · rw [if_pos h8] at h
      obtain ⟨-,rfl⟩ := Prod.mk.inj (Option.some.inj h)
      exact .full hr h8
    · rw [if_neg h8] at h
      cases headIpv4 with
      | true => cases h
      | false =>
        simp only [Bool.false_eq_true,if_false,andThen,Option.bind_eq_some_iff,Prod.exists,
          readGivenChar_eq_some,yields,Option.some.injEq,Prod.mk.injEq] at h
        obtain ⟨-,_,rfl,-,back,rfl,tail,ipv4,rest,hb,-,rfl⟩ := h
        exact .compressed hr h8 hb
  · rintro (⟨hr,h8⟩ | ⟨hr,h8,hb⟩)
    · exact ⟨_,by simp only [readIpv6Addr,andThen,hr,Option.bind_some,h8,if_true]; rfl⟩
    · exact ⟨_,by
        simp only [readIpv6Addr,andThen,hr,Option.bind_some,h8,if_false,Bool.false_eq_true,
          readGivenChar,if_true,hb]
        rfl⟩

theorem ipAddr_isSome {s : Str} : (ipAddrFromStr s).isSome ↔
    (∃ octets, readIpv4Addr s = some (octets,[])) ∨ readIpv4Addr s = none ∧ Ipv6Text s := by
  rw [← readIpv6Addr_whole]
  cases h4 : readIpv4Addr s with
  | some p =>
    obtain ⟨octets,rest⟩ := p
    by_cases hr : rest = [] <;> simp [ipAddrFromStr,h4,hr]
  | none =>
    cases h6 : readIpv6Addr s with
    | none => simp [ipAddrFromStr,h4,h6]
    | some p =>
      obtain ⟨groups,rest⟩ := p
      by_cases hr : rest = [] <;> simp [ipAddrFromStr,h4,h6,hr]

variable {d p : Str}

theorem added_cases {index n : ℕ} {r : (List ℕ × Bool) × Str} {groups : List ℕ × Bool} {rest : Str}
    (h : added d index n r = (groups,rest)) :
    GoesOn d index n r ∧ rest = [] ∨ r.1 = groups ∧ rest = r.2 ++ ':' :: d := by
  unfold added at h
  split at h
  case isTrue hgo => exact .inl ⟨hgo,(Prod.mk.inj h).2.symm⟩
  case isFalse =>
    obtain ⟨rfl,rfl⟩ := Prod.mk.inj h
    exact .inr ⟨rfl,rfl⟩

-- An address that stays one when a last group is written after it.
structure OneMore (d p : Str) : Prop where
  text : Ipv6Text p
  gap : ∃ front back, p = front ++ ':' :: ':' :: back ∧ back ≠ []
  short : d.length ≤ 4

theorem before_last_group (hd : ∀ c ∈ d, c.isDigit) (hne : d ≠ []) (h : Ipv6Text (p ++ ':' :: d)) :
    GoesOn d 0 8 (readGroups 0 8 p) ∨ (readGroups 0 8 p).2 = [':'] ∨ OneMore d p := by
  rcases h with ⟨hr,-⟩ | @⟨head,tail,ipv4,back,hr,h8,hb⟩
  · rw [readGroups_append hd hne] at hr
    rcases added_cases hr with ⟨hgo,-⟩ | ⟨-,he⟩
    · exact .inl hgo
    · simp at he
  · rw [readGroups_append hd hne] at hr
    rcases added_cases hr with ⟨-,he⟩ | ⟨hg,he⟩
    · cases he
    · obtain ⟨used,hp,-⟩ := readGroups_gapless 0 8 p
      rcases hread : readGroups 0 8 p with ⟨groups,rest⟩
      rw [hread] at hg he hp
      obtain rfl : groups = (head,false) := hg
      match rest with
      | [] =>
        obtain rfl : ':' :: back = d := (List.cons.inj he).2
        exact absurd (hd ':' List.mem_cons_self) (by decide)
      | [c] =>
        obtain rfl : ':' = c := (List.cons.inj he).1
        exact .inr (.inl rfl)
      | c :: c' :: more =>
        simp only [List.cons_append,List.cons.injEq] at he
        obtain ⟨rfl,rfl,rfl⟩ := he
        rw [readGroups_append hd hne] at hb
        rcases added_cases hb with ⟨⟨hrest,-,-,hpos,hshort⟩,-⟩ | ⟨-,he⟩
        · refine .inr (.inr ⟨.compressed hread h8 (Prod.ext rfl hrest),⟨used,more,hp,?_⟩,hshort⟩)
          rintro rfl
          rw [readGroups_nil] at hpos
          exact Nat.lt_irrefl 0 hpos
        · simp at he

theorem ipv6_of_last_group (h : (ipAddrFromStr (p ++ ':' :: d)).isSome) :
    readIpv4Addr p = none ∧ Ipv6Text (p ++ ':' :: d) := by
  rcases ipAddr_isSome.mp h with ⟨octets,h4⟩ | ⟨h4,h6⟩
  · rw [stops_readIpv4Addr,Option.map_eq_some_iff] at h4
    obtain ⟨⟨octets,rest⟩,-,he⟩ := h4
    simp at he
  · rw [stops_readIpv4Addr,Option.map_eq_none_iff] at h4
    exact ⟨h4,h6⟩

theorem address_before_last_group (hd : ∀ c ∈ d, c.isDigit) (hne : d ≠ [])
    (h : (ipAddrFromStr (p ++ ':' :: d)).isSome) (hp : (ipAddrFromStr p).isSome) :
    ∃ front back, p = front ++ ':' :: ':' :: back ∧ back ≠ [] := by
  obtain ⟨h4,h6⟩ := ipv6_of_last_group h
  have hpt : Ipv6Text p := by
    rcases ipAddr_isSome.mp hp with ⟨octets,ho⟩ | ⟨-,hpt⟩
    · rw [h4] at ho
      cases ho
    · exact hpt
  rcases before_last_group hd hne h6 with ⟨hrest,-,hl,-⟩ | hrest | hmore
  · rcases hpt with ⟨hr,h8⟩ | ⟨hr,-,-⟩
    · rw [hr] at hl
      exact absurd h8 (Nat.ne_of_lt hl)
    · rw [hr] at hrest
      cases hrest
  · rcases hpt with ⟨hr,-⟩ | ⟨hr,-,-⟩ <;> rw [hr] at hrest <;> cases hrest
  · exact hmore.gap

theorem oneMore_of_gap (hd : ∀ c ∈ d, c.isDigit) (hne : d ≠ [])
    (h : (ipAddrFromStr (p ++ ':' :: d)).isSome) {front back : Str}
    (hp : p = front ++ ':' :: ':' :: back) (hb : back ≠ []) : OneMore d p := by
  obtain ⟨used,hu,hg⟩ := readGroups_gapless 0 8 p
  rcases before_last_group hd hne (ipv6_of_last_group h).2 with ⟨hrest,-⟩ | hrest | hmore
  · rw [hrest,List.append_nil] at hu
    rw [← hu,hp] at hg
    exact absurd hg (not_gapless front back)
  · obtain ⟨back,c,rfl⟩ := List.eq_nil_or_concat' back |>.resolve_left hb
    have he : used = front ++ ':' :: ':' :: back := by
      have hcat : used ++ [':'] = (front ++ ':' :: ':' :: back) ++ [c] := by
        rw [← hrest,← hu,hp]
        simp
      exact (List.append_inj' hcat rfl).1
    rw [he] at hg
    exact absurd hg (not_gapless front back)
  · exact hmore

theorem not_first_group (hd : ∀ c ∈ d, c.isDigit) (hne : d ≠ []) :
    ¬ (ipAddrFromStr (':' :: d)).isSome := by
  intro h
  have h6 : Ipv6Text ([] ++ ':' :: d) := (ipv6_of_last_group h).2
  rcases before_last_group hd hne h6 with hgo | hrest | ⟨-,⟨front,back,hp,-⟩,-⟩
  · rw [readGroups_nil] at hgo
    exact Nat.lt_irrefl 0 hgo.2.2.2.1
  · rw [readGroups_nil] at hrest
    cases hrest
  · simp at hp

theorem OneMore.isSome (h : OneMore d p) (h4 : readIpv4Addr p = none) : (ipAddrFromStr p).isSome :=
  ipAddr_isSome.mpr (.inr ⟨h4,h.text⟩)

end Address

end RustyValve.NetParser
