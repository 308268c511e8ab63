import RustyValve.Std.AddressTail

namespace RustyValve

section Decimal

theorem isDigit_toDigits {n : ℕ} {c : Char} (h : c ∈ Nat.toDigits 10 n) : c.isDigit :=
  Nat.isDigit_of_mem_toDigits (by decide) (by decide) h

-- Leading zeros change nothing.
def padded (width n : ℕ) : Str :=
  List.replicate (width - (Nat.toDigits 10 n).length) '0' ++ Nat.toDigits 10 n

theorem isDigit_padded {width n : ℕ} {c : Char} (h : c ∈ padded width n) : c.isDigit := by
  rcases List.mem_append.mp h with hz | hd
  · rw [List.eq_of_mem_replicate hz]
    decide
  · exact isDigit_toDigits hd

theorem length_padded {width n : ℕ} (h : (Nat.toDigits 10 n).length ≤ width) :
    (padded width n).length = width := by
  rw [padded,List.length_append,List.length_replicate,Nat.sub_add_cancel h]

theorem unsignedFromStr_padded {bound width n : ℕ} (h : n ≤ bound) :
    unsignedFromStr bound (padded width n) = some n := by
  have hv : decimalValue (padded width n) = n := by
    have hz : Nat.ofDigitChars 10 (padded width n) 0 = n := by
      rw [padded,Nat.ofDigitChars_append,Nat.ofDigitChars_replicate_zero,Nat.mul_zero,
        Nat.ofDigitChars_ten_toDigits]
    exact hz
  have hne : padded width n ≠ [] := fun he =>
    Nat.toDigits_ne_nil (List.append_eq_nil_iff.mp he).2
  have hall : (padded width n).all Char.isDigit := List.all_eq_true.mpr fun _ => isDigit_padded
  have hd : decimal bound (padded width n) = some n := by
    rw [decimal,hv,if_pos ⟨hne,hall,h⟩]
  unfold unsignedFromStr
  split
  case h_1 ds he =>
    exact absurd (isDigit_padded (he ▸ List.mem_cons_self : '+' ∈ padded width n)) (by decide)
  case h_2 => exact hd

theorem u16FromStr_padded (width : ℕ) (n : UInt16) : u16FromStr (padded width n.toNat) = some n := by
  rw [u16FromStr,unsignedFromStr_padded (Nat.le_of_lt_succ n.toNat_lt),Option.map_some,
    UInt16.ofNat_toNat]

theorem u64FromStr_padded (width : ℕ) (n : UInt64) : u64FromStr (padded width n.toNat) = some n := by
  have hn : n.toNat ≤ UInt64.size - 1 := Nat.le_of_lt_succ n.toNat_lt
  rw [u64FromStr,unsignedFromStr_padded hn,Option.map_some,UInt64.ofNat_toNat]

end Decimal

namespace NetParser

section Number
variable {radix n : ℕ}

theorem digitValue_digitChar {d : ℕ} (h : d < 16) : digitValue d.digitChar = d := by
  have hall : ∀ d < 16, digitValue d.digitChar = d := by decide
  exact hall d h

theorem isDigitOf_toDigits (hr : 1 < radix) (h16 : radix ≤ 16) {c : Char}
    (h : c ∈ Nat.toDigits radix n) : isDigitOf radix c := by
  induction n using Nat.base_induction radix hr with
  | single d hd =>
    rw [Nat.toDigits_of_lt_base hd,List.mem_singleton] at h
    rw [h,isDigitOf,digitValue_digitChar (Nat.lt_of_lt_of_le hd h16)]
    exact decide_eq_true hd
  | digit m d hd hm ih =>
    rw [← Nat.toDigits_append_toDigits hr hm hd,Nat.toDigits_of_lt_base hd,List.mem_append,
      List.mem_singleton] at h
    rcases h with h | rfl
    · exact ih h
    · rw [isDigitOf,digitValue_digitChar (Nat.lt_of_lt_of_le hd h16)]
      exact decide_eq_true hd

theorem foldl_toDigits (hr : 1 < radix) (h16 : radix ≤ 16) (n : ℕ) :
    (Nat.toDigits radix n).foldl (fun v c => radix * v + digitValue c) 0 = n := by
  induction n using Nat.base_induction radix hr with
  | single d hd =>
    rw [Nat.toDigits_of_lt_base hd]
    simp [digitValue_digitChar (Nat.lt_of_lt_of_le hd h16)]
  | digit m d hd hm ih =>
    rw [← Nat.toDigits_append_toDigits hr hm hd,Nat.toDigits_of_lt_base hd,List.foldl_append,ih]
    simp [digitValue_digitChar (Nat.lt_of_lt_of_le hd h16)]

theorem eq_zero_of_head?_toDigits (hr : 1 < radix) (h : (Nat.toDigits radix n).head? = some '0') :
    n = 0 := by
  induction n using Nat.base_induction radix hr with
  | single d hd =>
    rw [Nat.toDigits_of_lt_base hd,List.head?_cons,Option.some.injEq] at h
    exact Nat.digitChar_eq_zero.mp h
  | digit m d hd hm ih =>
    rw [← Nat.toDigits_append_toDigits hr hm hd,
      List.head?_append_of_ne_nil _ Nat.toDigits_ne_nil] at h
    exact absurd (ih h) hm.ne'

-- What a number stops at: the end of the text, or a character that is not one of its digits.
def Ends (radix : ℕ) (rest : Str) : Prop := ∀ c, rest.head? = some c → ¬ isDigitOf radix c

theorem readNumber_toDigits {maxDigits bound : ℕ} {z : Bool} (hr : 1 < radix) (h16 : radix ≤ 16)
    (hmax : 0 < maxDigits) (hlen : n < radix ^ maxDigits) (hn : n ≤ bound) {rest : Str}
    (he : Ends radix rest) :
    readNumber radix maxDigits bound z (Nat.toDigits radix n ++ rest) = some (n,rest) := by
  have halone : readNumber radix maxDigits bound z (Nat.toDigits radix n) = some (n,[]) := by
    have hall : ∀ c ∈ Nat.toDigits radix n, isDigitOf radix c := fun c => isDigitOf_toDigits hr h16
    have hl := (Nat.length_toDigits_le_iff hr hmax).mpr hlen
    have hz : ¬ ((Nat.toDigits radix n).head? = some '0' ∧ 1 < (Nat.toDigits radix n).length) := by
      rintro ⟨hh,h1⟩
      rw [eq_zero_of_head?_toDigits hr hh,Nat.toDigits_zero] at h1
      exact absurd h1 (by decide)
    simp only [readNumber,List.takeWhile_eq_self_iff.mpr hall,List.dropWhile_eq_nil_iff.mpr hall,
      foldl_toDigits hr h16 n]
    rw [if_neg]
    rintro (h0 | h | h | h)
    · exact Nat.toDigits_ne_nil (List.length_eq_zero_iff.mp h0)
    · exact absurd hl (Nat.not_le.mpr h)
    · exact absurd hn (Nat.not_le.mpr h)
    · simp only [Bool.and_eq_true,beq_iff_eq,decide_eq_true_eq] at h
      exact hz ⟨h.1.2,h.2⟩
  cases rest with
  | nil => rw [List.append_nil,halone]
  | cons c rest => rw [stops_readNumber (he c rfl),halone,Option.map_some,List.nil_append]

end Number

end NetParser

end RustyValve
