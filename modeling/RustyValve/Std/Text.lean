import RustyValve.Library.Delimiter

namespace RustyValve

abbrev Str := List Char

-- The White_Space code points: `trim` is Unicode-aware, Lean's `Char.isWhitespace` is not.
def isWhitespace (c : Char) : Bool :=
  let n := c.toNat
  (9 ≤ n && n ≤ 13) || n == 0x20 || n == 0x85 || n == 0xA0 || n == 0x1680 ||
    (0x2000 ≤ n && n ≤ 0x200A) || n == 0x2028 || n == 0x2029 || n == 0x202F ||
    n == 0x205F || n == 0x3000

def trim (s : Str) : Str := Delimiter.trim isWhitespace s

def toAsciiLowercase (s : Str) : Str := s.map Char.toLower

def eqIgnoreAsciiCase (a b : Str) : Bool := toAsciiLowercase a == toAsciiLowercase b

def startsWith (s pat : Str) : Bool := pat.isPrefixOf s

def deleteBrackets (s : Str) : Str := (s.filter (· ≠ '[')).filter (· ≠ ']')

theorem deleteBrackets_eq (s : Str) : deleteBrackets s = s.filter (fun c => c ≠ '[' ∧ c ≠ ']') := by
  simp [deleteBrackets,List.filter_filter,Bool.and_comm]

def decimalValue (ds : Str) : ℕ := ds.foldl (fun n c => 10 * n + (c.toNat - '0'.toNat)) 0

def decimal (bound : ℕ) (ds : Str) : Option ℕ :=
  if ds ≠ [] ∧ ds.all Char.isDigit ∧ decimalValue ds ≤ bound then some (decimalValue ds) else none

-- `from_str` of the unsigned integers: one leading '+' is skipped, a lone '+' is not a number.
def unsignedFromStr (bound : ℕ) (s : Str) : Option ℕ :=
  match s with
  | '+' :: ds => decimal bound ds
  | ds => decimal bound ds

theorem decimal_all_digits {bound n : ℕ} {ds : Str} (h : decimal bound ds = some n) :
    ∀ c ∈ ds, c.isDigit := by
  unfold decimal at h
  split at h
  case isTrue hc => simpa using hc.2.1
  case isFalse => cases h

theorem unsigned_chars {bound n : ℕ} {s : Str} (h : unsignedFromStr bound s = some n) :
    ∀ c ∈ s, c = '+' ∨ c.isDigit := by
  unfold unsignedFromStr at h
  split at h
  · intro c hc
    rcases List.mem_cons.mp hc with rfl | hc
    · exact .inl rfl
    · exact .inr (decimal_all_digits h c hc)
  · exact fun c hc => .inr (decimal_all_digits h c hc)

def u16FromStr (s : Str) : Option UInt16 := (unsignedFromStr 65535 s).map UInt16.ofNat

def u64FromStr (s : Str) : Option UInt64 := (unsignedFromStr (UInt64.size - 1) s).map UInt64.ofNat

def boolFromStr (s : Str) : Option Bool :=
  if s = "true".toList then some true else if s = "false".toList then some false else none

theorem forall_char {p : Char → Prop} [DecidablePred p] {s : Str} (h : s.all (fun c => decide (p c))) :
    ∀ c ∈ s, p c := fun c hc => of_decide_eq_true (List.all_eq_true.mp h c hc)

-- What no number, address or service name contains, and the destination syntax gives a meaning.
def Separator (c : Char) : Prop := c = '|' ∨ c = ',' ∨ isWhitespace c

instance : DecidablePred Separator := fun c => by unfold Separator; infer_instance

theorem isDigit_range {c : Char} (h : c.isDigit) : 48 ≤ c.toNat ∧ c.toNat ≤ 57 := by
  simp only [Char.isDigit,Bool.and_eq_true,decide_eq_true_eq,ge_iff_le,UInt32.le_iff_toNat_le] at h
  exact h

theorem digit_not_separator {c : Char} (h : c.isDigit) : ¬ Separator c := by
  have hn := isDigit_range h
  rintro (rfl | rfl | hw)
  · exact absurd hn (by decide)
  · exact absurd hn (by decide)
  · simp only [isWhitespace,Bool.or_eq_true,Bool.and_eq_true,decide_eq_true_eq,beq_iff_eq] at hw
    omega

structure Padding where
  text : Str
  blank : ∀ c ∈ text, c = ' ' ∨ c = '\t'

namespace Padding

def none : Padding := ⟨[],by simp⟩

theorem space_blank : ∀ c ∈ [' '], c = ' ' ∨ c = '\t' := by simp

theorem whitespace (w : Padding) : ∀ c ∈ w.text, isWhitespace c := fun c hc => by
  rcases w.blank c hc with rfl | rfl <;> decide

theorem not_mem (w : Padding) {c : Char} (hc : ¬ isWhitespace c) : c ∉ w.text :=
  fun h => hc (w.whitespace c h)

theorem trim_between (w : Padding) (s : Str) (w' : Padding) :
    trim (w.text ++ s ++ w'.text) = trim s :=
  Delimiter.trim_append_of_all isWhitespace w.text s w'.text w.whitespace w'.whitespace

end Padding

theorem u16_rejects {s : Str} {c : Char} (hc : c ∈ s) (hs : Separator c) : u16FromStr s = none := by
  cases h : unsignedFromStr 65535 s with
  | none => simp [u16FromStr,h]
  | some n =>
    rcases unsigned_chars h c hc with rfl | hd
    · exact absurd hs (by decide)
    · exact absurd hs (digit_not_separator hd)

end RustyValve
