import Mathlib.Data.List.Basic
import Mathlib.Data.Nat.Bitwise

namespace Utf8

def encode (cs : List Char) : List UInt8 := cs.flatMap String.utf8EncodeChar

def decode (bs : List UInt8) : Option (List Char) :=
  (ByteArray.utf8Decode? ⟨bs.toArray⟩).map Array.toList

@[simp] theorem encode_nil : encode [] = [] := rfl

@[simp] theorem encode_cons (c : Char) (cs : List Char) :
    encode (c :: cs) = String.utf8EncodeChar c ++ encode cs := rfl

@[simp] theorem encode_append (a b : List Char) : encode (a ++ b) = encode a ++ encode b := by
  simp [encode]

theorem utf8Encode_eq (cs : List Char) : cs.utf8Encode = ⟨(encode cs).toArray⟩ := by
  apply ByteArray.ext
  simp [List.utf8Encode,encode]

theorem byteArray_inj {a b : List UInt8} (h : ByteArray.mk a.toArray = ByteArray.mk b.toArray) :
    a = b := by
  simpa using congrArg ByteArray.data h

theorem byteArray_append (a b : List UInt8) :
    ByteArray.mk (a ++ b).toArray = ByteArray.mk a.toArray ++ ByteArray.mk b.toArray := by
  apply ByteArray.ext
  simp

@[simp] theorem decode_encode (cs : List Char) : decode (encode cs) = some cs := by
  simp [decode,← utf8Encode_eq]

theorem decode_eq_some {bs : List UInt8} {cs : List Char} :
    decode bs = some cs ↔ bs = encode cs := by
  constructor
  · intro h
    simp only [decode,Option.map_eq_some_iff] at h
    obtain ⟨a,ha,rfl⟩ := h
    have hv : (ByteArray.utf8Decode? ⟨bs.toArray⟩).isSome := by simp [ha]
    obtain ⟨l,hl⟩ := ByteArray.isSome_utf8Decode?_iff.mp hv
    rw [hl,List.utf8Decode?_utf8Encode,Option.some.injEq] at ha
    rw [utf8Encode_eq] at hl
    rw [← ha]
    exact byteArray_inj hl
  · rintro rfl
    exact decode_encode cs

theorem encode_injective {a b : List Char} (h : encode a = encode b) : a = b := by
  have hd := congrArg decode h
  simpa using hd

theorem encode_prefix {a b : List Char} {u : List UInt8} (h : encode a ++ u = encode b) :
    ∃ r, b = a ++ r ∧ u = encode r := by
  have hp : a <+: b := by
    apply List.isPrefix_of_utf8Encode_append_eq_utf8Encode ⟨u.toArray⟩
    rw [utf8Encode_eq,utf8Encode_eq,← byteArray_append,h]
  obtain ⟨r,rfl⟩ := hp
  rw [encode_append] at h
  exact ⟨r,rfl,List.append_cancel_left h⟩

section Ascii

theorem utf8Size_eq_one {c : Char} : c.utf8Size = 1 ↔ c.toNat < 128 := by
  rw [Char.utf8Size_eq_one_iff,UInt32.le_iff_toNat_le]
  change c.toNat ≤ 127 ↔ _
  omega

theorem encodeChar_ascii {c : Char} (h : c.toNat < 128) :
    String.utf8EncodeChar c = [c.val.toUInt8] :=
  String.utf8EncodeChar_eq_singleton (utf8Size_eq_one.mpr h)

theorem high_of_or (x y : UInt8) (h : 128 ≤ y.toNat) : 128 ≤ (x ||| y).toNat := by
  rw [UInt8.toNat_or]
  exact h.trans Nat.right_le_or

theorem encodeChar_high {c : Char} (h : 128 ≤ c.toNat) :
    ∀ b ∈ String.utf8EncodeChar c, 128 ≤ b.toNat := by
  have h1 : c.utf8Size ≠ 1 := fun h1 => absurd (utf8Size_eq_one.mp h1) (by omega)
  have hpos := c.utf8Size_pos
  have hle := c.utf8Size_le_four
  obtain h2 | h3 | h4 : c.utf8Size = 2 ∨ c.utf8Size = 3 ∨ c.utf8Size = 4 := by omega
  · rw [String.utf8EncodeChar_eq_cons_cons h2]
    intro b hb
    simp only [List.mem_cons,List.not_mem_nil,or_false] at hb
    rcases hb with rfl | rfl <;> exact high_of_or _ _ (by decide)
  · rw [String.utf8EncodeChar_eq_cons_cons_cons h3]
    intro b hb
    simp only [List.mem_cons,List.not_mem_nil,or_false] at hb
    rcases hb with rfl | rfl | rfl <;> exact high_of_or _ _ (by decide)
  · rw [String.utf8EncodeChar_eq_cons_cons_cons_cons h4]
    intro b hb
    simp only [List.mem_cons,List.not_mem_nil,or_false] at hb
    rcases hb with rfl | rfl | rfl | rfl <;> exact high_of_or _ _ (by decide)

theorem ascii_byte_toNat {c : Char} (h : c.toNat < 128) : c.val.toUInt8.toNat = c.toNat := by
  rw [UInt32.toNat_toUInt8]
  exact Nat.mod_eq_of_lt (by change c.toNat < 2^8; omega)

theorem mem_encodeChar_ascii {c : Char} {b : UInt8} (hb : b.toNat < 128)
    (h : b ∈ String.utf8EncodeChar c) : c.toNat = b.toNat := by
  by_cases hc : c.toNat < 128
  · rw [encodeChar_ascii hc,List.mem_singleton] at h
    rw [h,ascii_byte_toNat hc]
  · have := encodeChar_high (by omega) b h
    omega

theorem mem_encode_ascii {cs : List Char} {d : Char} (hd : d.toNat < 128) :
    d.val.toUInt8 ∈ encode cs ↔ d ∈ cs := by
  simp only [encode,List.mem_flatMap]
  constructor
  · rintro ⟨c,hc,hb⟩
    have hn := mem_encodeChar_ascii (by rw [ascii_byte_toNat hd]; exact hd) hb
    rw [ascii_byte_toNat hd] at hn
    rwa [← Char.toNat_inj.mp hn]
  · intro h
    exact ⟨d,h,by simp [encodeChar_ascii hd]⟩

theorem encode_eq_append_ascii {cs : List Char} {d : Char} {t : List UInt8}
    (hd : d.toNat < 128) (h : t ++ [d.val.toUInt8] = encode cs) :
    ∃ w, cs = w ++ [d] ∧ t = encode w := by
  rcases List.eq_nil_or_concat cs with rfl | ⟨w,c,rfl⟩
  · simp at h
  · have hlast : d.val.toUInt8 ∈ String.utf8EncodeChar c := by
      have hl := congrArg List.getLast? h
      have hne : String.utf8EncodeChar c ≠ [] := by
        rw [← List.length_pos_iff,String.length_utf8EncodeChar]
        exact c.utf8Size_pos
      simp only [List.getLast?_append,List.getLast?_singleton,Option.some_or,List.concat_eq_append,
        encode_append,encode_cons,encode_nil,List.append_nil] at hl
      rw [List.getLast?_eq_some_getLast hne,Option.some_or,Option.some.injEq] at hl
      exact hl ▸ List.getLast_mem hne
    have hn := mem_encodeChar_ascii (by rw [ascii_byte_toNat hd]; exact hd) hlast
    rw [ascii_byte_toNat hd] at hn
    obtain rfl := Char.toNat_inj.mp hn
    refine ⟨w,by simp,?_⟩
    simpa [encodeChar_ascii hd] using h

theorem encode_append_ascii (w : List Char) {d : Char} (hd : d.toNat < 128) :
    encode (w ++ [d]) = encode w ++ [d.val.toUInt8] := by
  simp [encodeChar_ascii hd]

theorem decode_append_ascii (t : List UInt8) {d : Char} (hd : d.toNat < 128) :
    decode (t ++ [d.val.toUInt8]) = (decode t).map (· ++ [d]) := by
  cases ht : decode t with
  | some w => rw [decode_eq_some.mp ht,← encode_append_ascii w hd,decode_encode,Option.map_some]
  | none =>
    cases hs : decode (t ++ [d.val.toUInt8]) with
    | none => rfl
    | some cs =>
      obtain ⟨w,-,rfl⟩ := encode_eq_append_ascii hd (decode_eq_some.mp hs)
      rw [decode_encode] at ht
      cases ht

theorem getLast?_of_decode {bs : List UInt8} {w : List Char} {d : Char} (hd : d.toNat < 128)
    (h : decode bs = some (w ++ [d])) : bs.getLast? = some d.val.toUInt8 := by
  rw [decode_eq_some.mp h,encode_append_ascii w hd,List.getLast?_concat]

theorem encode_eq_append_replicate {cs : List Char} {d : Char} {t : List UInt8} (k : ℕ)
    (hd : d.toNat < 128) (h : t ++ List.replicate k d.val.toUInt8 = encode cs) :
    ∃ w, cs = w ++ List.replicate k d ∧ t = encode w := by
  induction k generalizing cs with
  | zero => exact ⟨cs,by simp,by simpa using h⟩
  | succ k ih =>
    rw [List.replicate_succ',← List.append_assoc] at h
    obtain ⟨v,rfl,hv⟩ := encode_eq_append_ascii hd h
    obtain ⟨w,rfl,hw⟩ := ih hv
    exact ⟨w,by simp [List.replicate_succ'],hw⟩

theorem encode_replicate {d : Char} (k : ℕ) (hd : d.toNat < 128) :
    encode (List.replicate k d) = List.replicate k d.val.toUInt8 := by
  induction k with
  | zero => rfl
  | succ k ih => simp [List.replicate_succ,encodeChar_ascii hd,ih]

end Ascii

end Utf8
