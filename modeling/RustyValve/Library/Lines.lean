import RustyValve.Library.Delimiter
import RustyValve.Library.Utf8

namespace Lines

section Inclusive
variable {A : Type} [DecidableEq A]

def splitInclusive (d : A) : List A → List (List A)
  | [] => []
  | x :: xs =>
    if x = d then [x] :: splitInclusive d xs
    else match splitInclusive d xs with
      | [] => [[x]]
      | l :: ls => (x :: l) :: ls

theorem splitInclusive_cons_append (d : A) (a b : List A) (h : d ∉ a) :
    splitInclusive d (a ++ d :: b) = (a ++ [d]) :: splitInclusive d b := by
  induction a with
  | nil => simp [splitInclusive]
  | cons x a ih =>
    simp only [List.mem_cons,not_or] at h
    simp [splitInclusive,Ne.symm h.1,ih h.2]

theorem splitInclusive_unterminated (d : A) (a : List A) (h : d ∉ a) (hn : a ≠ []) :
    splitInclusive d a = [a] := by
  induction a with
  | nil => exact absurd rfl hn
  | cons x a ih =>
    simp only [List.mem_cons,not_or] at h
    cases a with
    | nil => simp [splitInclusive,Ne.symm h.1]
    | cons y a =>
      have ht := ih h.2 (by simp)
      rw [splitInclusive,if_neg (Ne.symm h.1),ht]

theorem splitInclusive_append (d : A) (a b : List A) :
    splitInclusive d (a ++ [d] ++ b) = splitInclusive d (a ++ [d]) ++ splitInclusive d b := by
  induction hn : a.length using Nat.strong_induction_on generalizing a with
  | _ n ih =>
    cases hs : Delimiter.splitOnce d a with
    | none =>
      have hd := Delimiter.splitOnce_eq_none.mp hs
      have h1 := splitInclusive_cons_append d a b hd
      have h2 := splitInclusive_cons_append d a [] hd
      simpa [h2,splitInclusive] using h1
    | some p =>
      obtain ⟨l,r⟩ := p
      obtain ⟨rfl,hd⟩ := Delimiter.splitOnce_eq_some.mp hs
      have hr := ih r.length (by rw [← hn]; simp; omega) r rfl
      have h1 := splitInclusive_cons_append d l (r ++ [d] ++ b) hd
      have h2 := splitInclusive_cons_append d l (r ++ [d]) hd
      simp only [List.append_assoc,List.cons_append] at h1 h2 hr ⊢
      rw [h1,h2,hr,List.cons_append]

theorem mem_splitInclusive {d : A} {xs l : List A} (h : l ∈ splitInclusive d xs) :
    ∃ t, d ∉ t ∧ (l = t ++ [d] ∨ l = t) := by
  induction hn : xs.length using Nat.strong_induction_on generalizing xs with
  | _ n ih =>
    cases hs : Delimiter.splitOnce d xs with
    | none =>
      have hd := Delimiter.splitOnce_eq_none.mp hs
      by_cases hx : xs = []
      · simp [hx,splitInclusive] at h
      · rw [splitInclusive_unterminated d xs hd hx,List.mem_singleton] at h
        exact ⟨xs,hd,.inr h⟩
    | some p =>
      obtain ⟨a,r⟩ := p
      obtain ⟨rfl,hd⟩ := Delimiter.splitOnce_eq_some.mp hs
      rw [splitInclusive_cons_append d a r hd,List.mem_cons] at h
      rcases h with rfl | h
      · exact ⟨a,hd,.inl rfl⟩
      · exact ih r.length (by rw [← hn]; simp; omega) h rfl

def complete (d : A) (xs : List A) : List A :=
  match Delimiter.rsplitOnce d xs with
  | some (a,_) => a ++ [d]
  | none => []

def unfinished (d : A) (xs : List A) : List A :=
  match Delimiter.rsplitOnce d xs with
  | some (_,t) => t
  | none => xs

theorem complete_append_unfinished (d : A) (xs : List A) :
    complete d xs ++ unfinished d xs = xs := by
  cases hs : Delimiter.rsplitOnce d xs with
  | none => simp [complete,unfinished,hs]
  | some p =>
    obtain ⟨a,t⟩ := p
    obtain ⟨rfl,_⟩ := Delimiter.rsplitOnce_eq_some.mp hs
    simp [complete,unfinished,hs]

theorem not_mem_unfinished (d : A) (xs : List A) : d ∉ unfinished d xs := by
  cases hs : Delimiter.rsplitOnce d xs with
  | none => simpa [unfinished,hs] using Delimiter.rsplitOnce_eq_none.mp hs
  | some p =>
    obtain ⟨a,t⟩ := p
    simpa [unfinished,hs] using (Delimiter.rsplitOnce_eq_some.mp hs).2

theorem splitInclusive_complete_append (d : A) (xs ys : List A) :
    splitInclusive d (complete d xs ++ ys) =
      splitInclusive d (complete d xs) ++ splitInclusive d ys := by
  unfold complete
  split
  · exact splitInclusive_append d _ ys
  · simp [splitInclusive]

end Inclusive

abbrev lf : UInt8 := 10

def stripCr (s : List Char) : List Char :=
  if s.getLast? = some '\r' then s.dropLast else s

def stripEol (s : List Char) : List Char :=
  if s.getLast? = some '\n' then stripCr s.dropLast else s

def readLine (raw : List UInt8) : Option (List Char) := (Utf8.decode raw).map stripEol

def lines (bs : List UInt8) : List (Option (List Char)) := (splitInclusive lf bs).map readLine

theorem lf_mem_encode {cs : List Char} : lf ∈ Utf8.encode cs ↔ '\n' ∈ cs :=
  Utf8.mem_encode_ascii (d := '\n') (by decide)

theorem stripEol_terminated (w : List Char) : stripEol (w ++ ['\n']) = stripCr w := by
  simp [stripEol]

theorem stripEol_unterminated {w : List Char} (h : '\n' ∉ w) : stripEol w = w := by
  rw [stripEol,if_neg]
  intro hl
  exact h (List.mem_of_getLast? hl)

theorem mem_of_mem_stripCr {c : Char} {w : List Char} (h : c ∈ stripCr w) : c ∈ w := by
  unfold stripCr at h
  split at h
  · exact List.mem_of_mem_dropLast h
  · exact h

theorem stripCr_append_cons {c : Char} (hc : c ≠ '\r') (a b : List Char) :
    ∃ r, stripCr (a ++ c :: b) = a ++ c :: r := by
  unfold stripCr
  split
  case isTrue h =>
    cases b with
    | nil => simp [hc] at h
    | cons x b => exact ⟨(x :: b).dropLast,by simp [List.dropLast_append_of_ne_nil]⟩
  case isFalse => exact ⟨b,rfl⟩

theorem readLine_terminated (w : List Char) :
    readLine (Utf8.encode w ++ [lf]) = some (stripCr w) := by
  have he : Utf8.encode w ++ [lf] = Utf8.encode (w ++ ['\n']) := by
    rw [Utf8.encode_append]
    rfl
  rw [readLine,he,Utf8.decode_encode,Option.map_some,stripEol_terminated]

theorem readLine_unterminated {w : List Char} (h : '\n' ∉ w) :
    readLine (Utf8.encode w) = some w := by
  rw [readLine,Utf8.decode_encode,Option.map_some,stripEol_unterminated h]

theorem readLine_terminated_eq_some {t : List UInt8} {s : List Char}
    (h : readLine (t ++ [lf]) = some s) : ∃ w, t = Utf8.encode w ∧ s = stripCr w := by
  simp only [readLine,Option.map_eq_some_iff] at h
  obtain ⟨cs,hd,rfl⟩ := h
  obtain ⟨w,rfl,ht⟩ := Utf8.encode_eq_append_ascii (d := '\n') (by decide) (Utf8.decode_eq_some.mp hd)
  exact ⟨w,ht,stripEol_terminated w⟩

theorem readLine_unterminated_eq_some {t : List UInt8} {s : List Char} (hl : lf ∉ t)
    (h : readLine t = some s) : t = Utf8.encode s := by
  simp only [readLine,Option.map_eq_some_iff] at h
  obtain ⟨cs,hd,rfl⟩ := h
  have ht := Utf8.decode_eq_some.mp hd
  rw [stripEol_unterminated (fun hn => hl (by rw [ht]; exact lf_mem_encode.mpr hn))]
  exact ht

section Raw

abbrev cr : UInt8 := 13

def stripCrBytes (t : List UInt8) : List UInt8 :=
  if t.getLast? = some cr then t.dropLast else t

def stripEolBytes (raw : List UInt8) : List UInt8 :=
  if raw.getLast? = some lf then stripCrBytes raw.dropLast else raw

def rawLines (bs : List UInt8) : List (List UInt8) := (splitInclusive lf bs).map stripEolBytes

theorem decode_stripCrBytes (t : List UInt8) :
    Utf8.decode (stripCrBytes t) = (Utf8.decode t).map stripCr := by
  unfold stripCrBytes
  split
  case isTrue h =>
    obtain ⟨u,rfl⟩ := List.getLast?_eq_some_iff.mp h
    have hd := Utf8.decode_append_ascii u (d := '\r') (by decide)
    rw [List.dropLast_concat,show [cr] = ['\r'.val.toUInt8] from rfl,hd,Option.map_map]
    have hs : stripCr ∘ (fun w => w ++ ['\r']) = id := by
      funext w
      simp [stripCr]
    rw [hs,Option.map_id_fun,id]
  case isFalse h =>
    cases hw : Utf8.decode t with
    | none => rfl
    | some w =>
      rw [Option.map_some,stripCr,if_neg]
      intro hl
      obtain ⟨v,rfl⟩ := List.getLast?_eq_some_iff.mp hl
      exact h (Utf8.getLast?_of_decode (by decide) hw)

-- Both ends of a line are plain bytes: they can be removed before decoding.
theorem readLine_eq_decode (raw : List UInt8) : readLine raw = Utf8.decode (stripEolBytes raw) := by
  unfold stripEolBytes
  split
  case isTrue h =>
    obtain ⟨t,rfl⟩ := List.getLast?_eq_some_iff.mp h
    have hd := Utf8.decode_append_ascii t (d := '\n') (by decide)
    rw [List.dropLast_concat,decode_stripCrBytes,readLine,show [lf] = ['\n'.val.toUInt8] from rfl,hd,
      Option.map_map]
    exact congrArg (fun f => (Utf8.decode t).map f) (funext stripEol_terminated)
  case isFalse h =>
    cases hw : Utf8.decode raw with
    | none => rw [readLine,hw,Option.map_none]
    | some w =>
      rw [readLine,hw,Option.map_some,stripEol,if_neg]
      intro hl
      obtain ⟨v,rfl⟩ := List.getLast?_eq_some_iff.mp hl
      exact h (Utf8.getLast?_of_decode (by decide) hw)

theorem lines_eq_decode (bs : List UInt8) : lines bs = (rawLines bs).map Utf8.decode := by
  rw [lines,rawLines,List.map_map]
  exact List.map_congr_left (fun raw _ => readLine_eq_decode raw)

end Raw

theorem newline_not_mem_line {bs : List UInt8} {s : List Char} (h : some s ∈ lines bs) :
    '\n' ∉ s := by
  simp only [lines,List.mem_map] at h
  obtain ⟨raw,hr,hs⟩ := h
  obtain ⟨t,ht,rfl | rfl⟩ := mem_splitInclusive hr
  · obtain ⟨w,rfl,rfl⟩ := readLine_terminated_eq_some hs
    exact fun hn => ht (lf_mem_encode.mpr (mem_of_mem_stripCr hn))
  · have he := readLine_unterminated_eq_some ht hs
    exact fun hn => ht (by rw [he]; exact lf_mem_encode.mpr hn)

theorem lines_unterminated {t : List UInt8} (h : lf ∉ t) (hn : t ≠ []) :
    lines t = [readLine t] := by
  rw [lines,splitInclusive_unterminated lf t h hn,List.map_singleton]

theorem lines_cons_append {t : List UInt8} (h : lf ∉ t) (bs : List UInt8) :
    lines (t ++ lf :: bs) = readLine (t ++ [lf]) :: lines bs := by
  rw [lines,splitInclusive_cons_append lf t bs h,List.map_cons,lines]

theorem lines_append (a bs : List UInt8) : lines (a ++ [lf] ++ bs) = lines (a ++ [lf]) ++ lines bs := by
  simp only [lines,splitInclusive_append,List.map_append]

-- Only a carriage return at its end can be missing from the text that a line begins with.
def Begins (p s : List Char) : Prop := ∀ a c b, p = a ++ c :: b → c ≠ '\r' → ∃ r, s = a ++ c :: r

theorem first_line_begins {p : List Char} (hp : '\n' ∉ p) (hne : p ≠ []) (rest : List UInt8) :
    ∃ line more, lines (Utf8.encode p ++ rest) = line :: more ∧ ∀ s, line = some s → Begins p s := by
  have hl : lf ∉ Utf8.encode p := fun h => hp (lf_mem_encode.mp h)
  have hb : Utf8.encode p ≠ [] := fun h => hne (Utf8.encode_injective h)
  cases hs : Delimiter.splitOnce lf rest with
  | none =>
    have hr : lf ∉ Utf8.encode p ++ rest := by
      simp [hl,Delimiter.splitOnce_eq_none.mp hs]
    refine ⟨_,[],lines_unterminated hr (by simp [hb]),?_⟩
    rintro s hline a c b rfl -
    obtain ⟨r,rfl,-⟩ := Utf8.encode_prefix (readLine_unterminated_eq_some hr hline)
    exact ⟨b ++ r,by simp⟩
  | some q =>
    obtain ⟨u,tail⟩ := q
    obtain ⟨rfl,hu⟩ := Delimiter.splitOnce_eq_some.mp hs
    have hr : lf ∉ Utf8.encode p ++ u := by simp [hl,hu]
    rw [← List.append_assoc]
    refine ⟨_,lines tail,lines_cons_append hr tail,?_⟩
    rintro s hline a c b rfl hc
    obtain ⟨w,hw,rfl⟩ := readLine_terminated_eq_some hline
    obtain ⟨r,rfl,-⟩ := Utf8.encode_prefix hw
    simpa using stripCr_append_cons hc a (b ++ r)

end Lines
