import RustyValve.Listeners.TlsHttpRp

namespace RustyValve

namespace HostHeader

def hostField (headerField : Str) : Option Str :=
  match Delimiter.splitOnce ':' headerField with
  | none => none
  | some (field,value) =>
    if eqIgnoreAsciiCase field "host".toList then some (hostName value) else none

theorem hostField_eq_some {line name : Str} :
    hostField line = some name ↔ ∃ field value, ':' ∉ field ∧ line = field ++ ':' :: value ∧
      eqIgnoreAsciiCase field "host".toList ∧ hostName value = name := by
  unfold hostField
  cases hs : Delimiter.splitOnce ':' line with
  | none =>
    have hc := Delimiter.splitOnce_eq_none.mp hs
    simp only [reduceCtorEq,false_iff]
    rintro ⟨field,value,-,rfl,-⟩
    simp at hc
  | some p =>
    obtain ⟨field,value⟩ := p
    obtain ⟨rfl,hf⟩ := Delimiter.splitOnce_eq_some.mp hs
    simp only [Option.ite_none_right_eq_some,Option.some.injEq]
    constructor
    · rintro ⟨he,hn⟩
      exact ⟨field,value,hf,rfl,he,hn⟩
    · rintro ⟨field',value',hf',hl,he,hn⟩
      have hs' := Delimiter.splitOnce_append ':' field' value' hf'
      rw [← hl,hs,Option.some.injEq,Prod.mk.injEq] at hs'
      rw [hs'.1,hs'.2]
      exact ⟨he,hn⟩

theorem hostField_nil : hostField [] = none := rfl

def decides : Option Str → Bool
  | none => true
  | some line => (hostField line).isSome

def decision (line : Option Str) : Option Str := line.bind hostField

theorem decision_of_not_decides {line : Option Str} (h : decides line = false) :
    decision line = none := by
  cases line with
  | none => cases h
  | some line => simpa [decides,decision] using h

def firstDecision (ls : List (Option Str)) : Option Str := (ls.find? decides).bind decision

theorem firstDecision_cons (line : Option Str) (ls : List (Option Str)) :
    firstDecision (line :: ls) = if decides line then decision line else firstDecision ls := by
  cases h : decides line <;> simp [firstDecision,h]

theorem firstDecision_singleton (line : Option Str) : firstDecision [line] = decision line := by
  rw [firstDecision_cons]
  split
  · rfl
  · case isFalse h => simp [decision_of_not_decides (Bool.eq_false_iff.mpr h),firstDecision]

theorem firstDecision_append_of_decides {a : List (Option Str)} (b : List (Option Str))
    (h : ∃ l ∈ a, decides l) : firstDecision (a ++ b) = firstDecision a := by
  obtain ⟨l,hl,hd⟩ := h
  have hs : (a.find? decides).isSome := by
    rw [List.find?_isSome]
    exact ⟨l,hl,hd⟩
  obtain ⟨x,hx⟩ := Option.isSome_iff_exists.mp hs
  simp [firstDecision,List.find?_append,hx]

theorem firstDecision_append_of_not {a : List (Option Str)} (b : List (Option Str))
    (h : ¬ ∃ l ∈ a, decides l) : firstDecision (a ++ b) = firstDecision b := by
  have hn : a.find? decides = none := by
    rw [List.find?_eq_none]
    exact fun l hl hd => h ⟨l,hl,hd⟩
  simp [firstDecision,List.find?_append,hn]

theorem firstDecision_eq_some {ls : List (Option Str)} {name : Str} :
    firstDecision ls = some name ↔ ∃ before line after, ls = before ++ some line :: after ∧
      (∀ l ∈ before, decides l = false) ∧ hostField line = some name := by
  simp only [firstDecision,Option.bind_eq_some_iff,List.find?_eq_some_iff_append,decision]
  constructor
  · rintro ⟨l,⟨-,before,after,rfl,hb⟩,line,rfl,hf⟩
    exact ⟨before,line,after,rfl,by simpa using hb,hf⟩
  · rintro ⟨before,line,after,rfl,hb,hf⟩
    exact ⟨some line,⟨by simp [decides,hf],before,after,rfl,by simpa using hb⟩,line,rfl,hf⟩

theorem firstDecision_some_cons (line : Str) (ls : List (Option Str)) :
    firstDecision (some line :: ls) = (hostField line).or (firstDecision ls) := by
  rw [firstDecision_cons]
  cases h : hostField line <;> simp [decides,decision,h]

theorem scanHost_some_cons {line : Str} (h : startsWith line "\r\n".toList = false)
    (ls : List (Option Str)) : scanHost (some line :: ls) = (hostField line).or (scanHost ls) := by
  simp only [scanHost,h,hostField,Bool.false_eq_true,if_false]
  cases Delimiter.splitOnce ':' line with
  | none => rfl
  | some p =>
    dsimp only
    split_ifs <;> rfl

-- No line has kept its line feed, so the end-of-header test of the loop never fires.
theorem scanHost_eq_firstDecision {ls : List (Option Str)} (h : ∀ s, some s ∈ ls → '\n' ∉ s) :
    scanHost ls = firstDecision ls := by
  induction ls with
  | nil => rfl
  | cons line ls ih =>
    cases line with
    | none => simp [scanHost,firstDecision_cons,decides,decision]
    | some line =>
      have hn : startsWith line "\r\n".toList = false := by
        rw [startsWith,Bool.eq_false_iff]
        intro hp
        exact h line (by simp) ((List.isPrefixOf_iff_prefix.mp hp).subset (by simp))
      rw [scanHost_some_cons hn,firstDecision_some_cons,ih (fun s hs => h s (by simp [hs]))]

theorem scan_lines (bs : List UInt8) :
    scanHost (Lines.lines bs) = firstDecision (Lines.lines bs) :=
  scanHost_eq_firstDecision (fun _ h => Lines.newline_not_mem_line h)

section HeaderSection

def HostFromHeader (ls : List (Option Str)) (name : Str) : Prop :=
  ∃ before line after, ls = before ++ some line :: after ∧ some [] ∉ before ++ [some line] ∧
    (∀ l ∈ before, decides l = false) ∧ hostField line = some name

def HostInBody (body : List (Option Str)) : Prop :=
  ∃ before line after, body = before ++ some line :: after ∧ none ∉ before ∧
    (hostField line).isSome

def HeaderSettles (ls : List (Option Str)) : Prop :=
  match Delimiter.splitOnce (some []) ls with
  | none => True
  | some (header,body) => (∃ l ∈ header, decides l) ∨ ¬ HostInBody body

theorem firstDecision_isSome {a : List (Option Str)} (hn : none ∉ a) (h : ∃ l ∈ a, decides l) :
    (firstDecision a).isSome := by
  obtain ⟨x,hx⟩ := Option.isSome_iff_exists.mp (List.find?_isSome.mpr h)
  have hd := List.find?_some hx
  cases x with
  | none => exact absurd (List.mem_of_find?_eq_some hx) hn
  | some line => simpa [firstDecision,hx,decision,decides] using hd

theorem firstDecision_of_body {header body : List (Option Str)}
    (hh : ¬ ∃ l ∈ header, decides l) (hb : HostInBody body) :
    (firstDecision (header ++ some [] :: body)).isSome := by
  obtain ⟨before,line,after,rfl,hn,hf⟩ := hb
  have hd : ∃ l ∈ before ++ [some line], decides l := ⟨some line,by simp,hf⟩
  have hs := firstDecision_isSome (by simpa using hn) hd
  rw [firstDecision_append_of_not _ hh,firstDecision_cons,if_neg (by simp [decides,hostField_nil]),
    List.append_cons,firstDecision_append_of_decides after hd]
  exact hs

theorem mem_header {header body before after : List (Option Str)} {line : Option Str}
    (h : header ++ some [] :: body = before ++ line :: after)
    (hn : some [] ∉ before ++ [line]) : line ∈ header := by
  rw [List.append_cons before] at h
  rcases List.append_eq_append_iff.mp h with ⟨t,ht,hb⟩ | ⟨t,ht,-⟩
  · cases t with
    | nil => rw [List.append_nil] at ht; rw [← ht]; simp
    | cons x t =>
      obtain ⟨rfl,-⟩ := List.cons.inj hb
      exact absurd (by rw [ht]; simp) hn
  · rw [ht]
    simp

theorem hostFromHeader_iff (ls : List (Option Str)) :
    (∀ name, firstDecision ls = some name → HostFromHeader ls name) ↔ HeaderSettles ls := by
  unfold HeaderSettles
  cases hs : Delimiter.splitOnce (some []) ls with
  | none =>
    have he := Delimiter.splitOnce_eq_none.mp hs
    refine iff_of_true (fun name h => ?_) trivial
    obtain ⟨before,line,after,rfl,hb,hf⟩ := firstDecision_eq_some.mp h
    exact ⟨before,line,after,rfl,fun hm => he (by simp at hm ⊢; tauto),hb,hf⟩
  | some p =>
    obtain ⟨header,body⟩ := p
    obtain ⟨rfl,he⟩ := Delimiter.splitOnce_eq_some.mp hs
    constructor
    · intro h
      by_contra hc
      obtain ⟨hh,hb⟩ := not_or.mp hc
      obtain ⟨name,hname⟩ := Option.isSome_iff_exists.mp (firstDecision_of_body hh (not_not.mp hb))
      obtain ⟨before,line,after,hls,hn,-,hf⟩ := h name hname
      exact hh ⟨some line,mem_header hls hn,by simp [decides,hf]⟩
    · intro h name hname
      obtain ⟨before,line,after,hls,hb,hf⟩ := firstDecision_eq_some.mp hname
      refine ⟨before,line,after,hls,fun hm => ?_,hb,hf⟩
      have hl : some [] ≠ some line := fun he => by
        rw [← Option.some.inj he,hostField_nil] at hf
        cases hf
      have hm : some [] ∈ before := by
        simpa [hl] using hm
      obtain ⟨s,t,rfl,hs'⟩ := List.eq_append_cons_of_mem hm
      rw [hls,List.append_assoc,List.cons_append,Delimiter.splitOnce_append _ _ _ hs',
        Option.some.injEq,Prod.mk.injEq] at hs
      obtain ⟨rfl,rfl⟩ := hs
      rcases h with ⟨l,hl,hd⟩ | h
      · rw [hb l (by simp [hl])] at hd
        cases hd
      · refine h ⟨t,line,after,rfl,fun hn => ?_,by simp [hf]⟩
        exact absurd (hb none (by simp [hn])) (by decide)

def HostFromHeaderOnly (available : List UInt8) : Prop :=
  ∀ name, extractHostFromHttpHeader (.arrived available) = some name →
    HostFromHeader (Lines.lines (peekBuffer 512 available)) name

theorem host_from_header_only_iff (available : List UInt8) :
    HostFromHeaderOnly available ↔ HeaderSettles (Lines.lines (peekBuffer 512 available)) := by
  rw [← hostFromHeader_iff]
  simp only [HostFromHeaderOnly,extractHostFromHttpHeader,peekTimeout,scan_lines]

def bodyNamesHost : List UInt8 :=
  Utf8.encode "GET / HTTP/1.1\r\nAccept: */*\r\n\r\nHost: intranet.example:80\r\n".toList

theorem bodyNamesHost_split :
    ∃ rest, Delimiter.splitOnce (some []) (Lines.lines (peekBuffer 512 bodyNamesHost)) =
      some ([some "GET / HTTP/1.1".toList,some "Accept: */*".toList],
        some "Host: intranet.example:80".toList :: rest) := by
  have h : (Delimiter.splitOnce (some []) (Lines.lines (peekBuffer 512 bodyNamesHost))).map
      (fun p => (p.1,p.2.head?)) = some ([some "GET / HTTP/1.1".toList,some "Accept: */*".toList],
        some (some "Host: intranet.example:80".toList)) := by
    decide +kernel
  simp only [Option.map_eq_some_iff,Prod.mk.injEq] at h
  obtain ⟨⟨header,body⟩,hs,rfl,hb⟩ := h
  obtain ⟨rest,rfl⟩ := List.head?_eq_some_iff.mp hb
  exact ⟨rest,hs⟩

theorem body_names_host :
    extractHostFromHttpHeader (.arrived bodyNamesHost) = some "intranet.example".toList ∧
      ¬ HostFromHeaderOnly bodyNamesHost := by
  refine ⟨by decide +kernel,fun hc => ?_⟩
  obtain ⟨rest,hs⟩ := bodyNamesHost_split
  simp only [HostFromHeaderOnly,extractHostFromHttpHeader,peekTimeout,scan_lines,hostFromHeader_iff,
    HeaderSettles,hs] at hc
  rcases hc with h | h
  · exact absurd h (by decide)
  · exact h ⟨[],_,rest,rfl,by simp,by decide⟩

end HeaderSection

end HostHeader

end RustyValve
