import RustyValve.Std.Net

namespace RustyValve.NetParser

abbrev Reader (A : Type) := Str → Option (A × Str)

def AddrChar (c : Char) : Prop := (c.isDigit ∨ 'a' ≤ c ∧ c ≤ 'f' ∨ 'A' ≤ c ∧ c ≤ 'F') ∨ c = ':' ∨ c = '.'

def Consumes {A : Type} (read : Reader A) : Prop :=
  ∀ s v rest, read s = some (v,rest) → ∃ used, s = used ++ rest ∧ ∀ c ∈ used, AddrChar c

def andThen {A B : Type} (read : Reader A) (next : A → Reader B) : Reader B :=
  fun s => (read s).bind (fun p => next p.1 p.2)

theorem consumes_andThen {A B : Type} {read : Reader A} {next : A → Reader B}
    (hr : Consumes read) (hn : ∀ a, Consumes (next a)) : Consumes (andThen read next) := by
  intro s v rest h
  simp only [andThen,Option.bind_eq_some_iff] at h
  obtain ⟨⟨a,mid⟩,ha,hb⟩ := h
  obtain ⟨u,rfl,hu⟩ := hr s a mid ha
  obtain ⟨w,rfl,hw⟩ := hn a mid v rest hb
  exact ⟨u ++ w,by simp,fun c hc => (List.mem_append.mp hc).elim (hu c) (hw c)⟩

def yields {A : Type} (a : A) : Reader A := fun s => some (a,s)

theorem consumes_yields {A : Type} (a : A) : Consumes (yields a) := by
  intro s v rest h
  obtain ⟨rfl,rfl⟩ := Prod.mk.inj (Option.some.inj h)
  exact ⟨[],rfl,by simp⟩

def readGivenChar (c : Char) : Reader Unit
  | [] => none
  | x :: rest => if x = c then some ((),rest) else none

theorem consumes_readGivenChar {c : Char} (hc : AddrChar c) : Consumes (readGivenChar c) := by
  intro s v rest h
  cases s with
  | nil => simp [readGivenChar] at h
  | cons x s =>
    simp only [readGivenChar] at h
    split at h
    case isTrue hx =>
      obtain ⟨-,rfl⟩ := Prod.mk.inj (Option.some.inj h)
      exact ⟨[x],rfl,by simpa [hx] using hc⟩
    case isFalse => cases h

def digitValue (c : Char) : ℕ :=
  if c.isDigit then c.toNat - '0'.toNat
  else if 'a' ≤ c ∧ c ≤ 'f' then c.toNat - 'a'.toNat + 10
  else if 'A' ≤ c ∧ c ≤ 'F' then c.toNat - 'A'.toNat + 10
  else 16

def isDigitOf (radix : ℕ) (c : Char) : Bool := decide (digitValue c < radix)

theorem addrChar_of_digit {radix : ℕ} {c : Char} (hr : radix ≤ 16) (h : isDigitOf radix c) :
    AddrChar c := by
  have hv : digitValue c < radix := of_decide_eq_true h
  unfold digitValue at hv
  split_ifs at hv with h1 h2 h3
  · exact .inl (.inl h1)
  · exact .inl (.inr (.inl h2))
  · exact .inl (.inr (.inr h3))
  · omega

-- `checked_mul` and `checked_add` overflow exactly when the value of the whole run does.
def readNumber (radix maxDigits bound : ℕ) (allowZeroPrefix : Bool) : Reader ℕ := fun s =>
  let digits := s.takeWhile (isDigitOf radix)
  let value := digits.foldl (fun n c => radix * n + digitValue c) 0
  if digits.length = 0 ∨ maxDigits < digits.length ∨ bound < value ∨
      (!allowZeroPrefix && digits.head? == some '0' && decide (1 < digits.length)) then none
  else some (value,s.dropWhile (isDigitOf radix))

theorem consumes_readNumber {radix : ℕ} (hr : radix ≤ 16) (maxDigits bound : ℕ) (z : Bool) :
    Consumes (readNumber radix maxDigits bound z) := by
  intro s v rest h
  simp only [readNumber] at h
  split at h
  case isTrue => cases h
  case isFalse =>
    obtain ⟨-,rfl⟩ := Prod.mk.inj (Option.some.inj h)
    exact ⟨s.takeWhile (isDigitOf radix),List.takeWhile_append_dropWhile.symm,
      fun c hc => addrChar_of_digit hr (List.mem_takeWhile_imp hc)⟩

def readSeparator {A : Type} (sep : Char) (index : ℕ) (inner : Reader A) : Reader A :=
  if index = 0 then inner else andThen (readGivenChar sep) (fun _ => inner)

theorem consumes_readSeparator {A : Type} {sep : Char} (index : ℕ) {inner : Reader A}
    (hs : AddrChar sep) (hi : Consumes inner) : Consumes (readSeparator sep index inner) := by
  unfold readSeparator
  split
  · exact hi
  · exact consumes_andThen (consumes_readGivenChar hs) (fun _ => hi)

def readOctets (index : ℕ) : ℕ → Reader (List ℕ)
  | 0 => yields []
  | n + 1 => andThen (readSeparator '.' index (readNumber 10 3 255 false)) (fun octet =>
      andThen (readOctets (index + 1) n) (fun octets => yields (octet :: octets)))

theorem consumes_readOctets (index n : ℕ) : Consumes (readOctets index n) := by
  induction n generalizing index with
  | zero => exact consumes_yields []
  | succ n ih =>
    apply consumes_andThen
    · exact consumes_readSeparator index (.inr (.inr rfl)) (consumes_readNumber (by decide) _ _ _)
    · exact fun _ => consumes_andThen (ih _) (fun _ => consumes_yields _)

def readIpv4Addr : Reader (List ℕ) := readOctets 0 4

def readGroups (index : ℕ) : ℕ → Str → (List ℕ × Bool) × Str
  | 0,s => (([],false),s)
  | n + 1,s =>
    match (if 1 ≤ n then readSeparator ':' index readIpv4Addr s else none) with
    | some (octets,rest) =>
      (([octets.getD 0 0 * 256 + octets.getD 1 0,octets.getD 2 0 * 256 + octets.getD 3 0],true),rest)
    | none =>
      match readSeparator ':' index (readNumber 16 4 65535 true) s with
      | some (group,rest) =>
        let ((groups,ipv4),rest) := readGroups (index + 1) n rest
        ((group :: groups,ipv4),rest)
      | none => (([],false),s)

theorem consumes_readGroups (index n : ℕ) :
    Consumes (fun s => some (readGroups index n s)) := by
  induction n generalizing index with
  | zero => exact consumes_yields _
  | succ n ih =>
    intro s v rest h
    have h4 : Consumes (readSeparator ':' index readIpv4Addr) :=
      consumes_readSeparator index (.inr (.inl rfl)) (consumes_readOctets 0 4)
    have hg : Consumes (readSeparator ':' index (readNumber 16 4 65535 true)) :=
      consumes_readSeparator index (.inr (.inl rfl)) (consumes_readNumber (by decide) _ _ _)
    simp only [readGroups,Option.some.injEq] at h
    split at h
    case h_1 octets r hr =>
      obtain ⟨-,rfl⟩ := Prod.mk.inj h
      split at hr
      · exact h4 s octets r hr
      · cases hr
    case h_2 =>
      split at h
      case h_1 group r hr =>
        obtain ⟨-,rfl⟩ := Prod.mk.inj h
        obtain ⟨u,hu,hc⟩ := hg s group r hr
        obtain ⟨w,hw,hd⟩ := ih (index + 1) r _ _ rfl
        exact ⟨u ++ w,by rw [hu,List.append_assoc,← hw],
          fun c hx => (List.mem_append.mp hx).elim (hc c) (hd c)⟩
      case h_2 =>
        obtain ⟨-,rfl⟩ := Prod.mk.inj h
        exact ⟨[],rfl,by simp⟩

def joinGroups (head tail : List ℕ) : List ℕ :=
  head ++ List.replicate (8 - head.length - tail.length) 0 ++ tail

def readIpv6Addr : Reader (List ℕ) :=
  andThen (fun s => some (readGroups 0 8 s)) (fun (head,headIpv4) =>
    if head.length = 8 then yields head
    else if headIpv4 then fun _ => none
    else andThen (readGivenChar ':') (fun _ => andThen (readGivenChar ':') (fun _ =>
      andThen (fun s => some (readGroups 0 (8 - (head.length + 1)) s)) (fun (tail,_) =>
        yields (joinGroups head tail)))))

theorem consumes_readIpv6Addr : Consumes readIpv6Addr := by
  apply consumes_andThen (consumes_readGroups 0 8)
  rintro ⟨head,headIpv4⟩
  have hc : Consumes (readGivenChar ':') := consumes_readGivenChar (.inr (.inl rfl))
  dsimp only
  split_ifs
  · exact consumes_yields _
  · intro s v rest h
    cases h
  · exact consumes_andThen hc (fun _ => consumes_andThen hc (fun _ =>
      consumes_andThen (consumes_readGroups 0 _) (fun _ => consumes_yields _)))

def joinDigits (base : ℕ) (ds : List ℕ) : ℕ := ds.foldl (fun n d => base * n + d) 0

def ipAddrFromStr (s : Str) : Option IpAddr :=
  match readIpv4Addr s with
  | some (octets,rest) => if rest = [] then some (.v4 (.ofNat 32 (joinDigits 256 octets))) else none
  | none =>
    match readIpv6Addr s with
    | some (groups,rest) =>
      if rest = [] then some (.v6 (.ofNat 128 (joinDigits 65536 groups))) else none
    | none => none

theorem addr_chars {s : Str} {ip : IpAddr} (h : ipAddrFromStr s = some ip) :
    ∀ c ∈ s, AddrChar c := by
  have whole {A : Type} {read : Reader A} {v : A} {rest : Str} (hc : Consumes read)
      (hr : read s = some (v,rest)) (he : rest = []) : ∀ c ∈ s, AddrChar c := by
    obtain ⟨used,rfl,hu⟩ := hc s v rest hr
    simpa [he] using hu
  unfold ipAddrFromStr at h
  split at h
  case h_1 octets rest hr =>
    split at h
    · exact whole (consumes_readOctets 0 4) hr ‹_›
    · cases h
  case h_2 =>
    split at h
    case h_1 groups rest hr =>
      split at h
      · exact whole consumes_readIpv6Addr hr ‹_›
      · cases h
    case h_2 => cases h

theorem addrChar_not_separator {c : Char} (h : AddrChar c) : ¬ Separator c := by
  rcases h with (h | h | h) | rfl | rfl
  · exact digit_not_separator h
  · have hn : 97 ≤ c.toNat ∧ c.toNat ≤ 102 := h
    rintro (rfl | rfl | hw)
    · exact absurd hn (by decide)
    · exact absurd hn (by decide)
    · simp only [isWhitespace,Bool.or_eq_true,Bool.and_eq_true,decide_eq_true_eq,beq_iff_eq] at hw
      omega
  · have hn : 65 ≤ c.toNat ∧ c.toNat ≤ 70 := h
    rintro (rfl | rfl | hw)
    · exact absurd hn (by decide)
    · exact absurd hn (by decide)
    · simp only [isWhitespace,Bool.or_eq_true,Bool.and_eq_true,decide_eq_true_eq,beq_iff_eq] at hw
      omega
  · decide
  · decide

theorem ipAddr_rejects {s : Str} {c : Char} (hc : c ∈ s) (hs : Separator c) :
    ipAddrFromStr s = none := by
  cases h : ipAddrFromStr s with
  | none => rfl
  | some ip => exact absurd hs (addrChar_not_separator (addr_chars h c hc))

end RustyValve.NetParser
