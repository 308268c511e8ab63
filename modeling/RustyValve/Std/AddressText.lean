import RustyValve.Std.NumberText
import RustyValve.Std.FromStr

namespace RustyValve

namespace NetParser

section Joined
variable (base : ℕ)

-- The `count` last digits, the first one first.
def lastDigits : ℕ → ℕ → List ℕ
  | 0,_ => []
  | count + 1,n => lastDigits count (n / base) ++ [n % base]

theorem length_lastDigits (count n : ℕ) : (lastDigits base count n).length = count := by
  induction count generalizing n with
  | zero => rfl
  | succ count ih => rw [lastDigits,List.length_append,ih,List.length_singleton]

variable {base}

theorem lt_of_mem_lastDigits (hb : 0 < base) {count n d : ℕ} (h : d ∈ lastDigits base count n) :
    d < base := by
  induction count generalizing n with
  | zero => cases h
  | succ count ih =>
    rcases List.mem_append.mp h with h | h
    · exact ih h
    · rw [List.mem_singleton.mp h]
      exact Nat.mod_lt n hb

theorem joinDigits_lastDigits {count n : ℕ} (h : n < base ^ count) :
    joinDigits base (lastDigits base count n) = n := by
  induction count generalizing n with
  | zero =>
    rw [Nat.pow_zero,Nat.lt_one_iff] at h
    exact h.symm
  | succ count ih =>
    have hd : n / base < base ^ count := Nat.div_lt_of_lt_mul (by rwa [← Nat.pow_succ'])
    have hi : (lastDigits base count (n / base)).foldl (fun v d => base * v + d) 0 = n / base := ih hd
    rw [joinDigits,lastDigits,List.foldl_append,hi,List.foldl_cons,List.foldl_nil,Nat.div_add_mod]

end Joined

section Separated
variable (sep : Char) (radix : ℕ)

def afterText (ns : List ℕ) : Str := ns.flatMap (fun n => sep :: Nat.toDigits radix n)

def separatedText : List ℕ → Str
  | [] => []
  | n :: ns => Nat.toDigits radix n ++ afterText sep radix ns

variable {sep radix}

theorem ends_afterText (sep : Char) (h : ¬ isDigitOf radix sep) (ns : List ℕ) :
    Ends radix (afterText sep radix ns) := by
  cases ns with
  | nil => exact fun c hc => by cases hc
  | cons n ns =>
    intro c hc
    obtain rfl : sep = c := Option.some.inj hc
    exact h

theorem mem_separatedText {c : Char} {ns : List ℕ} (h : c ∈ separatedText sep radix ns) :
    c = sep ∨ ∃ n, c ∈ Nat.toDigits radix n := by
  cases ns with
  | nil => cases h
  | cons n ns =>
    rcases List.mem_append.mp h with h | h
    · exact .inr ⟨n,h⟩
    · obtain ⟨m,-,hm⟩ := List.mem_flatMap.mp h
      exact (List.mem_cons.mp hm).imp_right (fun hd => ⟨m,hd⟩)

end Separated

section Octets

theorem readOctet {o : ℕ} (ho : o < 256) {rest : Str} (he : Ends 10 rest) :
    readNumber 10 3 255 false (Nat.toDigits 10 o ++ rest) = some (o,rest) :=
  readNumber_toDigits (by decide) (by decide) (by decide) (by omega) (by omega) he

theorem readOctets_afterText {os : List ℕ} (h : ∀ o ∈ os, o < 256) (index : ℕ) :
    readOctets (index + 1) os.length (afterText '.' 10 os) = some (os,[]) := by
  induction os generalizing index with
  | nil => rfl
  | cons o os ih =>
    have ho := readOctet (h o List.mem_cons_self) (ends_afterText '.' (by decide) os)
    have hos := ih (fun x hx => h x (List.mem_cons_of_mem o hx)) (index + 1)
    have ht : afterText '.' 10 (o :: os) = '.' :: (Nat.toDigits 10 o ++ afterText '.' 10 os) := rfl
    rw [List.length_cons,readOctets,ht]
    simp [andThen,readSeparator,readGivenChar,ho,hos,yields]

theorem readIpv4Addr_text {os : List ℕ} (hl : os.length = 4) (h : ∀ o ∈ os, o < 256) :
    readIpv4Addr (separatedText '.' 10 os) = some (os,[]) := by
  obtain ⟨o,os,rfl⟩ := List.exists_cons_of_length_eq_add_one hl
  have ho := readOctet (h o List.mem_cons_self) (ends_afterText '.' (by decide) os)
  have hos := readOctets_afterText (fun x hx => h x (List.mem_cons_of_mem o hx)) 0
  rw [Nat.succ.inj hl] at hos
  rw [readIpv4Addr,readOctets,separatedText]
  simp [andThen,readSeparator,ho,hos,yields]

end Octets

section Groups

theorem digits_without_separator {c : Char} (hc : ¬ isDigitOf 16 c) (n : ℕ) :
    c ∉ Nat.toDigits 16 n := fun h => hc (isDigitOf_toDigits (by decide) (by decide) h)

theorem separatedText_without_dot (gs : List ℕ) : '.' ∉ separatedText ':' 16 gs := by
  intro h
  rcases mem_separatedText h with hc | ⟨n,hn⟩
  · exact absurd hc (by decide)
  · exact digits_without_separator (by decide) n hn

theorem group_not_ipv4 (g : ℕ) (gs : List ℕ) :
    readIpv4Addr (Nat.toDigits 16 g ++ afterText ':' 16 gs) = none :=
  readIpv4Addr_without_dot (separatedText_without_dot (g :: gs))

theorem readGroup_toDigits {g : ℕ} (hg : g < 65536) {rest : Str} (he : Ends 16 rest) :
    readNumber 16 4 65535 true (Nat.toDigits 16 g ++ rest) = some (g,rest) :=
  readNumber_toDigits (by decide) (by decide) (by decide) (by omega) (by omega) he

theorem readGroups_afterText {gs : List ℕ} (h : ∀ g ∈ gs, g < 65536) (index : ℕ) :
    readGroups (index + 1) gs.length (afterText ':' 16 gs) = ((gs,false),[]) := by
  induction gs generalizing index with
  | nil => rfl
  | cons g gs ih =>
    have hg := readGroup_toDigits (h g List.mem_cons_self) (ends_afterText ':' (by decide) gs)
    have hgs := ih (fun x hx => h x (List.mem_cons_of_mem g hx)) (index + 1)
    have ht : afterText ':' 16 (g :: gs) = ':' :: separatedText ':' 16 (g :: gs) := rfl
    rw [List.length_cons,readGroups,ht]
    simp only [readSeparator,Nat.succ_ne_zero,if_false,andThen,readGivenChar,if_true,Option.bind_some,
      group_not_ipv4,ite_self,separatedText,hg,hgs]

theorem readIpv6Addr_text {gs : List ℕ} (hl : gs.length = 8) (h : ∀ g ∈ gs, g < 65536) :
    readIpv6Addr (separatedText ':' 16 gs) = some (gs,[]) := by
  have hread : readGroups 0 8 (separatedText ':' 16 gs) = ((gs,false),[]) := by
    obtain ⟨g,gs,rfl⟩ := List.exists_cons_of_length_eq_add_one hl
    have hg := readGroup_toDigits (h g List.mem_cons_self) (ends_afterText ':' (by decide) gs)
    have hgs := readGroups_afterText (fun x hx => h x (List.mem_cons_of_mem g hx)) 0
    rw [Nat.succ.inj hl] at hgs
    rw [readGroups]
    simp only [readSeparator,if_true,separatedText,group_not_ipv4,ite_self,hg,hgs]
  simp only [readIpv6Addr,andThen,hread,Option.bind_some,hl,if_true,yields]

end Groups

end NetParser

open NetParser

namespace IpAddr

def text : IpAddr → Str
  | v4 bits => separatedText '.' 10 (lastDigits 256 4 bits.toNat)
  | v6 bits => separatedText ':' 16 (lastDigits 65536 8 bits.toNat)

theorem ipAddrFromStr_text (ip : IpAddr) : ipAddrFromStr ip.text = some ip := by
  cases ip with
  | v4 bits =>
    have hr := readIpv4Addr_text (length_lastDigits 256 4 bits.toNat)
      (fun _ => lt_of_mem_lastDigits (by decide))
    have hj : joinDigits 256 (lastDigits 256 4 bits.toNat) = bits.toNat :=
      joinDigits_lastDigits (bits.isLt.trans_eq (by decide))
    rw [ipAddrFromStr,text,hr]
    simp only [if_true,hj,BitVec.ofNat_toNat,BitVec.setWidth_eq]
  | v6 bits =>
    have hr := readIpv6Addr_text (length_lastDigits 65536 8 bits.toNat)
      (fun _ => lt_of_mem_lastDigits (by decide))
    have hj : joinDigits 65536 (lastDigits 65536 8 bits.toNat) = bits.toNat :=
      joinDigits_lastDigits (bits.isLt.trans_eq (by decide))
    rw [ipAddrFromStr,text,readIpv4Addr_without_dot (separatedText_without_dot _),hr]
    simp only [if_true,hj,BitVec.ofNat_toNat,BitVec.setWidth_eq]

theorem mem_text {ip : IpAddr} {c : Char} (h : c ∈ ip.text) : AddrChar c :=
  addr_chars ip.ipAddrFromStr_text c h

end IpAddr

end RustyValve
