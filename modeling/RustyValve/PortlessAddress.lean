import RustyValve.DestinationLanguage
import RustyValve.Std.AddressTail

namespace RustyValve

namespace PortlessAddress

open NetParser

def Refused (t : Str) : Prop := ∃ e, Destination.fromStr .std t = .error e

def bracketed (t : Str) : Str := '[' :: (t ++ [']'])

-- After the `::` come at least two groups, the last of them without a letter.
def EndsInPort (t : Str) : Prop :=
  ∃ front back digits, t = (front ++ ':' :: ':' :: back) ++ ':' :: digits ∧ back ≠ [] ∧
    digits ≠ [] ∧ ∀ c ∈ digits, c.isDigit

theorem refused_iff {t : Str} : Refused t ↔ ∀ d, ¬ Destination.Text .std t d := by
  constructor
  · rintro ⟨e,he⟩ d hd
    rw [(Destination.fromStr_eq_ok .std).mpr hd] at he
    cases he
  · intro h
    cases ht : Destination.fromStr .std t with
    | error e => exact ⟨e,ht⟩
    | ok d => exact absurd ((Destination.fromStr_eq_ok .std).mp ht) (h d)

section Port
variable {s : Str} {port : UInt16}

theorem u16_chars (h : FromStr.std.u16 s = some port) : ∀ c ∈ s, c = '+' ∨ c.isDigit := by
  obtain ⟨n,hn,-⟩ := Option.map_eq_some_iff.mp h
  exact unsigned_chars hn

theorem u16_ne_nil (h : FromStr.std.u16 s = some port) : s ≠ [] := by
  rintro rfl
  cases h

theorem u16_of_digits (hd : ∀ c ∈ s, c.isDigit) (hne : s ≠ []) (hl : s.length ≤ 4) :
    ∃ port, FromStr.std.u16 s = some port := by
  have hv : decimalValue s < 10 ^ s.length := foldl_digits_lt (fun c hc => by
    have hr := isDigit_range (hd c hc)
    change c.toNat - 48 < 10
    omega)
  have h4 : decimalValue s < 10 ^ 4 := lt_of_lt_of_le hv (Nat.pow_le_pow_right (by decide) hl)
  have hdec : decimal 65535 s = some (decimalValue s) :=
    if_pos ⟨hne,List.all_eq_true.mpr hd,by omega⟩
  have hu : unsignedFromStr 65535 s = some (decimalValue s) := by
    unfold unsignedFromStr
    split
    · exact absurd (hd '+' List.mem_cons_self) (by decide)
    · exact hdec
  exact ⟨_,congrArg (Option.map UInt16.ofNat) hu⟩

end Port

section Brackets

theorem not_mem_u16_trim {s : Str} {port : UInt16} (h : FromStr.std.u16 (trim s) = some port)
    (c : Char) (hc : ¬ isWhitespace c ∧ c ≠ '+' ∧ ¬ c.isDigit) : c ∉ s := fun hm =>
  (u16_chars h c (Delimiter.mem_trim_of_not isWhitespace hm hc.1)).elim hc.2.1 hc.2.2

theorem bracketed_refused (t : Str) : Refused (bracketed t) := by
  rw [refused_iff]
  intro d hd
  generalize hb : bracketed t = s at hd
  cases hd with
  | service service =>
    have hm : '[' ∈ service.slugName := hb ▸ List.mem_cons_self
    revert hm
    cases service <;> decide
  | port _ _ hp =>
    exact not_mem_u16_trim hp '[' (by decide) (hb ▸ List.mem_cons_self)
  | @addressed addrs portText port ips hc hp hi =>
    have hlast : ('[' :: t) ++ [']'] = addrs ++ ':' :: portText := hb
    rcases List.eq_nil_or_concat' portText with rfl | ⟨front,c,rfl⟩
    · exact absurd (List.append_inj' hlast rfl).2 (by decide)
    · have hcat : ('[' :: t) ++ [']'] = (addrs ++ ':' :: front) ++ [c] := by
        rw [hlast]
        simp
      obtain rfl : ']' = c := List.singleton_inj.mp (List.append_inj' hcat rfl).2
      exact not_mem_u16_trim hp ']' (by decide) (by simp)

end Brackets

section Address
variable {t : Str}

theorem addrChar_not_bracket {c : Char} (h : AddrChar c) : c ≠ '[' ∧ c ≠ ']' := by
  constructor <;> rintro rfl <;> revert h <;> simp only [AddrChar] <;> decide

theorem trim_address {s : Str} (h : ∀ c ∈ s, AddrChar c) : trim s = s :=
  Delimiter.trim_of_forall_not isWhitespace
    (fun c hc hw => addrChar_not_separator (h c hc) (.inr (.inr hw)))

theorem deleteBrackets_address {s : Str} (h : ∀ c ∈ s, AddrChar c) : deleteBrackets s = s := by
  have hf (b : Char) (hb : ∀ c ∈ s, c ≠ b) : s.filter (· ≠ b) = s :=
    List.filter_eq_self.mpr (fun c hc => decide_eq_true (hb c hc))
  rw [deleteBrackets,hf '[' (fun c hc => (addrChar_not_bracket (h c hc)).1),
    hf ']' (fun c hc => (addrChar_not_bracket (h c hc)).2)]

theorem splitOn_address {s : Str} (h : ∀ c ∈ s, AddrChar c) : s.splitOn ',' = [s] :=
  List.splitOn_eq_singleton (fun hm => addrChar_not_separator (h ',' hm) (.inr (.inl rfl)))

theorem pieces_address_iff {s : Str} (h : ∀ c ∈ s, AddrChar c) :
    (∃ ips, Destination.Pieces .std (s.splitOn ',') ips) ↔ s = [] ∨ (ipAddrFromStr s).isSome := by
  rw [splitOn_address h]
  have hs : (trim s).filter (fun c => c ≠ '[' ∧ c ≠ ']') = s := by
    rw [trim_address h,← deleteBrackets_eq,deleteBrackets_address h]
  constructor
  · rintro ⟨ips,hp⟩
    cases hp with
    | blank hb _ => exact .inl (by rw [← hs,hb])
    | addr _ hip _ =>
      rw [hs] at hip
      exact .inr (Option.isSome_of_eq_some hip)
  · intro hor
    by_cases hne : s = []
    · exact ⟨[],.blank (by rw [hs,hne]) .nil⟩
    · obtain ⟨ip,hip⟩ := Option.isSome_iff_exists.mp (hor.resolve_left hne)
      exact ⟨[ip],.addr (by rw [hs]; exact hne) (by rw [hs]; exact hip) .nil⟩

theorem address_separator (h : (ipAddrFromStr t).isSome) : '.' ∈ t ∨ ':' ∈ t := by
  rcases ipAddr_isSome.mp h with ⟨octets,h4⟩ | ⟨-,h6⟩
  · left
    by_contra hdot
    rw [readIpv4Addr_without_dot hdot] at h4
    cases h4
  · exact .inr (colon_of_ipv6 h6)

theorem text_ends_in_port (h : (ipAddrFromStr t).isSome) {d : Destination}
    (hd : Destination.Text .std t d) : EndsInPort t := by
  obtain ⟨ip,hip⟩ := Option.isSome_iff_exists.mp h
  have hchars := addr_chars hip
  cases hd with
  | service service =>
    have hdash : '-' ∈ service.slugName := by cases service <;> decide
    exact absurd (hchars '-' hdash) (by simp only [AddrChar]; decide)
  | port hc _ hp =>
    have hdot := (address_separator h).resolve_right hc
    exact absurd hdot (not_mem_u16_trim hp '.' (by decide))
  | @addressed addrs portText port ips hc hp hi =>
    have haddrs : ∀ c ∈ addrs, AddrChar c := fun c hm => hchars c (by simp [hm])
    have hport : ∀ c ∈ portText, AddrChar c := fun c hm => hchars c (by simp [hm])
    rw [trim_address hport] at hp
    have hdigits : ∀ c ∈ portText, c.isDigit := by
      intro c hm
      refine (u16_chars hp c hm).resolve_left ?_
      rintro rfl
      exact absurd (hport '+' hm) (by simp only [AddrChar]; decide)
    have hne := u16_ne_nil hp
    rcases (pieces_address_iff haddrs).mp ⟨ips,hi⟩ with rfl | hsome
    · exact absurd h (not_first_group hdigits hne)
    · obtain ⟨front,back,rfl,hback⟩ := address_before_last_group hdigits hne h hsome
      exact ⟨front,back,portText,rfl,hback,hne,hdigits⟩

theorem text_of_ends_in_port (h : (ipAddrFromStr t).isSome) (he : EndsInPort t) :
    ∃ d, Destination.Text .std t d := by
  obtain ⟨ip,hip⟩ := Option.isSome_iff_exists.mp h
  obtain ⟨front,back,digits,rfl,hback,hne,hdigits⟩ := he
  have hchars := addr_chars hip
  have hmore := oneMore_of_gap hdigits hne h rfl hback
  have hsome := hmore.isSome (ipv6_of_last_group h).1
  obtain ⟨port,hp⟩ := u16_of_digits hdigits hne hmore.short
  obtain ⟨ips,hi⟩ := (pieces_address_iff
    (fun c hm => hchars c (List.mem_append_left _ hm))).mpr (.inr hsome)
  have hport : trim digits = digits :=
    trim_address (fun c hm => hchars c (List.mem_append_right _ (List.mem_cons_of_mem ':' hm)))
  refine ⟨_,.addressed ?_ (by rw [hport]; exact hp) hi⟩
  exact fun hm => absurd (hdigits ':' hm) (by decide)

theorem portless_refused_iff {ip : IpAddr} (h : FromStr.std.ipAddr t = some ip) :
    Refused t ∧ Refused (bracketed t) ↔ ¬ EndsInPort t := by
  have hs : (ipAddrFromStr t).isSome := Option.isSome_of_eq_some h
  rw [and_iff_left (bracketed_refused t),refused_iff]
  constructor
  · intro hr he
    obtain ⟨d,hd⟩ := text_of_ends_in_port hs he
    exact hr d hd
  · exact fun hn d hd => hn (text_ends_in_port hs hd)

theorem loopback_refused :
    Refused "::1".toList ∧ Refused (bracketed "::1".toList) := by
  have hip : FromStr.std.ipAddr "::1".toList = some (.v6 1#128) := by decide +kernel
  refine (portless_refused_iff hip).mpr ?_
  rintro ⟨front,back,digits,he,-⟩
  have hcount := congrArg (List.count ':') he
  have htwo : List.count ':' "::1".toList = 2 := by decide
  simp only [htwo,List.count_append,List.count_cons_self] at hcount
  omega

theorem last_group_taken_as_port :
    FromStr.std.ipAddr "1::2:3".toList = some (.v6 0x00010000000000000000000000020003#128) ∧
      Destination.fromStr .std "1::2:3".toList =
        .ok (.socket ⟨.v6 0x00010000000000000000000000000002#128,3⟩) ∧
      ¬ (Refused "1::2:3".toList ∧ Refused (bracketed "1::2:3".toList)) := by
  have hd : Destination.fromStr .std "1::2:3".toList =
      .ok (.socket ⟨.v6 0x00010000000000000000000000000002#128,3⟩) := by decide +kernel
  refine ⟨by decide +kernel,hd,?_⟩
  rintro ⟨⟨e,he⟩,-⟩
  rw [hd] at he
  cases he

end Address

end PortlessAddress

end RustyValve
