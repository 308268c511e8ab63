import RustyValve.DestinationLanguage
import RustyValve.Std.AddressText

namespace RustyValve

def listText (texts : List Str) : Str := [','].intercalate texts

theorem splitOn_listText {texts : List Str} (hc : ∀ t ∈ texts, ',' ∉ t) (hne : texts ≠ []) :
    (listText texts).splitOn ',' = texts := List.splitOn_intercalate ',' hc hne

theorem padded_not_separator {width n : ℕ} {c : Char} (h : c ∈ padded width n) : ¬ Separator c :=
  digit_not_separator (isDigit_padded h)

theorem trim_padded (width n : ℕ) : trim (padded width n) = padded width n :=
  Delimiter.trim_of_forall_not isWhitespace
    (fun _ hc hw => padded_not_separator hc (.inr (.inr hw)))

namespace IpAddr

theorem text_not_separator {ip : IpAddr} {c : Char} (h : c ∈ ip.text) : ¬ Separator c :=
  NetParser.addrChar_not_separator (mem_text h)

theorem text_no_comma (ip : IpAddr) : ',' ∉ ip.text := fun h => text_not_separator h (.inr (.inl rfl))

theorem trim_text (ip : IpAddr) : trim ip.text = ip.text :=
  Delimiter.trim_of_forall_not isWhitespace (fun _ hc hw => text_not_separator hc (.inr (.inr hw)))

theorem text_ne_nil (ip : IpAddr) : ip.text ≠ [] := by
  intro h
  have hr := ip.ipAddrFromStr_text
  rw [h] at hr
  cases hr

theorem deleteBrackets_text (ip : IpAddr) : deleteBrackets ip.text = ip.text := by
  have hnot (c : Char) (hc : ¬ NetParser.AddrChar c) : c ∉ ip.text := fun h => hc (mem_text h)
  have hopen : '[' ∉ ip.text := hnot '[' (by unfold NetParser.AddrChar; decide)
  have hclose : ']' ∉ ip.text := hnot ']' (by unfold NetParser.AddrChar; decide)
  have hkept {c : Char} (hc : c ∉ ip.text) : ip.text.filter (· ≠ c) = ip.text :=
    List.filter_eq_self.mpr (fun x hx => decide_eq_true (fun he => hc (he ▸ hx)))
  rw [deleteBrackets,hkept hopen,hkept hclose]

end IpAddr

namespace Destination

def text : Destination → Str
  | portOnly port => padded 0 port.toNat
  | socket addr => addr.ip.text ++ ':' :: padded 0 addr.port.toNat
  | portAndAddrs port addrs => listText (addrs.map IpAddr.text) ++ ':' :: padded 0 port.toNat
  | internalService service => service.slugName

-- One address makes a socket, and none leaves the port alone.
def Normal : Destination → Prop
  | portAndAddrs _ addrs => 2 ≤ addrs.length
  | _ => True

theorem pieces_text (ips : List IpAddr) : Pieces .std (ips.map IpAddr.text) ips := by
  induction ips with
  | nil => exact .nil
  | cons ip ips ih =>
    have hkept : (trim ip.text).filter (fun c => c ≠ '[' ∧ c ≠ ']') = ip.text := by
      rw [ip.trim_text,← deleteBrackets_eq,ip.deleteBrackets_text]
    refine .addr ?_ ?_ ih
    · rw [hkept]
      exact ip.text_ne_nil
    · rw [hkept]
      exact ip.ipAddrFromStr_text

theorem port_no_colon (port : UInt16) : ':' ∉ padded 0 port.toNat :=
  fun h => absurd (isDigit_padded h) (by decide)

theorem port_text (port : UInt16) : FromStr.std.u16 (trim (padded 0 port.toNat)) = some port := by
  rw [trim_padded]
  exact u16FromStr_padded 0 port

theorem port_not_slugName (port : UInt16) (service : InternalService) :
    padded 0 port.toNat ≠ service.slugName := by
  have hdash : '-' ∈ service.slugName := by cases service <;> decide
  exact fun h => absurd (isDigit_padded (h ▸ hdash)) (by decide)

theorem fromStr_addressed {ips : List IpAddr} (hne : ips ≠ []) (port : UInt16) :
    fromStr .std (listText (ips.map IpAddr.text) ++ ':' :: padded 0 port.toNat) =
      .ok (ofAddrs port ips) := by
  refine (fromStr_with_colon _ (port_no_colon port)).mpr ⟨port,ips,port_text port,?_,rfl⟩
  rw [splitOn_listText _ (fun h => hne (List.map_eq_nil_iff.mp h))]
  · exact pieces_text ips
  · intro t ht
    obtain ⟨ip,-,rfl⟩ := List.mem_map.mp ht
    exact ip.text_no_comma

theorem fromStr_text {d : Destination} (h : d.Normal) : fromStr .std d.text = .ok d := by
  cases d with
  | portOnly port =>
    exact (fromStr_without_colon _ (port_no_colon port) (port_not_slugName port)).mpr
      ⟨port,port_text port,rfl⟩
  | socket addr =>
    have hs := fromStr_addressed (List.cons_ne_nil addr.ip []) addr.port
    rwa [List.map_singleton,listText,List.intercalate_singleton] at hs
  | portAndAddrs port addrs =>
    have hs := fromStr_addressed (List.ne_nil_of_length_pos (Nat.zero_lt_of_lt h)) port
    match addrs, h with
    | ip :: ip' :: addrs, _ => exact hs
  | internalService service => exact fromStr_slugName _ service

variable {parse : FromStr}

theorem normal_ofAddrs (port : UInt16) : ∀ ips, (ofAddrs port ips).Normal
  | [] => trivial
  | [_] => trivial
  | _ :: _ :: ips => Nat.le_add_left 2 ips.length

theorem normal_of_fromStr {s : Str} {d : Destination} (h : fromStr parse s = .ok d) : d.Normal := by
  cases (fromStr_eq_ok parse).mp h with
  | service | port => trivial
  | @addressed _ _ port ips => exact normal_ofAddrs port ips

end Destination

namespace PossibleDestinations

def text (d : PossibleDestinations) : Str :=
  match d.elseDestination with
  | none => d.destination.text
  | some refuse => d.destination.text ++ '|' :: refuse.text

structure Normal (d : PossibleDestinations) : Prop where
  accept : d.destination.Normal
  refuse : ∀ refuse, d.elseDestination = some refuse → refuse.Normal

variable {parse : FromStr} {d : PossibleDestinations}

theorem possibleDestinations_text (h : d.Normal) :
    TryFromConfig.possibleDestinations .std d.text = .ok d := by
  obtain ⟨accept,refuse⟩ := d
  have ha := (Destination.fromStr_eq_ok _).mp (Destination.fromStr_text h.accept)
  have hb := ha.no_bar
  cases refuse with
  | none => exact (TryFromConfig.possible_without_bar _ hb).mpr ⟨accept,ha,rfl⟩
  | some refuse =>
    have hr := (Destination.fromStr_eq_ok _).mp (Destination.fromStr_text (h.refuse refuse rfl))
    exact (TryFromConfig.possible_with_bar _ hb).mpr ⟨accept,refuse,ha,hr,rfl⟩

theorem normal_of_read {value : Str} (h : TryFromConfig.possibleDestinations parse value = .ok d) :
    d.Normal := by
  have hn {s : Str} {e : Destination} (ht : Destination.Text parse s e) : e.Normal :=
    Destination.normal_of_fromStr ((Destination.fromStr_eq_ok parse).mpr ht)
  cases hs : Delimiter.splitOnce '|' value with
  | none =>
    obtain ⟨e,he,rfl⟩ :=
      (TryFromConfig.possible_without_bar parse (Delimiter.splitOnce_eq_none.mp hs)).mp h
    exact ⟨hn he,fun _ hr => by cases hr⟩
  | some p =>
    obtain ⟨rfl,ha⟩ := Delimiter.splitOnce_eq_some.mp hs
    obtain ⟨e,e',he,he',rfl⟩ := (TryFromConfig.possible_with_bar parse ha).mp h
    exact ⟨hn he,fun _ hr => Option.some.inj hr ▸ hn he'⟩

end PossibleDestinations

end RustyValve
