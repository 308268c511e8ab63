import RustyValve.DestinationLanguage
import RustyValve.Library.Traversal

namespace RustyValve

namespace AddressLists

def Filled (pieces : List Str) : Prop := ∀ piece ∈ pieces, deleteBrackets (trim piece) ≠ []

theorem Filled.tail {piece : Str} {rest : List Str} (h : Filled (piece :: rest)) : Filled rest :=
  fun q hq => h q (by simp [hq])

theorem splitTerminator_filled {l : Str} (h : Filled (l.splitOn ',')) :
    Delimiter.splitTerminator ',' l = l.splitOn ',' := by
  unfold Delimiter.splitTerminator
  dsimp only
  split_ifs with hl
  · exact absurd rfl (h [] (List.mem_of_getLast? hl))
  · rfl

variable (parse : FromStr)

theorem ipAddr_eq_ok {value : Str} {ip : IpAddr} :
    TryFromConfig.ipAddr parse value = .ok ip ↔ parse.ipAddr (deleteBrackets value) = some ip := by
  unfold TryFromConfig.ipAddr TryFromConfig.ofOption
  cases parse.ipAddr (deleteBrackets value) <;> simp

theorem forall_pieces {pieces : List Str} (h : Filled pieces) {ips : List IpAddr} :
    List.Forall₂ (fun piece ip => TryFromConfig.ipAddr parse (trim piece) = .ok ip) pieces ips ↔
      Destination.Pieces parse pieces ips := by
  have filled {piece : Str} {rest : List Str} (h : Filled (piece :: rest)) :
      (trim piece).filter (fun c => c ≠ '[' ∧ c ≠ ']') ≠ [] :=
    deleteBrackets_eq (trim piece) ▸ h piece List.mem_cons_self
  simp only [ipAddr_eq_ok,deleteBrackets_eq]
  constructor
  · intro hf
    induction hf with
    | nil => exact .nil
    | cons hip _ ih => exact .addr (filled h) hip (ih h.tail)
  · intro hp
    induction hp with
    | nil => exact .nil
    | blank hb _ _ => exact absurd hb (filled h)
    | addr _ hip _ ih => exact .cons hip (ih h.tail)

theorem taken_eq {l key : Str} {self : Section} (hk : self.lookup key = some (some l))
    (h : Filled (l.splitOn ',')) {ips : List IpAddr} :
    (self.takeMultiValue (TryFromConfig.ipAddr parse) key).1 = .ok ips ↔
      Destination.Pieces parse (l.splitOn ',') ips := by
  rw [← forall_pieces parse h,← Traversal.mapM_eq_ok,← splitTerminator_filled h]
  simp [Section.takeMultiValue,hk]

theorem pieces_length {pieces : List Str} {ips : List IpAddr} (h : Filled pieces)
    (hp : Destination.Pieces parse pieces ips) : ips.length = pieces.length :=
  ((forall_pieces parse h).mpr hp).length_eq.symm

theorem ofAddrs_several (port : UInt16) {ips : List IpAddr} (h : 2 ≤ ips.length) :
    Destination.ofAddrs port ips = .portAndAddrs port ips := by
  match ips,h with
  | _ :: _ :: _,_ => rfl

structure Agree (port : UInt16) (taken : Except Error (List IpAddr))
    (read : Except Error Destination) : Prop where
  together : (∃ ips, taken = .ok ips) ↔ ∃ d, read = .ok d
  nonempty : taken ≠ .ok []
  one : ∀ ip, taken = .ok [ip] → read = .ok (.socket ⟨ip,port⟩)
  several : ∀ ips, taken = .ok ips → 2 ≤ ips.length → read = .ok (.portAndAddrs port ips)

end AddressLists

open AddressLists in
theorem address_lists_agree (parse : FromStr) (l portText key : Str) (port : UInt16)
    (self : Section) (hk : self.lookup key = some (some l)) (hl : Filled (l.splitOn ','))
    (hc : ':' ∉ portText) (hp : parse.u16 (trim portText) = some port) :
    Agree port (self.takeMultiValue (TryFromConfig.ipAddr parse) key).1
      (Destination.fromStr parse (l ++ ':' :: portText)) := by
  have read {ips : List IpAddr} (h : Destination.Pieces parse (l.splitOn ',') ips) :
      Destination.fromStr parse (l ++ ':' :: portText) = .ok (Destination.ofAddrs port ips) :=
    (Destination.fromStr_with_colon parse hc).mpr ⟨port,ips,hp,h,rfl⟩
  constructor
  · constructor
    · rintro ⟨ips,h⟩
      exact ⟨_,read ((taken_eq parse hk hl).mp h)⟩
    · rintro ⟨d,h⟩
      obtain ⟨_,ips,-,hi,-⟩ := (Destination.fromStr_with_colon parse hc).mp h
      exact ⟨ips,(taken_eq parse hk hl).mpr hi⟩
  · intro h
    have hn := pieces_length parse hl ((taken_eq parse hk hl).mp h)
    exact List.splitOn_ne_nil ',' l (List.eq_nil_of_length_eq_zero hn.symm)
  · exact fun ip h => read ((taken_eq parse hk hl).mp h)
  · intro ips h h2
    rw [read ((taken_eq parse hk hl).mp h),ofAddrs_several port h2]

def paddedPair : Section :=
  AList.singleton "bind-addresses".toList (some "127.0.0.1, [::1]".toList)

theorem address_lists_agree_padded_pair :
    AddressLists.Agree 4000
      (paddedPair.takeMultiValue (TryFromConfig.ipAddr .std) "bind-addresses".toList).1
      (Destination.fromStr .std ("127.0.0.1, [::1]".toList ++ ':' :: " 4000".toList)) :=
  address_lists_agree .std _ _ _ 4000 _ (by decide) (by unfold AddressLists.Filled; decide)
    (by decide) (by decide)

end RustyValve
