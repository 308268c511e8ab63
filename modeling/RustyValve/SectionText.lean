import RustyValve.DestinationText
import RustyValve.Library.Traversal
import RustyValve.Loading

namespace RustyValve

namespace Section
variable {T : Type} {tryFromConfig : Str → Except Error T} {self : Section} {key : Str}

theorem takeOptValue_line {value : Option Str} (h : self.lookup key = some value) :
    (self.takeOptValue tryFromConfig key).1 =
      value.bind (fun v => (tryFromConfig v).toOption) := by
  simp only [takeOptValue,h]
  cases value <;> rfl

-- A text of the list that reads back as what was written.
structure Writes (tryFromConfig : Str → Except Error T) (write : T → Str) : Prop where
  reads : ∀ x, tryFromConfig (trim (write x)) = .ok x
  no_comma : ∀ x, ',' ∉ write x
  nonempty : ∀ x, write x ≠ []

theorem splitTerminator_listText {texts : List Str} (hc : ∀ t ∈ texts, ',' ∉ t)
    (hne : ∀ t ∈ texts, t ≠ []) : Delimiter.splitTerminator ',' (listText texts) = texts := by
  by_cases ht : texts = []
  · subst ht
    rfl
  · have hlast : texts.getLast? ≠ some [] := fun h => hne [] (List.mem_of_getLast? h) rfl
    rw [Delimiter.splitTerminator,splitOn_listText hc ht,if_neg hlast]

theorem takeMultiValue_line {write : T → Str} (hw : Writes tryFromConfig write) {xs : List T}
    (h : self.lookup key = some (some (listText (xs.map write)))) :
    (self.takeMultiValue tryFromConfig key).1 = .ok xs := by
  have hsplit : Delimiter.splitTerminator ',' (listText (xs.map write)) = xs.map write := by
    refine splitTerminator_listText ?_ ?_
    · exact List.forall_mem_map.mpr (fun x _ => hw.no_comma x)
    · exact List.forall_mem_map.mpr (fun x _ => hw.nonempty x)
  simp only [takeMultiValue,h,Option.join_some,hsplit,Traversal.mapM_eq_ok,
    List.forall₂_map_left_iff,List.forall₂_same]
  exact fun x _ => hw.reads x

theorem writes_ipAddr : Writes (TryFromConfig.ipAddr .std) IpAddr.text where
  reads ip := by
    rw [ip.trim_text,TryFromConfig.ipAddr,ip.deleteBrackets_text,TryFromConfig.ofOption]
    simp only [FromStr.std,ip.ipAddrFromStr_text]
  no_comma := IpAddr.text_no_comma
  nonempty := IpAddr.text_ne_nil

theorem padded_ne_nil (width n : ℕ) : padded width n ≠ [] := fun h =>
  Nat.toDigits_ne_nil (List.append_eq_nil_iff.mp h).2

theorem writes_u16 : Writes (TryFromConfig.u16 .std) (fun port => padded 0 port.toNat) where
  reads port := by
    rw [trim_padded,TryFromConfig.u16,TryFromConfig.ofOption]
    simp only [FromStr.std,u16FromStr_padded]
  no_comma _ h := padded_not_separator h (.inr (.inl rfl))
  nonempty _ := padded_ne_nil _ _

end Section

namespace HostTable

def lines (hosts : HostTable) : List (Sigma fun _ : Str => Option Str) :=
  hosts.toList.map (fun p => ⟨p.1,some p.2.text⟩)

theorem nodupKeys_lines (hosts : HostTable) : hosts.lines.NodupKeys := by
  rw [List.nodupKeys_iff_pairwise,lines,List.pairwise_map]
  refine Std.ExtTreeMap.distinct_keys_toList.imp (fun {p q} h he => h ?_)
  rw [Std.LawfulEqCmp.compare_eq_iff_eq]
  exact he

def toSection (hosts : HostTable) : Section := ⟨hosts.lines,hosts.nodupKeys_lines⟩

theorem lookup_toSection (hosts : HostTable) (name : Str) :
    hosts.toSection.lookup name = hosts[name]?.map (fun d => some d.text) := by
  apply Option.ext
  intro value
  rw [← Option.mem_def,AList.mem_lookup_iff,Option.map_eq_some_iff]
  simp only [toSection,lines,List.mem_map,Sigma.mk.injEq,heq_eq_eq,Prod.exists]
  constructor
  · rintro ⟨name',d,hm,rfl,rfl⟩
    exact ⟨d,Std.ExtTreeMap.mem_toList_iff_getElem?_eq_some.mp hm,rfl⟩
  · rintro ⟨d,hd,rfl⟩
    exact ⟨name,d,Std.ExtTreeMap.mem_toList_iff_getElem?_eq_some.mpr hd,rfl,rfl⟩

variable {hosts : HostTable}

theorem destinationOr_text {d : PossibleDestinations} (h : d.Normal) (fallback : Destination) :
    ConfigBuilder.destinationOr .std fallback (some d.text) = d := by
  rw [ConfigBuilder.destinationOr,Option.bind_some,PossibleDestinations.possibleDestinations_text h]
  rfl

theorem insertHosts_toSection
    (h : ∀ (name : Str) (d : PossibleDestinations), hosts[name]? = some d → d.Normal)
    (fallback : Destination) :
    ConfigBuilder.insertHosts .std fallback hosts.toSection ∅ = hosts := by
  apply Std.ExtTreeMap.ext_getElem?
  intro name
  rw [Loading.insertHosts_getElem?,lookup_toSection,Std.ExtTreeMap.getElem?_empty,Option.or_none,
    Option.map_map]
  cases hn : hosts[name]? with
  | none => rfl
  | some d => exact congrArg some (destinationOr_text (h name d hn) fallback)

end HostTable

namespace Routes

-- A port may have several routes, and each needs a key of its own: longer and longer texts.
def lines : ℕ → List Route → List (Sigma fun _ : Str => Option Str)
  | _,[] => []
  | width,r :: routes => ⟨padded width r.1.toNat,some r.2.text⟩ :: lines (width + 1) routes

theorem length_port_text {width : ℕ} (hw : 5 ≤ width) (port : UInt16) :
    (padded width port.toNat).length = width := by
  refine length_padded (Nat.le_trans ?_ hw)
  rw [Nat.length_toDigits_le_iff (by decide) (by decide)]
  exact Nat.lt_trans port.toNat_lt (by decide)

theorem length_key {width : ℕ} (hw : 5 ≤ width) {routes : List Route}
    {e : Sigma fun _ : Str => Option Str} (h : e ∈ lines width routes) : width ≤ e.1.length := by
  induction routes generalizing width with
  | nil => cases h
  | cons r routes ih =>
    rcases List.mem_cons.mp h with rfl | h
    · exact (length_port_text hw r.1).ge
    · exact Nat.le_of_succ_le (ih (Nat.le_succ_of_le hw) h)

theorem nodupKeys_lines {width : ℕ} (hw : 5 ≤ width) (routes : List Route) :
    (lines width routes).NodupKeys := by
  induction routes generalizing width with
  | nil => exact List.nodupKeys_nil
  | cons r routes ih =>
    refine List.nodupKeys_cons.mpr ⟨fun hk => ?_,ih (Nat.le_succ_of_le hw)⟩
    obtain ⟨e,he,hkey⟩ := List.mem_map.mp hk
    have hl := length_key (Nat.le_succ_of_le hw) he
    rw [hkey,length_port_text hw] at hl
    exact Nat.lt_irrefl width hl

def toSection (routes : List Route) : Section := ⟨lines 5 routes,nodupKeys_lines le_rfl routes⟩

theorem read_lines {routes : List Route} (h : ∀ r ∈ routes, r.2.Normal) (width : ℕ) :
    (lines width routes).mapM (Loading.route .std) = some routes := by
  induction routes generalizing width with
  | nil => rfl
  | cons r routes ih =>
    have hr : Loading.route .std ⟨padded width r.1.toNat,some r.2.text⟩ = some r := by
      have hp : FromStr.std.u16 (padded width r.1.toNat) = some r.1 := u16FromStr_padded width r.1
      rw [Loading.route,hp,Option.map_some,
        HostTable.destinationOr_text (h r List.mem_cons_self)]
    have hrest := ih (fun r' hm => h r' (List.mem_cons_of_mem r hm)) (width + 1)
    rw [lines,List.mapM_cons,hr,hrest]
    rfl

end Routes

end RustyValve
