import RustyValve.Config.IniFile

namespace RustyValve

namespace Destination
variable (parse : FromStr)

inductive Pieces : List Str → List IpAddr → Prop
  | nil : Pieces [] []
  | blank {piece rest ips} : (trim piece).filter (fun c => c ≠ '[' ∧ c ≠ ']') = [] →
      Pieces rest ips → Pieces (piece :: rest) ips
  | addr {piece rest ip ips} : (trim piece).filter (fun c => c ≠ '[' ∧ c ≠ ']') ≠ [] →
      parse.ipAddr ((trim piece).filter (fun c => c ≠ '[' ∧ c ≠ ']')) = some ip → Pieces rest ips →
      Pieces (piece :: rest) (ip :: ips)

inductive Text : Str → Destination → Prop
  | service (service : InternalService) : Text service.slugName (internalService service)
  | port {t port} : ':' ∉ t → (∀ service : InternalService, t ≠ service.slugName) →
      parse.u16 (trim t) = some port → Text t (portOnly port)
  | addressed {addrs portText port ips} : ':' ∉ portText → parse.u16 (trim portText) = some port →
      Pieces parse (addrs.splitOn ',') ips →
      Text (addrs ++ ':' :: portText) (match ips with
        | [] => portOnly port
        | [ip] => socket ⟨ip,port⟩
        | ips => portAndAddrs port ips)

theorem parseAddrs_eq_ok {pieces : List Str} {ips : List IpAddr} :
    parseAddrs parse pieces = .ok ips ↔ Pieces parse pieces ips := by
  constructor
  · intro h
    induction pieces generalizing ips with
    | nil =>
      cases h
      exact .nil
    | cons piece rest ih =>
      simp only [parseAddrs,deleteBrackets_eq] at h
      split_ifs at h with hb
      · exact .blank hb (ih h)
      · split at h
        case h_1 => cases h
        case h_2 ip hip =>
          cases hr : parseAddrs parse rest with
          | error e => simp [hr,Except.map] at h
          | ok tail =>
            simp only [hr,Except.map,Except.ok.injEq] at h
            subst h
            exact .addr hb hip (ih hr)
  · intro h
    induction h with
    | nil => rfl
    | blank hb _ ih => simp only [parseAddrs,deleteBrackets_eq,hb,if_true,ih]
    | addr hb hip _ ih => simp only [parseAddrs,deleteBrackets_eq,hb,if_false,hip,ih,Except.map]

theorem Pieces.congr {ps qs : List Str} {ips : List IpAddr} (h : ps.map trim = qs.map trim)
    (hp : Pieces parse ps ips) : Pieces parse qs ips := by
  induction hp generalizing qs with
  | nil =>
    rw [List.map_nil,eq_comm,List.map_eq_nil_iff] at h
    exact h ▸ .nil
  | blank hb _ ih =>
    obtain ⟨q,qs,rfl,hq,hqs⟩ := List.map_eq_cons_iff.mp h.symm
    exact .blank (hq ▸ hb) (ih hqs.symm)
  | addr hb hip _ ih =>
    obtain ⟨q,qs,rfl,hq,hqs⟩ := List.map_eq_cons_iff.mp h.symm
    exact .addr (hq ▸ hb) (hq ▸ hip) (ih hqs.symm)

theorem trim_pieces (addrs : Str) :
    ((trim addrs).splitOn ',').map trim = (addrs.splitOn ',').map trim := by
  obtain ⟨a,b,hx,ha,hb⟩ := Delimiter.trim_decomposition isWhitespace addrs
  have hm := Delimiter.map_trim_splitOn_append isWhitespace (d := ',') a (trim addrs) b
    (by decide) ha hb
  rw [trim,← hx] at hm
  exact hm.symm

theorem pieces_of_addrPieces_none {addrs : Str} (h : addrPieces addrs = none) :
    Pieces parse (addrs.splitOn ',') [] := by
  have ht : trim addrs = [] := by
    simp only [addrPieces] at h
    split at h
    · assumption
    · cases h
  apply Pieces.congr parse (trim_pieces addrs)
  rw [ht]
  exact .blank (by decide) .nil

theorem pieces_iff_addrPieces {addrs : Str} {pieces : List Str} {ips : List IpAddr}
    (h : addrPieces addrs = some pieces) :
    Pieces parse pieces ips ↔ Pieces parse (addrs.splitOn ',') ips := by
  have hp : pieces = (trim addrs).splitOn ',' := by
    simp only [addrPieces] at h
    split at h
    · cases h
    · have hi : trim (trim addrs) = trim addrs := Delimiter.trim_trim isWhitespace addrs
      rw [hi,Option.some.injEq] at h
      exact h.symm
  rw [hp]
  exact ⟨Pieces.congr parse (trim_pieces addrs),Pieces.congr parse (trim_pieces addrs).symm⟩

theorem pieces_functional {ps : List Str} {ips ips' : List IpAddr} (h : Pieces parse ps ips)
    (h' : Pieces parse ps ips') : ips = ips' := by
  have ha := (parseAddrs_eq_ok parse).mpr h
  rw [(parseAddrs_eq_ok parse).mpr h'] at ha
  exact (Except.ok.inj ha).symm

theorem fromStr_not_service {s : Str} (h : ∀ service : InternalService, s ≠ service.slugName) :
    ∃ e, InternalService.fromStr s = .error e := by
  cases hs : InternalService.fromStr s with
  | error e => exact ⟨e,rfl⟩
  | ok service => exact absurd (InternalService.fromStr_eq_ok.mp hs) (h service)

theorem fromStr_slugName (service : InternalService) :
    fromStr parse service.slugName = .ok (internalService service) := by
  simp [fromStr,InternalService.fromStr_eq_ok.mpr rfl]

theorem fromStr_without_colon {t : Str} (hc : ':' ∉ t)
    (hs : ∀ service : InternalService, t ≠ service.slugName) {d : Destination} :
    fromStr parse t = .ok d ↔ ∃ port, parse.u16 (trim t) = some port ∧ d = portOnly port := by
  obtain ⟨e,he⟩ := fromStr_not_service hs
  have hr := Delimiter.rsplitOnce_eq_none.mpr hc
  cases hp : parse.u16 (trim t) with
  | none => simp [fromStr,he,assumedParts,hr,hp]
  | some port => simp [fromStr,he,assumedParts,hr,hp,eq_comm]

theorem not_slugName_of_colon {t : Str} (h : ':' ∈ t) (service : InternalService) :
    t ≠ service.slugName :=
  fun he => service.slugName_no_colon (he ▸ h)

theorem fromStr_with_colon {addrs portText : Str} (hc : ':' ∉ portText) {d : Destination} :
    fromStr parse (addrs ++ ':' :: portText) = .ok d ↔
      ∃ port ips, parse.u16 (trim portText) = some port ∧
        Pieces parse (addrs.splitOn ',') ips ∧ d = ofAddrs port ips := by
  obtain ⟨e,he⟩ := fromStr_not_service (not_slugName_of_colon (t := addrs ++ ':' :: portText) (by simp))
  have hr := Delimiter.rsplitOnce_append ':' addrs portText hc
  cases hp : parse.u16 (trim portText) with
  | none => simp [fromStr,he,assumedParts,hr,hp]
  | some port =>
    cases ha : addrPieces addrs with
    | none =>
      have hn := pieces_of_addrPieces_none parse ha
      simp only [fromStr,he,assumedParts,hr,hp,ha,Except.ok.injEq,Option.some.injEq]
      constructor
      · rintro rfl
        exact ⟨port,[],rfl,hn,rfl⟩
      · rintro ⟨_,ips,rfl,hi,rfl⟩
        rw [← pieces_functional parse hn hi]
        rfl
    | some pieces =>
      simp only [fromStr,he,assumedParts,hr,hp,ha,Option.some.injEq]
      constructor
      · intro h
        cases hq : parseAddrs parse pieces with
        | error e => simp [hq,Except.map] at h
        | ok ips =>
          simp only [hq,Except.map,Except.ok.injEq] at h
          exact ⟨port,ips,rfl,(pieces_iff_addrPieces parse ha).mp ((parseAddrs_eq_ok parse).mp hq),
            h.symm⟩
      · rintro ⟨_,ips,rfl,hi,rfl⟩
        have hq := (parseAddrs_eq_ok parse).mpr ((pieces_iff_addrPieces parse ha).mpr hi)
        simp [hq,Except.map]

theorem fromStr_eq_ok {t : Str} {d : Destination} : fromStr parse t = .ok d ↔ Text parse t d := by
  constructor
  · intro h
    by_cases hs : ∃ service : InternalService, t = service.slugName
    · obtain ⟨service,rfl⟩ := hs
      rw [fromStr_slugName,Except.ok.injEq] at h
      exact h ▸ .service service
    · push Not at hs
      cases hr : Delimiter.rsplitOnce ':' t with
      | none =>
        have hc := Delimiter.rsplitOnce_eq_none.mp hr
        obtain ⟨port,hp,rfl⟩ := (fromStr_without_colon parse hc hs).mp h
        exact .port hc hs hp
      | some p =>
        obtain ⟨addrs,portText⟩ := p
        obtain ⟨rfl,hc⟩ := Delimiter.rsplitOnce_eq_some.mp hr
        obtain ⟨port,ips,hp,hi,rfl⟩ := (fromStr_with_colon parse hc).mp h
        exact .addressed hc hp hi
  · intro h
    cases h with
    | service service => exact fromStr_slugName parse service
    | port hc hs hp => exact (fromStr_without_colon parse hc hs).mpr ⟨_,hp,rfl⟩
    | addressed hc hp hi => exact (fromStr_with_colon parse hc).mpr ⟨_,_,hp,hi,rfl⟩

theorem Pieces.no_bar {ps : List Str} {ips : List IpAddr} (h : Pieces parse ps ips) :
    ∀ piece ∈ ps, '|' ∉ piece := by
  have kept {piece : Str} (hm : '|' ∈ piece) :
      '|' ∈ (trim piece).filter (fun c => c ≠ '[' ∧ c ≠ ']') :=
    List.mem_filter.mpr ⟨Delimiter.mem_trim_of_not isWhitespace hm (by decide),by decide⟩
  induction h with
  | nil => simp
  | blank hb _ ih =>
    refine List.forall_mem_cons.mpr ⟨fun hm => ?_,ih⟩
    have hk := kept hm
    rw [hb] at hk
    cases hk
  | addr _ hip _ ih =>
    refine List.forall_mem_cons.mpr ⟨fun hm => ?_,ih⟩
    exact parse.not_mem_of_ipAddr hip (.inl rfl) (kept hm)

theorem u16_text_no_bar {t : Str} {port : UInt16} (h : parse.u16 (trim t) = some port) : '|' ∉ t :=
  fun hm => parse.not_mem_of_u16 h (.inl rfl)
    (Delimiter.mem_trim_of_not isWhitespace hm (by decide))

theorem Text.no_bar {t : Str} {d : Destination} (h : Text parse t d) : '|' ∉ t := by
  cases h with
  | service service => exact fun hm => service.slugName_no_separator '|' hm (.inl rfl)
  | port _ _ hp => exact u16_text_no_bar parse hp
  | addressed _ hp hi =>
    simp only [List.mem_append,List.mem_cons,not_or]
    refine ⟨fun hm => ?_,by decide,u16_text_no_bar parse hp⟩
    obtain ⟨piece,hpm,hb⟩ := Delimiter.exists_mem_splitOn (d := ',') (by decide) hm
    exact hi.no_bar parse piece hpm hb

end Destination

namespace TryFromConfig

variable (parse : FromStr) {possible : PossibleDestinations}

theorem possible_without_bar {value : Str} (hb : '|' ∉ value) :
    possibleDestinations parse value = .ok possible ↔
      ∃ d, Destination.Text parse value d ∧ possible = .withoutElse d := by
  simp only [possibleDestinations,Delimiter.splitOnce_eq_none.mpr hb]
  constructor
  · intro h
    cases hd : Destination.fromStr parse value with
    | error e => simp [hd,bind,Except.bind] at h
    | ok d =>
      simp only [hd,bind,Except.bind,pure,Except.pure,Except.ok.injEq] at h
      exact ⟨d,(Destination.fromStr_eq_ok parse).mp hd,h.symm⟩
  · rintro ⟨d,hd,rfl⟩
    simp [(Destination.fromStr_eq_ok parse).mpr hd,bind,Except.bind,pure,Except.pure]

theorem possible_with_bar {accept refuse : Str} (ha : '|' ∉ accept) :
    possibleDestinations parse (accept ++ '|' :: refuse) = .ok possible ↔
      ∃ d₁ d₂, Destination.Text parse accept d₁ ∧ Destination.Text parse refuse d₂ ∧
        possible = .withElse d₁ d₂ := by
  simp only [possibleDestinations,Delimiter.splitOnce_append '|' accept refuse ha]
  constructor
  · intro h
    cases h1 : Destination.fromStr parse accept with
    | error e => simp [h1,bind,Except.bind] at h
    | ok d₁ =>
      cases h2 : Destination.fromStr parse refuse with
      | error e => simp [h1,h2,bind,Except.bind] at h
      | ok d₂ =>
        simp only [h1,h2,bind,Except.bind,pure,Except.pure,Except.ok.injEq] at h
        exact ⟨d₁,d₂,(Destination.fromStr_eq_ok parse).mp h1,(Destination.fromStr_eq_ok parse).mp h2,
          h.symm⟩
  · rintro ⟨d₁,d₂,h1,h2,rfl⟩
    simp [(Destination.fromStr_eq_ok parse).mpr h1,(Destination.fromStr_eq_ok parse).mpr h2,
      bind,Except.bind,pure,Except.pure]

end TryFromConfig

theorem TryFromConfig.destination_language (parse : FromStr) (value : Str)
    (possible : PossibleDestinations) :
    TryFromConfig.possibleDestinations parse value = .ok possible ↔
      ('|' ∉ value ∧ ∃ d, Destination.Text parse value d ∧ possible = .withoutElse d) ∨
      (∃ accept refuse d₁ d₂, value = accept ++ '|' :: refuse ∧ '|' ∉ accept ∧ '|' ∉ refuse ∧
        Destination.Text parse accept d₁ ∧ Destination.Text parse refuse d₂ ∧
        possible = .withElse d₁ d₂) := by
  constructor
  · intro h
    cases hs : Delimiter.splitOnce '|' value with
    | none =>
      have hb := Delimiter.splitOnce_eq_none.mp hs
      exact .inl ⟨hb,(possible_without_bar parse hb).mp h⟩
    | some p =>
      obtain ⟨accept,refuse⟩ := p
      obtain ⟨rfl,ha⟩ := Delimiter.splitOnce_eq_some.mp hs
      obtain ⟨d₁,d₂,h1,h2,rfl⟩ := (possible_with_bar parse ha).mp h
      exact .inr ⟨accept,refuse,d₁,d₂,rfl,ha,h2.no_bar parse,h1,h2,rfl⟩
  · rintro (⟨hb,h⟩ | ⟨accept,refuse,d₁,d₂,rfl,ha,-,h1,h2,rfl⟩)
    · exact (possible_without_bar parse hb).mpr h
    · exact (possible_with_bar parse ha).mpr ⟨d₁,d₂,h1,h2,rfl⟩

-- Brackets stand around the first address and are missing around the third.
theorem TryFromConfig.bracketed_addresses_read :
    TryFromConfig.possibleDestinations .std "[::1], 10.0.0.1 ,::2: 80|ssh-tarpit".toList =
      .ok (.withElse (.portAndAddrs 80 [.v6 1#128,.v4 0x0A000001#32,.v6 2#128])
        (.internalService .sshTarpit)) := by
  refine (TryFromConfig.destination_language .std _ _).mpr (.inr
    ⟨"[::1], 10.0.0.1 ,::2: 80".toList,"ssh-tarpit".toList,_,_,rfl,by decide,by decide,?_,
      .service .sshTarpit,rfl⟩)
  refine @Destination.Text.addressed .std "[::1], 10.0.0.1 ,::2".toList " 80".toList 80
    [.v6 1#128,.v4 0x0A000001#32,.v6 2#128] (by decide) (by decide) ?_
  exact .addr (by decide) (by decide +kernel) (.addr (by decide) (by decide +kernel)
    (.addr (by decide) (by decide +kernel) .nil))

end RustyValve
