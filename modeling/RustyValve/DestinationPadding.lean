import RustyValve.DestinationLanguage

namespace RustyValve

namespace DestinationPadding

variable (parse : FromStr)

def padded (w : Padding) (t : Str) (w' : Padding) : Str := w.text ++ t ++ w'.text

-- A service name is matched before anything is trimmed.
def Untouched (w : Padding) (t : Str) (w' : Padding) : Prop :=
  (∃ service : InternalService, t = service.slugName) → w.text = [] ∧ w'.text = []

theorem padded_eq_slugName {w w' : Padding} {t : Str} {service : InternalService}
    (h : padded w t w' = service.slugName) : w.text = [] ∧ w'.text = [] := by
  have clean (v : Padding) (hv : ∀ c ∈ v.text, c ∈ service.slugName) : v.text = [] :=
    List.eq_nil_iff_forall_not_mem.mpr (fun c hc =>
      service.slugName_no_separator c (hv c hc) (.inr (.inr (v.whitespace c hc))))
  unfold padded at h
  exact ⟨clean w (fun c hc => by rw [← h]; simp [hc]),clean w' (fun c hc => by rw [← h]; simp [hc])⟩

theorem padded_not_slugName {w w' : Padding} {t : Str}
    (h : ∀ service : InternalService, t ≠ service.slugName) (service : InternalService) :
    padded w t w' ≠ service.slugName := by
  intro hp
  obtain ⟨hw,hw'⟩ := padded_eq_slugName hp
  exact h service (by simpa [padded,hw,hw'] using hp)

theorem padded_not_mem (w w' : Padding) {t : Str} {c : Char} (hc : ¬ isWhitespace c) (ht : c ∉ t) :
    c ∉ padded w t w' := by
  simp [padded,ht,w.not_mem hc,w'.not_mem hc]

theorem padded_pieces (w : Padding) {addrs : Str} {ips : List IpAddr}
    (h : Destination.Pieces parse (addrs.splitOn ',') ips) :
    Destination.Pieces parse ((w.text ++ addrs).splitOn ',') ips := by
  have hm := Delimiter.map_trim_splitOn_append isWhitespace (d := ',') w.text addrs []
    (by decide) w.whitespace (by simp)
  rw [List.append_nil] at hm
  exact h.congr parse hm.symm

theorem padded_text {w w' : Padding} {t : Str} {d : Destination} (ht : Destination.Text parse t d)
    (hs : ∀ service : InternalService, t ≠ service.slugName) :
    Destination.Text parse (padded w t w') d := by
  cases ht with
  | service service => exact absurd rfl (hs service)
  | port hc _ hp =>
    exact .port (padded_not_mem w w' (by decide) hc) (padded_not_slugName hs)
      (by rw [padded,w.trim_between,hp])
  | @addressed addrs portText port ips hc hp hi =>
    have he : padded w (addrs ++ ':' :: portText) w' =
        (w.text ++ addrs) ++ ':' :: (portText ++ w'.text) := by
      simp [padded]
    have ht : trim (portText ++ w'.text) = trim portText := Padding.none.trim_between portText w'
    rw [he]
    exact .addressed (by simp [hc,w'.not_mem (c := ':') (by decide)]) (by rw [ht,hp])
      (padded_pieces parse w hi)

theorem text_internalService {t : Str} {service : InternalService}
    (h : Destination.Text parse t (.internalService service)) : t = service.slugName := by
  generalize hd : Destination.internalService service = d at h
  cases h with
  | service service' =>
    cases hd
    rfl
  | port _ _ _ => cases hd
  | addressed _ _ _ =>
    split at hd <;> cases hd

theorem padded_text_iff {w w' : Padding} {t : Str} {d : Destination}
    (ht : Destination.Text parse t d) :
    Destination.Text parse (padded w t w') d ↔ Untouched w t w' := by
  constructor
  · rintro hp ⟨service,rfl⟩
    have hd := (Destination.fromStr_eq_ok parse).mpr ht
    rw [Destination.fromStr_slugName,Except.ok.injEq] at hd
    subst hd
    exact padded_eq_slugName (text_internalService parse hp)
  · intro hu
    by_cases hs : ∃ service : InternalService, t = service.slugName
    · obtain ⟨hw,hw'⟩ := hu hs
      simpa [padded,hw,hw'] using ht
    · push Not at hs
      exact padded_text parse ht hs

end DestinationPadding

namespace TryFromConfig
open DestinationPadding

theorem padding_insignificant_iff (parse : FromStr) {a r : Str} {d₁ d₂ : Destination}
    (h₁ : Destination.fromStr parse a = .ok d₁) (h₂ : Destination.fromStr parse r = .ok d₂)
    (w₁ w₂ w₃ w₄ : Padding) :
    (possibleDestinations parse (padded w₁ a w₂ ++ '|' :: padded w₃ r w₄) =
        .ok (.withElse d₁ d₂) ↔ Untouched w₁ a w₂ ∧ Untouched w₃ r w₄) ∧
      (possibleDestinations parse (padded w₁ a w₂) = .ok (.withoutElse d₁) ↔
        Untouched w₁ a w₂) := by
  have t₁ := (Destination.fromStr_eq_ok parse).mp h₁
  have t₂ := (Destination.fromStr_eq_ok parse).mp h₂
  have hb : '|' ∉ padded w₁ a w₂ := padded_not_mem w₁ w₂ (by decide) (t₁.no_bar parse)
  rw [possible_with_bar parse hb,possible_without_bar parse hb,← padded_text_iff parse t₁,
    ← padded_text_iff parse t₂]
  constructor
  · constructor
    · rintro ⟨d,d',hd,hd',he⟩
      cases he
      exact ⟨hd,hd'⟩
    · rintro ⟨hd,hd'⟩
      exact ⟨d₁,d₂,hd,hd',rfl⟩
  · constructor
    · rintro ⟨d,hd,he⟩
      cases he
      exact hd
    · exact fun hd => ⟨d₁,hd,rfl⟩

def space : Padding := ⟨[' '],Padding.space_blank⟩

theorem padding_around_port_insignificant :
    possibleDestinations .std (padded space "127.0.0.1 : 80".toList space ++
        '|' :: padded space "4000".toList space) =
      .ok (.withElse (.socket ⟨.v4 0x7F000001#32,80⟩) (.portOnly 4000)) := by
  have ha : Destination.fromStr .std "127.0.0.1 : 80".toList =
      .ok (.socket ⟨.v4 0x7F000001#32,80⟩) := by
    decide +kernel
  have hr : Destination.fromStr .std "4000".toList = .ok (.portOnly 4000) := by decide
  have h := padding_insignificant_iff .std ha hr space space space space
  refine h.1.mpr ⟨?_,?_⟩ <;> rintro ⟨service,hs⟩ <;> cases service <;> exact absurd hs (by decide)

theorem padded_service_refused :
    Destination.fromStr .std "ssh-tarpit".toList = .ok (.internalService .sshTarpit) ∧
      Destination.fromStr .std "4000".toList = .ok (.portOnly 4000) ∧
      (possibleDestinations .std (padded .none "ssh-tarpit".toList space ++
        '|' :: padded space "4000".toList .none)).toOption = none := by
  decide

end TryFromConfig

end RustyValve
