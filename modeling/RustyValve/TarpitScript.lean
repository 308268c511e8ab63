import RustyValve.TarpitTasks

namespace RustyValve

open Execution Cyclic

namespace Tarpit
variable (transcript : List (List UInt8))

def Intact (t : Tarpit) : Prop := Begins t.sent transcript.flatten

def earlierLines (t : Tarpit) : List UInt8 := (firsts transcript t.line).flatten

def Whole (t : Tarpit) : Prop := t.sent = t.earlierLines transcript

-- A write that leaves some of its line behind; one that fails leaves all of it.
def Cuts (t : Tarpit) (event : TarpitEvent) : Prop :=
  ∃ line, t.point = .awaitsWrite line ∧ ∀ accepted, event = .wrote accepted → accepted < line.length

def Silent (events : List TarpitEvent) : Prop := ∀ accepted, .wrote accepted ∈ events → accepted = 0

-- Each write takes its whole line, save those after which nothing more is accepted.
def WholeLines (t : Tarpit) (events : List TarpitEvent) : Prop :=
  ∀ pre event post u, events = pre ++ event :: post → run (step transcript) t pre = some u →
    u.Cuts event → Silent post

-- Writes that accept something, until the first error.
structure UntilError (events : List TarpitEvent) : Prop where
  accepts : ∀ accepted, .wrote accepted ∈ events → 0 < accepted
  last : ∀ event post, event :: post <:+ events → event.IsError → post = []

variable {transcript}

theorem UntilError.tail {event : TarpitEvent} {events : List TarpitEvent}
    (h : UntilError (event :: events)) : UntilError events where
  accepts accepted hm := h.accepts accepted (List.mem_cons_of_mem _ hm)
  last e post hs := h.last e post (hs.trans (List.suffix_cons _ _))

theorem silent_nil : Silent [] := fun _ hm => absurd hm List.not_mem_nil

theorem wholeLines_before {t : Tarpit} {events pre : List TarpitEvent}
    (h : WholeLines transcript t events) (hp : pre <+: events) : WholeLines transcript t pre := by
  obtain ⟨rest,rfl⟩ := hp
  rintro before event post u rfl hu hc accepted hm
  exact h before event (post ++ rest) u (by simp) hu hc accepted (List.mem_append_left _ hm)

theorem wholeLines_silent {t : Tarpit} {events : List TarpitEvent} (h : Silent events) :
    WholeLines transcript t events := by
  rintro pre event post u rfl - - accepted hm
  exact h accepted (List.mem_append_right _ (List.mem_cons_of_mem _ hm))

theorem wholeLines_cons {t u : Tarpit} {event : TarpitEvent} {events : List TarpitEvent}
    (hu : t.step transcript event = some u) :
    WholeLines transcript t (event :: events) ↔
      (t.Cuts event → Silent events) ∧ WholeLines transcript u events := by
  constructor
  · intro h
    refine ⟨h [] event events t rfl rfl,?_⟩
    rintro pre e post v rfl hv
    exact h (event :: pre) e post v rfl (by rw [run_cons,hu,Option.bind_some,hv])
  · rintro ⟨hcuts,hrest⟩ pre e post v he hv
    cases pre with
    | nil =>
      obtain ⟨rfl,rfl⟩ := List.cons.inj he
      obtain rfl := Option.some.inj hv
      exact hcuts
    | cons _ pre =>
      obtain ⟨rfl,rfl⟩ := List.cons.inj he
      rw [run_cons,hu,Option.bind_some] at hv
      exact hrest pre e post v rfl hv

section Steps
variable {t u : Tarpit} {event : TarpitEvent}

theorem wakes_sent (t : Tarpit) : (t.wakes transcript).sent = t.sent := by
  unfold wakes
  split <;> rfl

theorem wakes_line (t : Tarpit) : (t.wakes transcript).line = t.line := by
  unfold wakes
  split <;> rfl

theorem step_silent (h : t.step transcript event = some u)
    (hn : ∀ accepted, event = .wrote accepted → accepted = 0) : u.sent = t.sent := by
  cases step_moves transcript h with
  | wakes hp => exact t.wakes_sent
  | writable | writableFails | writeFails => rfl
  | wrote line accepted hp hle =>
    obtain rfl := hn accepted rfl
    exact List.append_nil _

theorem run_silent {events : List TarpitEvent} (hs : Silent events)
    (h : run (step transcript) t events = some u) : u.sent = t.sent := by
  induction events generalizing t with
  | nil => rw [Option.some.inj h]
  | cons e events ih =>
    simp only [run_cons,Option.bind_eq_some_iff] at h
    obtain ⟨v,hv,hr⟩ := h
    rw [ih (fun accepted hm => hs accepted (List.mem_cons_of_mem _ hm)) hr,
      step_silent hv (fun accepted he => hs accepted (he ▸ List.mem_cons_self))]

theorem whole_intact (h : t.Whole transcript) : t.Intact transcript := by
  rw [Intact,h,earlierLines]
  exact (firsts_begins transcript t.line).flatten

theorem line_intact (hw : t.Whole transcript) {line : List UInt8}
    (hline : item transcript t.line = some line) (accepted : ℕ) :
    Begins (t.sent ++ line.take accepted) transcript.flatten := by
  rw [begins_append_iff (whole_intact hw),hw,earlierLines]
  intro j hj
  rw [List.length_take,Nat.lt_min] at hj
  rw [List.getElem?_take_of_lt hj.1]
  exact item_flatten hline hj.2

theorem step_whole (hi : t.InHand transcript) (hw : t.Whole transcript)
    (h : t.step transcript event = some u) (hn : ¬ t.Cuts event) : u.Whole transcript := by
  cases step_moves transcript h with
  | wakes hp =>
    rw [Whole,wakes_sent,earlierLines,wakes_line]
    exact hw
  | writable | writableFails => exact hw
  | wrote line accepted hp hle =>
    rw [InHand,hp] at hi
    have hall : line.length ≤ accepted := by
      by_contra hlt
      exact hn ⟨line,hp,fun _ he => TarpitEvent.wrote.inj he ▸ Nat.lt_of_not_le hlt⟩
    change t.sent ++ line.take accepted = (firsts transcript (t.line + 1)).flatten
    rw [List.take_of_length_le hall,firsts_succ hi,List.flatten_append,List.flatten_singleton,hw,
      earlierLines]
  | writeFails line hp =>
    refine absurd ⟨line,hp,fun accepted he => ?_⟩ hn
    cases he

theorem cut_intact (hi : t.InHand transcript) (hw : t.Whole transcript)
    (h : t.step transcript event = some u) (hc : t.Cuts event) : u.Intact transcript := by
  obtain ⟨line,hp,-⟩ := hc
  cases step_moves transcript h with
  | wakes hp' | writable _ hp' | writableFails _ hp' =>
    rw [hp] at hp'
    cases hp'
  | wrote line' accepted hp' hle =>
    rw [InHand,hp'] at hi
    exact line_intact hw hi accepted
  | writeFails =>
    change Begins t.sent transcript.flatten
    exact whole_intact hw

theorem whole_run_intact {events : List TarpitEvent} (hi : t.InHand transcript)
    (hw : t.Whole transcript) (h : WholeLines transcript t events)
    (hr : run (step transcript) t events = some u) : u.Intact transcript := by
  induction events generalizing t with
  | nil =>
    obtain rfl := Option.some.inj hr
    exact whole_intact hw
  | cons e events ih =>
    simp only [run_cons,Option.bind_eq_some_iff] at hr
    obtain ⟨v,hv,hr⟩ := hr
    obtain ⟨hcut,hrest⟩ := (wholeLines_cons hv).mp h
    by_cases hc : t.Cuts e
    · rw [Intact,run_silent (hcut hc) hr]
      exact cut_intact hi hw hv hc
    · exact ih (step_inHand t e v hi hv) (step_whole hi hw hv hc) hrest hr

end Steps

section Marked

-- A line of the same length whose first byte is found nowhere else in a line.
def marked : List UInt8 → List UInt8
  | [] => []
  | _ :: rest => 0 :: rest.map (fun _ => 1)

theorem marked_length (line : List UInt8) : (marked line).length = line.length := by
  cases line <;> simp [marked]

theorem marked_first {line : List UInt8} (h : 0 < line.length) : (marked line)[0]? = some 0 := by
  cases line with
  | nil => cases h
  | cons => rfl

theorem marked_later {line : List UInt8} {i : ℕ} (hi : 0 < i) (h : i < line.length) :
    (marked line)[i]? = some 1 := by
  obtain ⟨i,rfl⟩ := Nat.exists_eq_add_of_lt hi
  cases line with
  | nil => cases h
  | cons byte rest =>
    have hr : i < rest.length := by simpa using h
    simp [marked,hr]

def markedPoint : TarpitPoint → TarpitPoint
  | .awaitsWritable line => .awaitsWritable (marked line)
  | .awaitsWrite line => .awaitsWrite (marked line)
  | point => point

-- The same task on the marked lines, whatever it has sent.
structure Alike (t t' : Tarpit) : Prop where
  line : t'.line = t.line
  point : t'.point = markedPoint t.point

variable {t t' u : Tarpit} {event : TarpitEvent}

theorem cuts_alike (h : Alike t t') (hc : t.Cuts event) : t'.Cuts event := by
  obtain ⟨line,hp,hn⟩ := hc
  refine ⟨marked line,by rw [h.point,hp,markedPoint],fun accepted he => ?_⟩
  rw [marked_length]
  exact hn accepted he

theorem step_alike (h : Alike t t') (hu : t.step transcript event = some u) :
    ∃ u', t'.step (transcript.map marked) event = some u' ∧ Alike u u' := by
  have at_point {point : TarpitPoint} (hp : t.point = point) : t'.point = markedPoint point :=
    hp ▸ h.point
  cases step_moves transcript hu with
  | wakes hp =>
    have hp' : t'.point = .sleeping := at_point hp
    refine ⟨t'.wakes (transcript.map marked),by simp only [step,hp'],?_⟩
    constructor
    case line => rw [wakes_line,wakes_line,h.line]
    case point =>
      rw [wakes,wakes,h.line,item_map]
      cases item transcript t.line <;> rfl
  | writable line hp =>
    have hp' : t'.point = .awaitsWritable (marked line) := at_point hp
    exact ⟨{ t' with point := .awaitsWrite (marked line) },by simp only [step,hp'],h.line,rfl⟩
  | writableFails line hp =>
    have hp' : t'.point = .awaitsWritable (marked line) := at_point hp
    exact ⟨{ t' with point := .returned },by simp only [step,hp'],h.line,rfl⟩
  | wrote line accepted hp hn =>
    have hp' : t'.point = .awaitsWrite (marked line) := at_point hp
    exact ⟨({ t' with sent := t'.sent ++ (marked line).take accepted }).sleeps,
      by simp only [step,hp',marked_length,hn,if_true],congrArg (· + 1) h.line,rfl⟩
  | writeFails line hp =>
    have hp' : t'.point = .awaitsWrite (marked line) := at_point hp
    exact ⟨t'.sleeps,by simp only [step,hp'],congrArg (· + 1) h.line,rfl⟩

theorem run_alike {events : List TarpitEvent} (h : Alike t t')
    (hu : run (step transcript) t events = some u) :
    ∃ u', run (step (transcript.map marked)) t' events = some u' ∧ Alike u u' := by
  induction events generalizing t t' with
  | nil => exact ⟨t',rfl,Option.some.inj hu ▸ h⟩
  | cons e events ih =>
    simp only [run_cons,Option.bind_eq_some_iff] at hu ⊢
    obtain ⟨v,hv,hr⟩ := hu
    obtain ⟨v',hv',hvv⟩ := step_alike h hv
    obtain ⟨u',hu',huu⟩ := ih hvv hr
    exact ⟨u',⟨v',hv',hu'⟩,huu⟩

theorem wholeLines_alike {events : List TarpitEvent} (h : Alike t t')
    (hw : WholeLines (transcript.map marked) t' events) : WholeLines transcript t events := by
  intro pre e post u he hu hc
  obtain ⟨u',hu',huu⟩ := run_alike h hu
  exact hw pre e post u' he hu' (cuts_alike huu hc)

theorem item_marked {i : ℕ} {line : List UInt8} (h : item (transcript.map marked) i = some line) :
    ∃ text, marked text = line := by
  rw [item_map,Option.map_eq_some_iff] at h
  obtain ⟨text,-,he⟩ := h
  exact ⟨text,he⟩

theorem first_accepted {events : List TarpitEvent} (h : ¬ Silent events) :
    ∃ pre accepted post, events = pre ++ .wrote accepted :: post ∧ Silent pre ∧ 0 < accepted := by
  induction events with
  | nil => exact absurd silent_nil h
  | cons e events ih =>
    by_cases he : ∃ accepted, e = .wrote accepted ∧ 0 < accepted
    · obtain ⟨accepted,rfl,hn⟩ := he
      exact ⟨[],accepted,events,rfl,silent_nil,hn⟩
    · have quiet (accepted : ℕ) (hm : .wrote accepted = e) : accepted = 0 :=
        Nat.eq_zero_of_not_pos (fun hn => he ⟨accepted,hm.symm,hn⟩)
      obtain ⟨pre,accepted,post,rfl,hs,hn⟩ := ih (fun hs => h (fun accepted hm =>
        (List.mem_cons.mp hm).elim (quiet accepted) (hs accepted)))
      exact ⟨e :: pre,accepted,post,rfl,fun n hm => (List.mem_cons.mp hm).elim (quiet n) (hs n),hn⟩

-- What follows a line that was cut stands where the rest of that line should.
theorem garbled_after_cut {v w : Tarpit} {line : List UInt8} {written accepted : ℕ}
    (hw : t.Whole (transcript.map marked)) (hline : item (transcript.map marked) t.line = some line)
    (hwritten : 0 < written) (hcut : written < line.length)
    (hsent : v.sent = t.sent ++ line.take written) (hi : v.InHand (transcript.map marked))
    (hstep : v.step (transcript.map marked) (.wrote accepted) = some w) (hn : 0 < accepted) :
    ¬ w.Intact (transcript.map marked) := by
  intro hintact
  obtain ⟨text,rfl⟩ := item_marked hline
  cases step_moves _ hstep with
  | wrote next accepted hp hle =>
    rw [InHand,hp] at hi
    obtain ⟨nextText,rfl⟩ := item_marked hi
    rw [marked_length] at hcut hle
    have hlen : v.sent.length = (firsts (transcript.map marked) t.line).flatten.length + written := by
      rw [hsent,List.length_append,List.length_take_of_le (by rw [marked_length]; exact hcut.le),hw,
        earlierLines]
    have hbyte := begins_iff.mp hintact v.sent.length (by
      simp only [sleeps,List.length_append,List.length_take,marked_length]
      omega)
    have hfirst : (v.sent ++ (marked nextText).take accepted)[v.sent.length]? = some 0 := by
      rw [List.getElem?_append_right le_rfl,Nat.sub_self,List.getElem?_take_of_lt hn]
      exact marked_first (Nat.lt_of_lt_of_le hn hle)
    have hlater : item (transcript.map marked).flatten v.sent.length = some 1 := by
      rw [hlen,← item_flatten hline (by rw [marked_length]; exact hcut)]
      exact marked_later hwritten hcut
    rw [hlater] at hbyte
    cases hfirst.symm.trans hbyte

theorem run_garbled {events : List TarpitEvent} (hi : t.InHand (transcript.map marked))
    (hw : t.Whole (transcript.map marked)) (hevents : UntilError events)
    (hr : run (step (transcript.map marked)) t events = some u)
    (hn : ¬ WholeLines (transcript.map marked) t events) :
    ¬ Always (step (transcript.map marked)) (Intact (transcript.map marked)) t events := by
  induction events generalizing t with
  | nil => exact absurd (wholeLines_silent silent_nil) hn
  | cons e events ih =>
    intro halways
    simp only [run_cons,Option.bind_eq_some_iff] at hr
    obtain ⟨v,hv,hr⟩ := hr
    have hiv := step_inHand t e v hi hv
    rw [wholeLines_cons hv] at hn
    have hrest : Always (step (transcript.map marked)) (Intact (transcript.map marked)) v events :=
      fun pre x hp hx => halways (e :: pre) x (List.cons_prefix_cons.mpr ⟨rfl,hp⟩)
        (by rw [run_cons,hv,Option.bind_some,hx])
    by_cases hc : t.Cuts e
    case neg =>
      exact ih hiv (step_whole hi hw hv hc) hevents.tail hr
        (fun hl => hn ⟨fun hc' => absurd hc' hc,hl⟩) hrest
    case pos =>
      have hloud : ¬ Silent events := fun hs => hn ⟨fun _ => hs,wholeLines_silent hs⟩
      obtain ⟨line,hp,hshort⟩ := hc
      obtain ⟨pre,accepted,post,rfl,hs,hpos⟩ := first_accepted hloud
      simp only [run_append,run_cons,Option.bind_eq_some_iff] at hr
      obtain ⟨x,hx,w,hstep,-⟩ := hr
      cases step_moves _ hv with
      | wakes hp' | writable _ hp' | writableFails _ hp' =>
        rw [hp] at hp'
        cases hp'
      | writeFails =>
        have hend := hevents.last _ _ (List.suffix_refl _) (.inr rfl)
        exact absurd hend (by simp)
      | wrote line' written hp' hle =>
        rw [hp] at hp'
        obtain rfl := TarpitPoint.awaitsWrite.inj hp'
        rw [InHand,hp] at hi
        refine garbled_after_cut hw hi (hevents.accepts written List.mem_cons_self)
          (hshort written rfl) (run_silent hs hx) (run_invariant _ step_inHand hiv hx) hstep hpos ?_
        refine hrest (pre ++ [.wrote accepted]) w ⟨post,by simp⟩ ?_
        rw [run_append,hx,Option.bind_some,run_cons,hstep,Option.bind_some,run_nil]

end Marked

-- Whole lines are enough, and no weaker condition on the outcomes is, whatever the lines say.
theorem script_intact_of_whole_lines (transcript : List (List UInt8)) (tcpStream : StreamId)
    (settings : SshTarpit.Settings) {events : List TarpitEvent} {t : Tarpit}
    (hrun : run (step transcript) (new tcpStream settings) events = some t) :
    (WholeLines transcript (new tcpStream settings) events →
      Always (step transcript) (Intact transcript) (new tcpStream settings) events) ∧
    (UntilError events → ¬ WholeLines transcript (new tcpStream settings) events →
      ∃ lines : List (List UInt8), lines.map List.length = transcript.map List.length ∧
        ¬ Always (step lines) (Intact lines) (new tcpStream settings) events) := by
  have hwhole (lines : List (List UInt8)) : (new tcpStream settings).Whole lines := rfl
  constructor
  · intro h pre u hp hu
    exact whole_run_intact (new_inHand tcpStream settings) (hwhole _) (wholeLines_before h hp) hu
  · intro hevents hn
    have halike : Alike (new tcpStream settings) (new tcpStream settings) := ⟨rfl,rfl⟩
    obtain ⟨u,hu,-⟩ := run_alike halike hrun
    refine ⟨transcript.map marked,by simp [Function.comp_def,marked_length],?_⟩
    exact run_garbled (new_inHand tcpStream settings) (hwhole _) hevents hu
      (fun h => hn (wholeLines_alike halike h))

theorem run_line {t : Tarpit} (hp : t.point = .sleeping) {line : List UInt8} {accepted : ℕ}
    (hline : item transcript t.line = some line) (hn : accepted ≤ line.length) :
    run (step transcript) t [.wakes,.writable,.wrote accepted] =
      some ({ t with sent := t.sent ++ line.take accepted }).sleeps := by
  simp only [run_cons,run_nil,step,hp,wakes,hline,Option.bind_some,hn,if_true]
  rfl

theorem wholeLines_line {t : Tarpit} (hp : t.point = .sleeping) {line : List UInt8} {accepted : ℕ}
    (hline : item transcript t.line = some line) (hn : accepted ≤ line.length)
    (events : List TarpitEvent) :
    WholeLines transcript t (.wakes :: .writable :: .wrote accepted :: events) ↔
      (accepted < line.length → Silent events) ∧
        WholeLines transcript ({ t with sent := t.sent ++ line.take accepted }).sleeps events := by
  have hwakes : t.step transcript .wakes = some { t with point := .awaitsWritable line } := by
    simp only [step,hp,wakes,hline]
  have hwrote : step transcript { t with point := .awaitsWrite line } (.wrote accepted) =
      some ({ t with sent := t.sent ++ line.take accepted }).sleeps := by
    simp only [step,hn,if_true,sleeps]
  rw [wholeLines_cons hwakes,wholeLines_cons rfl,wholeLines_cons hwrote]
  simp [Cuts,hp]

def cutLine : List TarpitEvent := [.wakes,.writable,.wrote 1] ++ [.wakes,.writable,.wrote 13]

theorem cutLine_untilError : UntilError cutLine where
  accepts := by simp [cutLine]
  last event post hs he := by
    have hm : event ∈ cutLine := hs.subset List.mem_cons_self
    rcases he with rfl | rfl <;> exact absurd hm (by decide)

theorem whole_line_intact : Always (step transcriptOpening) (Intact transcriptOpening)
      (new 0 ⟨1000,10⟩) [.wakes,.writable,.wrote 29,.wakes,.writable,.wrote 5] ∧
    ∃ lines : List (List UInt8), lines.map List.length = [29,14] ∧
      ¬ Always (step lines) (Intact lines) (new 0 ⟨1000,10⟩) cutLine := by
  constructor
  · refine (script_intact_of_whole_lines transcriptOpening 0 ⟨1000,10⟩ rfl).1 ?_
    refine (wholeLines_line rfl rfl (by decide) _).mpr ⟨fun hn => absurd hn (by decide),?_⟩
    exact (wholeLines_line rfl rfl (by decide) _).mpr
      ⟨fun _ => silent_nil,wholeLines_silent silent_nil⟩
  · refine (script_intact_of_whole_lines transcriptOpening 0 ⟨1000,10⟩ rfl).2 cutLine_untilError
      (fun h => ?_)
    have hsilent := ((wholeLines_line rfl rfl (by decide) _).mp h).1 (by decide)
    exact absurd (hsilent 13 (by simp)) (by decide)

theorem run_cutLine (rest : List (List UInt8)) :
    run (step (transcriptOpening ++ rest)) (new 0 ⟨1000,10⟩) cutLine =
      some ⟨0,⟨1000,10⟩,2,Utf8.encode "Aof aviation,\r".toList,.sleeping⟩ := by
  rw [cutLine,run_append,run_line rfl (item_append (by decide) rest) (by decide),Option.bind_some,
    run_line rfl (item_append (by decide) rest) (by decide)]
  rfl

theorem short_write_garbles : ∃ events, ∀ rest, ∃ s,
    run (step (transcriptOpening ++ rest)) (new 0 ⟨1000,10⟩) events = some s ∧
      ¬ s.Intact (transcriptOpening ++ rest) := by
  refine ⟨cutLine,fun rest => ⟨_,run_cutLine rest,fun h => ?_⟩⟩
  have hbyte := begins_iff.mp h 1 (by decide)
  rw [List.flatten_append,item_append (by decide)] at hbyte
  revert hbyte
  decide

end Tarpit

end RustyValve
