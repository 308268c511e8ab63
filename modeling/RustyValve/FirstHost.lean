import RustyValve.HostHeader

namespace RustyValve

namespace FirstHost

open HostHeader

def HostLine (line : List UInt8) : Prop :=
  ∃ (field : Str) (value : List UInt8), ':' ∉ field ∧ line = Utf8.encode (field ++ [':']) ++ value ∧
    eqIgnoreAsciiCase field "host".toList

def lineName (line : List UInt8) : Option Str := (Utf8.decode line).bind hostField

theorem hostLine_encode {s : Str} : HostLine (Utf8.encode s) ↔ (hostField s).isSome := by
  rw [Option.isSome_iff_exists]
  constructor
  · rintro ⟨field,value,hf,hs,he⟩
    obtain ⟨r,rfl,-⟩ := Utf8.encode_prefix hs.symm
    exact ⟨_,hostField_eq_some.mpr ⟨field,r,hf,by simp,he,rfl⟩⟩
  · rintro ⟨name,h⟩
    obtain ⟨field,value,hf,rfl,he,-⟩ := hostField_eq_some.mp h
    exact ⟨field,Utf8.encode value,hf,by simp,he⟩

theorem lineName_isSome {line : List UInt8} :
    (lineName line).isSome ↔ (Utf8.decode line).isSome ∧ HostLine line := by
  cases hd : Utf8.decode line with
  | none => simp [lineName,hd]
  | some s =>
    rw [lineName,hd,Utf8.decode_eq_some.mp hd,hostLine_encode]
    simp

theorem decides_decode {line : List UInt8} :
    decides (Utf8.decode line) = false ↔ (Utf8.decode line).isSome ∧ ¬ HostLine line := by
  cases hd : Utf8.decode line with
  | none => simp [decides]
  | some s =>
    rw [Utf8.decode_eq_some.mp hd,hostLine_encode,decides]
    simp

structure Leads (ls before : List (List UInt8)) (line : List UInt8) : Prop where
  split : ∃ after, ls = before ++ line :: after
  earlier : ∀ l ∈ before, ¬ HostLine l
  host : HostLine line

theorem Leads.unique {ls before before' : List (List UInt8)} {line line' : List UInt8}
    (h : Leads ls before line) (h' : Leads ls before' line') : before = before' ∧ line = line' := by
  obtain ⟨⟨after,rfl⟩,he,hh⟩ := h
  obtain ⟨⟨after',hs⟩,he',hh'⟩ := h'
  induction before generalizing before' with
  | nil =>
    cases before' with
    | nil => exact ⟨rfl,(List.cons.inj hs).1⟩
    | cons l before' =>
      obtain ⟨rfl,-⟩ := List.cons.inj hs
      exact absurd hh (he' _ (by simp))
  | cons l before ih =>
    cases before' with
    | nil =>
      obtain ⟨rfl,-⟩ := List.cons.inj hs
      exact absurd hh' (he _ (by simp))
    | cons l' before' =>
      obtain ⟨rfl,ht⟩ := List.cons.inj hs
      obtain ⟨rfl,hl⟩ := ih (fun x hx => he x (by simp [hx])) (fun x hx => he' x (by simp [hx])) ht
      exact ⟨rfl,hl⟩

def Readable (ls : List (List UInt8)) : Prop := ∀ l ∈ ls, (Utf8.decode l).isSome

theorem firstDecision_decoded {ls : List (List UInt8)} {name : Str} :
    firstDecision (ls.map Utf8.decode) = some name ↔
      ∃ before line, Leads ls before line ∧ Readable (before ++ [line]) ∧ lineName line = some name := by
  rw [firstDecision_eq_some]
  constructor
  · rintro ⟨b,s,a,hls,hb,hs⟩
    obtain ⟨before,rest,rfl,rfl,hr⟩ := List.map_eq_append_iff.mp hls
    obtain ⟨line,after,rfl,hl,-⟩ := List.map_eq_cons_iff.mp hr
    have hn : lineName line = some name := by rw [lineName,hl,Option.bind_some,hs]
    have hh := lineName_isSome.mp (by rw [hn]; rfl)
    have he (l : List UInt8) (hm : l ∈ before) := decides_decode.mp (hb _ (List.mem_map_of_mem hm))
    refine ⟨before,line,⟨⟨after,rfl⟩,fun l hm => (he l hm).2,hh.2⟩,fun l hm => ?_,hn⟩
    rcases List.mem_append.mp hm with hm | hm
    · exact (he l hm).1
    · rw [List.mem_singleton.mp hm]
      exact hh.1
  · rintro ⟨before,line,⟨⟨after,rfl⟩,he,hh⟩,hv,hn⟩
    obtain ⟨s,hl,hs⟩ := Option.bind_eq_some_iff.mp hn
    refine ⟨before.map Utf8.decode,s,after.map Utf8.decode,by simp [hl],fun l hm => ?_,hs⟩
    obtain ⟨raw,hr,rfl⟩ := List.mem_map.mp hm
    exact decides_decode.mpr ⟨hv raw (by simp [hr]),he raw hr⟩

structure PeekedBuffer where
  bytes : List UInt8
  full : bytes.length = 512

namespace PeekedBuffer

def hostScan (buf : PeekedBuffer) : Option Str := extractHostFromHttpHeader (.arrived buf.bytes)

theorem hostScan_eq (buf : PeekedBuffer) :
    buf.hostScan = firstDecision ((Lines.rawLines buf.bytes).map Utf8.decode) := by
  rw [← Lines.lines_eq_decode,← scan_lines,hostScan,extractHostFromHttpHeader,peekTimeout,
    peekBuffer_of_le buf.full.ge,← buf.full,List.take_length]

theorem hostScan_isSome (buf : PeekedBuffer) : buf.hostScan.isSome ↔
    ∃ before line, Leads (Lines.rawLines buf.bytes) before line ∧ Readable (before ++ [line]) := by
  rw [hostScan_eq,Option.isSome_iff_exists]
  simp only [firstDecision_decoded]
  constructor
  · rintro ⟨name,before,line,hl,hv,-⟩
    exact ⟨before,line,hl,hv⟩
  · rintro ⟨before,line,hl,hv⟩
    have hn := lineName_isSome.mpr ⟨hv line (by simp),hl.host⟩
    obtain ⟨name,hn⟩ := Option.isSome_iff_exists.mp hn
    exact ⟨name,before,line,hl,hv,hn⟩

theorem hostScan_name (buf : PeekedBuffer) {before : List (List UInt8)} {line : List UInt8}
    (h : Leads (Lines.rawLines buf.bytes) before line) {name : Str} (hn : buf.hostScan = some name) :
    lineName line = some name := by
  rw [hostScan_eq] at hn
  obtain ⟨before',line',h',-,hl⟩ := firstDecision_decoded.mp hn
  rw [(h.unique h').2,hl]

theorem hostScan_prefix (buf : PeekedBuffer) {t rest : List UInt8} (hb : buf.bytes = t ++ [Lines.lf] ++ rest)
    {before : List (List UInt8)} {line : List UInt8} (h : Leads (Lines.rawLines (t ++ [Lines.lf])) before line) :
    buf.hostScan = firstDecision (Lines.lines (t ++ [Lines.lf])) := by
  rw [hostScan_eq,← Lines.lines_eq_decode,hb,Lines.lines_append]
  apply firstDecision_append_of_decides
  obtain ⟨after,hs⟩ := h.split
  refine ⟨Utf8.decode line,?_,?_⟩
  · rw [Lines.lines_eq_decode,hs]
    simp
  · rw [← Bool.not_eq_false,decides_decode]
    exact fun hd => hd.2 h.host

end PeekedBuffer

theorem first_host_line_wins :
    (∀ buf : PeekedBuffer, buf.hostScan.isSome ↔
      ∃ before line, Leads (Lines.rawLines buf.bytes) before line ∧ Readable (before ++ [line])) ∧
    (∀ (buf : PeekedBuffer) (before : List (List UInt8)) (line : List UInt8) (name : Str),
      Leads (Lines.rawLines buf.bytes) before line → buf.hostScan = some name →
        lineName line = some name) ∧
    ∀ (buf buf' : PeekedBuffer) (t rest rest' : List UInt8) (before : List (List UInt8))
      (line : List UInt8), buf.bytes = t ++ [Lines.lf] ++ rest →
        buf'.bytes = t ++ [Lines.lf] ++ rest' → Leads (Lines.rawLines (t ++ [Lines.lf])) before line →
          buf.hostScan = buf'.hostScan := by
  refine ⟨PeekedBuffer.hostScan_isSome,fun buf _ _ _ h hn => buf.hostScan_name h hn,?_⟩
  intro buf buf' t rest rest' before line hb hb' h
  rw [buf.hostScan_prefix hb h,buf'.hostScan_prefix hb' h]

end FirstHost

end RustyValve
