import RustyValve.HostHeader

namespace RustyValve

namespace PartialRequest

open HostHeader

theorem colon_not_whitespace : ¬ isWhitespace ':' := by decide

theorem hostName_eq (value : Str) :
    hostName value = match Delimiter.rsplitOnce ':' value with
      | some (name,_) => Delimiter.trimStart isWhitespace name
      | none => value := by
  unfold hostName
  cases hs : Delimiter.rsplitOnce ':' value with
  | none =>
    have hc : ':' ∉ trim value := fun h =>
      Delimiter.rsplitOnce_eq_none.mp hs (Delimiter.mem_of_mem_trim isWhitespace h)
    rw [Delimiter.rsplitOnce_eq_none.mpr hc]
  | some p =>
    obtain ⟨name,port⟩ := p
    obtain ⟨rfl,hp⟩ := Delimiter.rsplitOnce_eq_some.mp hs
    obtain ⟨b,hb,-⟩ := Delimiter.trimEnd_decomposition isWhitespace port
    have ht : ':' ∉ Delimiter.trimEnd isWhitespace port := fun h => hp (by rw [hb]; simp [h])
    rw [trim,Delimiter.trim_append_of_not isWhitespace name port colon_not_whitespace,
      Delimiter.rsplitOnce_append ':' _ _ ht]

theorem hostName_of_not_mem {value : Str} (h : ':' ∉ value) : hostName value = value := by
  rw [hostName_eq,Delimiter.rsplitOnce_eq_none.mpr h]

theorem hostName_append {name port : Str} (h : ':' ∉ port) :
    hostName (name ++ ':' :: port) = Delimiter.trimStart isWhitespace name := by
  rw [hostName_eq,Delimiter.rsplitOnce_append ':' _ _ h]

def Agrees (missing : ℕ) (delivered value : Str) : Prop :=
  if ':' ∈ delivered then value.count ':' = delivered.count ':'
  else delivered ++ List.replicate missing '\x00' =
    match Delimiter.rsplitOnce ':' value with
    | some (name,_) => Delimiter.trimStart isWhitespace name
    | none => value

theorem colon_not_mem_zeros (missing : ℕ) : ':' ∉ List.replicate missing '\x00' := by
  simp [List.mem_replicate]

theorem hostName_agrees {missing : ℕ} {delivered value : Str}
    (h : ∀ name port, delivered = name ++ ':' :: port → ∃ rest, value = name ++ ':' :: rest) :
    hostName value = hostName (delivered ++ List.replicate missing '\x00') ↔
      Agrees missing delivered value := by
  unfold Agrees
  split
  case isFalse hd =>
    have hz : ':' ∉ delivered ++ List.replicate missing '\x00' := by simp [hd]
    rw [hostName_of_not_mem hz,← hostName_eq,eq_comm]
  case isTrue hd =>
    obtain ⟨⟨name,port⟩,hs⟩ := Option.ne_none_iff_exists'.mp
      (fun hn => Delimiter.rsplitOnce_eq_none.mp hn hd)
    obtain ⟨rfl,hp⟩ := Delimiter.rsplitOnce_eq_some.mp hs
    obtain ⟨rest,rfl⟩ := h name port rfl
    have hz : ':' ∉ port ++ List.replicate missing '\x00' := by simp [hp]
    rw [List.append_assoc,List.cons_append,hostName_append hz]
    have hcount : (name ++ ':' :: rest).count ':' = (name ++ ':' :: port).count ':' ↔
        ':' ∉ rest := by
      simp [List.count_append,List.count_eq_zero.mpr hp,List.count_eq_zero]
    rw [hcount]
    constructor
    · intro he hr
      obtain ⟨⟨x,y⟩,hs⟩ := Option.ne_none_iff_exists'.mp
        (fun hn => Delimiter.rsplitOnce_eq_none.mp hn hr)
      obtain ⟨rfl,hy⟩ := Delimiter.rsplitOnce_eq_some.mp hs
      rw [← List.cons_append,← List.append_assoc,hostName_append hy,
        Delimiter.trimStart_append_of_not isWhitespace name x colon_not_whitespace] at he
      simpa using congrArg List.length he
    · exact fun hr => hostName_append hr

def delivered (request : List UInt8) (n : ℕ) : List UInt8 :=
  Lines.complete Lines.lf (request.take n)

def cutLine (request : List UInt8) (n : ℕ) : List UInt8 :=
  Lines.unfinished Lines.lf (request.take n)

-- The line of the whole request that the cut falls into.
def requestLine (request : List UInt8) (n : ℕ) : Option Str :=
  (Lines.lines (request.drop (delivered request n).length)).head?.join

theorem request_eq (request : List UInt8) (n : ℕ) :
    request = delivered request n ++ (cutLine request n ++ request.drop n) := by
  rw [← List.append_assoc,delivered,cutLine,Lines.complete_append_unfinished,List.take_append_drop]

theorem drop_delivered (request : List UInt8) (n : ℕ) :
    request.drop (delivered request n).length = cutLine request n ++ request.drop n :=
  (congrArg (List.drop _) (request_eq request n)).trans List.drop_left

theorem lines_delivered_append (request : List UInt8) (n : ℕ) (bs : List UInt8) :
    Lines.lines (delivered request n ++ bs) =
      Lines.lines (delivered request n) ++ Lines.lines bs := by
  simp only [Lines.lines,delivered,Lines.splitInclusive_complete_append,List.map_append]

theorem peekBuffer_cut (request : List UInt8) {n : ℕ} (h : n ≤ min 512 request.length) :
    peekBuffer 512 (request.take n) =
      delivered request n ++ (cutLine request n ++ List.replicate (512 - n) 0) := by
  have hl : (request.take n).length = n := by
    rw [List.length_take]
    omega
  rw [peekBuffer_of_ge (by omega),hl,← List.append_assoc,delivered,cutLine,
    Lines.complete_append_unfinished]

theorem unterminated_decision {t : List UInt8} (h : Lines.lf ∉ t) :
    firstDecision (Lines.lines t) = decision (Lines.readLine t) := by
  rcases List.eq_nil_or_concat t with rfl | ⟨s,b,hs⟩
  · rfl
  · rw [Lines.lines_unterminated h (by simp [hs]),firstDecision_singleton]

theorem padded_decision {t : List UInt8} (h : Lines.lf ∉ t) (missing : ℕ) (name : Str) :
    firstDecision (Lines.lines (t ++ List.replicate missing 0)) = some name ↔
      ∃ field value, ':' ∉ field ∧ eqIgnoreAsciiCase field "host".toList ∧
        t = Utf8.encode (field ++ ':' :: value) ∧
        hostName (value ++ List.replicate missing '\x00') = name := by
  have hl : Lines.lf ∉ t ++ List.replicate missing 0 := by
    simp [h,List.mem_replicate,Lines.lf]
  have hz : List.replicate missing (0 : UInt8) = Utf8.encode (List.replicate missing '\x00') :=
    (Utf8.encode_replicate missing (d := '\x00') (by decide)).symm
  simp only [unterminated_decision hl,decision,Option.bind_eq_some_iff,hostField_eq_some]
  constructor
  · rintro ⟨line,hr,field,value',hf,rfl,he,hn⟩
    obtain ⟨w,hw,ht⟩ := Utf8.encode_eq_append_replicate (d := '\x00') missing (by decide)
      (Lines.readLine_unterminated_eq_some hl hr)
    have hc : ':' ∈ w := by
      have hm : ':' ∈ w ++ List.replicate missing '\x00' := by rw [← hw]; simp
      exact (List.mem_append.mp hm).resolve_right (colon_not_mem_zeros missing)
    obtain ⟨⟨f,value⟩,hs⟩ := Option.ne_none_iff_exists'.mp
      (fun hn => Delimiter.splitOnce_eq_none.mp hn hc)
    obtain ⟨rfl,hf'⟩ := Delimiter.splitOnce_eq_some.mp hs
    have h1 := Delimiter.splitOnce_append ':' field value' hf
    rw [hw,List.append_assoc,List.cons_append,Delimiter.splitOnce_append ':' _ _ hf',
      Option.some.injEq,Prod.mk.injEq] at h1
    obtain ⟨rfl,rfl⟩ := h1
    exact ⟨f,value,hf,he,ht,hn⟩
  · rintro ⟨field,value,hf,he,rfl,hn⟩
    refine ⟨(field ++ ':' :: value) ++ List.replicate missing '\x00',?_,field,
      value ++ List.replicate missing '\x00',hf,by simp,he,hn⟩
    rw [hz,← Utf8.encode_append] at hl ⊢
    exact Lines.readLine_unterminated (fun hm => hl (Lines.lf_mem_encode.mpr hm))

def CutAgrees (request : List UInt8) (n : ℕ) : Prop :=
  ∀ field value, ':' ∉ field → eqIgnoreAsciiCase field "host".toList →
    cutLine request n = Utf8.encode (field ++ ':' :: value) →
    ∃ full, requestLine request n = some (field ++ ':' :: full) ∧ Agrees (512 - n) value full

theorem host_line_decision {field value : Str} (hf : ':' ∉ field)
    (he : eqIgnoreAsciiCase field "host".toList) (hn : '\n' ∉ field ++ ':' :: value)
    (rest : List UInt8) (missing : ℕ) :
    firstDecision (Lines.lines (Utf8.encode (field ++ ':' :: value) ++ rest)) =
        some (hostName (value ++ List.replicate missing '\x00')) ↔
      ∃ full, (Lines.lines (Utf8.encode (field ++ ':' :: value) ++ rest)).head?.join =
          some (field ++ ':' :: full) ∧ Agrees missing value full := by
  obtain ⟨line,more,hls,hb⟩ := Lines.first_line_begins hn (by simp) rest
  rw [hls,firstDecision_cons,List.head?_cons,Option.join_some]
  cases line with
  | none => simp [decides,decision]
  | some s =>
    obtain ⟨full,rfl⟩ := hb s rfl field ':' value rfl (by decide)
    have hd : hostField (field ++ ':' :: full) = some (hostName full) :=
      hostField_eq_some.mpr ⟨field,full,hf,rfl,he,rfl⟩
    have hx : ∀ name port, value = name ++ ':' :: port → ∃ rest, full = name ++ ':' :: rest := by
      rintro name port rfl
      obtain ⟨r,hr⟩ := hb _ rfl (field ++ ':' :: name) ':' port (by simp) (by decide)
      exact ⟨r,by simpa using hr⟩
    simp only [decides,decision,Option.bind_some,hd,Option.isSome_some,if_true,Option.some.injEq,
      List.append_cancel_left_eq,List.cons.injEq,true_and,exists_eq_left']
    exact hostName_agrees hx

theorem partial_scan {request : List UInt8} {n : ℕ} (h : n ≤ min 512 request.length) :
    extractHostFromHttpHeader (.arrived (request.take n)) =
      firstDecision (Lines.lines (delivered request n) ++
        Lines.lines (cutLine request n ++ List.replicate (512 - n) 0)) := by
  rw [extractHostFromHttpHeader,peekTimeout,peekBuffer_cut request h]
  exact (scan_lines _).trans (congrArg firstDecision (lines_delivered_append request n _))

theorem whole_scan (request : List UInt8) (n : ℕ) :
    scanHost (Lines.lines request) =
      firstDecision (Lines.lines (delivered request n) ++
        Lines.lines (cutLine request n ++ request.drop n)) := by
  rw [scan_lines,← lines_delivered_append,← request_eq]

theorem cutLine_no_newline {request : List UInt8} {n : ℕ} {line : Str}
    (h : cutLine request n = Utf8.encode line) : '\n' ∉ line := fun hm =>
  Lines.not_mem_unfinished Lines.lf (request.take n)
    (by rw [← cutLine,h]; exact Lines.lf_mem_encode.mpr hm)

def PartialAgrees (request : List UInt8) (n : ℕ) : Prop :=
  ∀ name, extractHostFromHttpHeader (.arrived (request.take n)) = some name →
    scanHost (Lines.lines request) = some name

theorem partial_request_iff {request : List UInt8} {n : ℕ} (h : n ≤ min 512 request.length) :
    PartialAgrees request n ↔
      (∃ l ∈ Lines.lines (delivered request n), decides l) ∨ CutAgrees request n := by
  rw [PartialAgrees,partial_scan h,whole_scan request n]
  by_cases hd : ∃ l ∈ Lines.lines (delivered request n), decides l
  · simp only [hd,true_or,firstDecision_append_of_decides _ hd,imp_self,implies_true]
  · have hl : Lines.lf ∉ cutLine request n := Lines.not_mem_unfinished Lines.lf (request.take n)
    simp only [hd,false_or,firstDecision_append_of_not _ hd,padded_decision hl,CutAgrees,
      requestLine,drop_delivered]
    constructor
    · intro hc field value hf he ht
      have hs := hc _ ⟨field,value,hf,he,ht,rfl⟩
      have hn := cutLine_no_newline ht
      rw [ht] at hs ⊢
      exact (host_line_decision hf he hn _ _).mp hs
    · rintro hc name ⟨field,value,hf,he,ht,rfl⟩
      have hs := hc field value hf he ht
      have hn := cutLine_no_newline ht
      rw [ht] at hs ⊢
      exact (host_line_decision hf he hn _ _).mpr hs

def loopbackRequest : List UInt8 := Utf8.encode "Host: [::1]:8080\r\nAccept: */*\r\n\r\n".toList

theorem delivered_host_line : PartialAgrees loopbackRequest 22 :=
  (partial_request_iff (by decide)).mpr (.inl (List.any_eq_true.mp (by decide +kernel)))

theorem cut_address_name :
    extractHostFromHttpHeader (.arrived (loopbackRequest.take 10)) = some "[:".toList := by
  have hd : Lines.lines (delivered loopbackRequest 10) = [] := by decide
  have hv (missing : ℕ) : hostName (" [::1".toList ++ List.replicate missing '\x00') = "[:".toList :=
    @hostName_append " [:".toList ('1' :: List.replicate missing '\x00')
      (by simp [List.mem_replicate])
  rw [partial_scan (by decide),hd,List.nil_append]
  exact (padded_decision (Lines.not_mem_unfinished _ _) _ _).mpr
    ⟨"Host".toList," [::1".toList,by decide,by decide,by decide,hv (512 - 10)⟩

theorem cut_inside_address :
    extractHostFromHttpHeader (.arrived (loopbackRequest.take 10)) = some "[:".toList ∧
      scanHost (Lines.lines loopbackRequest) = some "[::1]".toList ∧
      ¬ PartialAgrees loopbackRequest 10 := by
  have hr : scanHost (Lines.lines loopbackRequest) = some "[::1]".toList := by
    decide +kernel
  refine ⟨cut_address_name,hr,fun h => ?_⟩
  have hn := h _ cut_address_name
  rw [hr] at hn
  exact absurd hn (by decide)

end PartialRequest

end RustyValve
