import RustyValve.Listeners.TlsHttpRp

namespace RustyValve

namespace ClientHello

def Admitted (settings : TlsConnectionSettings) (record : List UInt8) : Prop :=
  record.getD 0 0 = 0x16 ∧ record.getD 1 0 = 0x03 ∧
    record.getD 2 0 ∈ [(0x01 : UInt8),0x03,0x04] ∧ chSize record ≤ settings.maxClientHelloSize

instance (settings : TlsConnectionSettings) (record : List UInt8) :
    Decidable (Admitted settings record) := by
  unfold Admitted
  infer_instance

structure CompleteRecord (settings : TlsConnectionSettings) (stream : List UInt8) : Prop where
  admitted : Admitted settings stream
  complete : chSize stream + 5 ≤ stream.length

section Buffers

theorem getD_take (n i : ℕ) (bs : List UInt8) :
    (bs.take n).getD i 0 = if i < n then bs.getD i 0 else 0 := by
  by_cases h : i < n <;> simp [h]

theorem peekBuffer_getD {size i : ℕ} (h : i < size) (available : List UInt8) :
    (peekBuffer size available).getD i 0 = available.getD i 0 := by
  simp only [peekBuffer,List.getD_eq_getElem?_getD,List.getElem?_append,List.length_take,
    List.getElem?_take,List.getElem?_replicate]
  split_ifs with h1 h2
  · rfl
  · rw [List.getElem?_eq_none (by omega)]
    rfl
  · omega

theorem header_getD {n i : ℕ} (h : i < 5) (stream : List UInt8) :
    (peekBuffer 5 (stream.take n)).getD i 0 = if i < n then stream.getD i 0 else 0 := by
  rw [peekBuffer_getD h,getD_take]

theorem delivered_of_ne {n i : ℕ} (h : i < 5) {stream : List UInt8}
    (hne : (peekBuffer 5 (stream.take n)).getD i 0 ≠ 0) :
    (peekBuffer 5 (stream.take n)).getD i 0 = stream.getD i 0 := by
  rw [header_getD h] at hne ⊢
  split
  · rfl
  · case isFalse hi => exact absurd (if_neg hi) hne

theorem chSize_bytes {a b : List UInt8} (h : chSize a = chSize b) :
    a.getD 3 0 = b.getD 3 0 ∧ a.getD 4 0 = b.getD 4 0 := by
  unfold chSize at h
  have ha := (a.getD 4 0).toNat_lt
  have hb := (b.getD 4 0).toNat_lt
  constructor <;> apply UInt8.toNat_inj.mp <;> omega

theorem header_ext {a b : List UInt8} (ha : a.length = 5) (hb : b.length = 5)
    (h : ∀ i < 5, a.getD i 0 = b.getD i 0) : a = b := by
  refine List.ext_getElem (by rw [ha,hb]) (fun i hia hib => ?_)
  have hi := h i (by omega)
  rwa [List.getD_eq_getElem _ _ hia,List.getD_eq_getElem _ _ hib] at hi

end Buffers

section Inspection
variable {settings : TlsConnectionSettings}

theorem nameCheck_admitted (acceptor : Acceptor) {a : List UInt8}
    (h : Admitted settings (peekBuffer 5 a)) (b : List UInt8) :
    nameCheck acceptor settings (.arrived a) (.arrived b) =
      acceptor.serverName (peekBuffer (chSize (peekBuffer 5 a) + 5) b) := by
  obtain ⟨h0,h1,h2,h3⟩ := h
  simp only [nameCheck,nameFrom,peekTimeout,h0,if_true,extractSniFromTlsCh,h1,ne_eq,not_true,if_false,h2,
    gt_iff_lt,not_lt.mpr h3]

theorem nameCheck_refused (acceptor : Acceptor) {a : List UInt8}
    (h0 : (peekBuffer 5 a).getD 0 0 = 0x16) (h : ¬ Admitted settings (peekBuffer 5 a))
    (b : List UInt8) : nameCheck acceptor settings (.arrived a) (.arrived b) = none := by
  refine nameFrom_of_not_peeksBody acceptor settings (Bool.eq_false_iff.mpr (fun hp => h ?_)) _
  simp only [peeksBody,h0,ne_eq,not_true,decide_false,Bool.false_or,Bool.and_eq_true,
    decide_eq_true_eq,List.contains_eq_mem] at hp
  exact ⟨h0,hp.1.1,hp.1.2,hp.2⟩

theorem chSize_take (stream : List UInt8) : chSize (stream.take 5) = chSize stream := by
  simp only [chSize,getD_take]
  rfl

theorem admitted_take {stream : List UInt8} :
    Admitted settings (stream.take 5) ↔ Admitted settings stream := by
  simp only [Admitted,getD_take,chSize_take]
  rfl

theorem nameCheck_complete (acceptor : Acceptor) {stream : List UInt8}
    (h : CompleteRecord settings stream) :
    nameCheck acceptor settings (.arrived stream) (.arrived stream) =
      acceptor.serverName (stream.take (chSize stream + 5)) := by
  have h5 : peekBuffer 5 stream = stream.take 5 := peekBuffer_of_le (by have := h.complete; omega)
  rw [nameCheck_admitted acceptor (by rw [h5]; exact admitted_take.mpr h.admitted),h5,chSize_take,
    peekBuffer_of_le h.complete]

-- An acceptor that finds a name in one text only.
def recognising (hello : List UInt8) (name : Str) : Acceptor where
  readTls bs := some bs.length
  accept bs := if bs = hello then .clientHello (some name) else .incomplete

theorem recognising_serverName {hello bs : List UInt8} {name found : Str} :
    (recognising hello name).serverName bs = some found ↔ bs = hello ∧ name = found := by
  simp only [Acceptor.serverName,recognising,List.take_length]
  by_cases h : bs = hello <;> simp [h]

theorem header_delivered {stream : List UInt8} {n : ℕ} (h : CompleteRecord settings stream)
    (hn : 1 ≤ n) (ha : Admitted settings (peekBuffer 5 (stream.take n)))
    (hs : chSize (peekBuffer 5 (stream.take n)) = chSize stream) :
    peekBuffer 5 (stream.take n) = stream.take 5 := by
  obtain ⟨-,h1,h2,-⟩ := ha
  obtain ⟨h3,h4⟩ := chSize_bytes hs
  have hl : (stream.take 5).length = 5 := by
    have := h.complete
    rw [List.length_take]
    omega
  refine header_ext (peekBuffer_length 5 _) hl (fun i hi => ?_)
  rw [getD_take,if_pos hi]
  match i,hi with
  | 0,_ => rw [header_getD (by omega),if_pos (by omega)]
  | 1,_ => exact delivered_of_ne (by omega) (by rw [h1]; decide)
  | 2,_ =>
    refine delivered_of_ne (by omega) (fun h0 => ?_)
    rw [h0] at h2
    exact absurd h2 (by decide)
  | 3,_ => exact h3
  | 4,_ => exact h4

def SameName (acceptor : Acceptor) (settings : TlsConnectionSettings) (stream : List UInt8)
    (n m : ℕ) : Prop :=
  nameCheck acceptor settings (.arrived (stream.take n)) (.arrived (stream.take m)) =
    nameCheck acceptor settings (.arrived stream) (.arrived stream)

theorem client_hello_peeks_iff {stream : List UInt8} (h : CompleteRecord settings stream) {n m : ℕ}
    (hn : 1 ≤ n) :
    (∀ acceptor, SameName acceptor settings stream n m) ↔
      peekBuffer 5 (stream.take n) = stream.take 5 ∧
      peekBuffer (chSize stream + 5) (stream.take m) = stream.take (chSize stream + 5) := by
  constructor
  · intro hc
    have hs := hc (recognising (stream.take (chSize stream + 5)) [])
    rw [SameName,nameCheck_complete _ h,recognising_serverName.mpr ⟨rfl,rfl⟩] at hs
    by_cases ha : Admitted settings (peekBuffer 5 (stream.take n))
    · rw [nameCheck_admitted _ ha,recognising_serverName] at hs
      have hl := congrArg List.length hs.1
      rw [peekBuffer_length,List.length_take,Nat.min_eq_left h.complete] at hl
      have hsize : chSize (peekBuffer 5 (stream.take n)) = chSize stream := by omega
      rw [hsize] at hs
      exact ⟨header_delivered h hn ha hsize,hs.1⟩
    · have h0 : (peekBuffer 5 (stream.take n)).getD 0 0 = 0x16 := by
        rw [header_getD (by omega),if_pos (by omega)]
        exact h.admitted.1
      rw [nameCheck_refused _ h0 ha] at hs
      cases hs
  · rintro ⟨h5,hm⟩ acceptor
    have ha : Admitted settings (peekBuffer 5 (stream.take n)) := by
      rw [h5]
      exact admitted_take.mpr h.admitted
    rw [SameName,nameCheck_admitted acceptor ha,h5,chSize_take,hm,nameCheck_complete acceptor h]

def defaultSettings : TlsConnectionSettings := ⟨⟨5⟩,16358⟩

-- A TLS 1.2 ClientHello with one cipher suite, its signature algorithms and a server name.
def helloFor (serverName : List UInt8) : List UInt8 :=
  let n := UInt8.ofNat serverName.length
  [0x16,0x03,0x01,0x00,0x40 + n,0x01,0x00,0x00,0x3C + n,0x03,0x03] ++ List.replicate 32 0x5A ++
  [0x00,0x00,0x02,0xC0,0x2B,0x01,0x00,0x00,0x11 + n,
    0x00,0x00,0x00,0x05 + n,0x00,0x03 + n,0x00,0x00,n] ++ serverName ++
  [0x00,0x0D,0x00,0x04,0x00,0x02,0x04,0x03]

def helloRecord : List UInt8 := helloFor (Utf8.encode "a.io".toList)

theorem helloRecord_complete : CompleteRecord defaultSettings helloRecord :=
  ⟨by decide,by decide⟩

theorem whole_record_same_name :
    SameName (recognising helloRecord "a.io".toList) defaultSettings helloRecord 5 73 :=
  (client_hello_peeks_iff helloRecord_complete (by decide)).mpr (by decide +kernel) _

theorem first_byte_alone :
    nameCheck (recognising helloRecord "a.io".toList) defaultSettings (.arrived helloRecord)
        (.arrived helloRecord) = some "a.io".toList ∧
      ¬ SameName (recognising helloRecord "a.io".toList) defaultSettings helloRecord 1 73 := by
  unfold SameName
  decide +kernel

end Inspection

end ClientHello

end RustyValve
