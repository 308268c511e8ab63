import RustyValve.ClientHello

namespace RustyValve

namespace HelloChunks

open ClientHello

variable {acceptor : Acceptor} {settings : TlsConnectionSettings}

def record (stream : List UInt8) : List UInt8 := stream.take (chSize stream + 5)

-- An acceptor that reads one chunk a call and answers only once it has the whole record.
structure ReadsChunks (acceptor : Acceptor) (chunk : ℕ) (hello : List UInt8) (name : Str) : Prop where
  chunked : ∀ bs, acceptor.readTls bs = some (min chunk bs.length)
  waiting : ∀ k < hello.length, acceptor.accept (hello.take k) = .incomplete
  answers : acceptor.accept hello = .clientHello (some name)

def InspectedInFull (acceptor : Acceptor) (settings : TlsConnectionSettings) (stream : List UInt8)
    (name : Str) : Prop :=
  acceptor.readTls (record stream) = some (record stream).length ∧
    extractSniFromTlsCh acceptor (stream.take 5) (.arrived stream) settings = some name

theorem record_length {stream : List UInt8} (h : CompleteRecord settings stream) :
    (record stream).length = chSize stream + 5 := by
  rw [record,List.length_take,Nat.min_eq_left h.complete]

theorem extractSni_complete {stream : List UInt8} (h : CompleteRecord settings stream) :
    extractSniFromTlsCh acceptor (stream.take 5) (.arrived stream) settings =
      acceptor.serverName (record stream) := by
  obtain ⟨-,h1,h2,h3⟩ := admitted_take.mpr h.admitted
  rw [extractSniFromTlsCh,if_neg (not_not.mpr h1),if_neg (not_not.mpr h2),if_neg (not_lt.mpr h3),
    peekTimeout,chSize_take,peekBuffer_of_le h.complete]
  rfl

theorem serverName_in_chunk {chunk : ℕ} {hello : List UInt8} {name : Str}
    (h : ReadsChunks acceptor chunk hello name) (hc : hello.length ≤ chunk) :
    acceptor.serverName hello = some name := by
  simp only [Acceptor.serverName,h.chunked,Nat.min_eq_right hc,List.take_length,h.answers]

theorem serverName_past_chunk {chunk : ℕ} {hello : List UInt8} {name : Str}
    (h : ReadsChunks acceptor chunk hello name) (hc : chunk < hello.length) :
    acceptor.serverName hello = none := by
  simp only [Acceptor.serverName,h.chunked,Nat.min_eq_left hc.le,h.waiting chunk hc]

theorem inspected_in_full_iff {chunk : ℕ} {stream : List UInt8} {name : Str}
    (h : CompleteRecord settings stream) (ha : ReadsChunks acceptor chunk (record stream) name) :
    InspectedInFull acceptor settings stream name ↔ chSize stream + 5 ≤ chunk := by
  rw [InspectedInFull,extractSni_complete h,ha.chunked,← record_length h,Option.some.injEq]
  constructor
  · rintro ⟨hm,-⟩
    omega
  · exact fun hc => ⟨Nat.min_eq_right hc,serverName_in_chunk ha hc⟩

def readSize : ℕ := 4096

def chunkReader (hello : List UInt8) (name : Str) : Acceptor where
  readTls bs := some (min readSize bs.length)
  accept bs := if bs = hello then .clientHello (some name) else .incomplete

theorem chunkReader_reads (hello : List UInt8) (name : Str) :
    ReadsChunks (chunkReader hello name) readSize hello name where
  chunked _ := rfl
  waiting k hk := if_neg (fun he => by
    have hl := congrArg List.length he
    rw [List.length_take] at hl
    omega)
  answers := if_pos rfl

theorem small_hello_inspected :
    InspectedInFull (chunkReader (record helloRecord) "a.io".toList) defaultSettings helloRecord
      "a.io".toList :=
  (inspected_in_full_iff helloRecord_complete (chunkReader_reads _ _)).mpr (by decide)

-- The same hello with a padding extension of 4096 zero bytes.
def paddedHello : List UInt8 :=
  [0x16,0x03,0x01,0x10,0x48,0x01,0x00,0x10,0x44,0x03,0x03] ++ List.replicate 32 0x5A ++
  [0x00,0x00,0x02,0xC0,0x2B,0x01,0x00,0x10,0x19,
    0x00,0x00,0x00,0x09,0x00,0x07,0x00,0x00,0x04] ++ Utf8.encode "a.io".toList ++
  [0x00,0x0D,0x00,0x04,0x00,0x02,0x04,0x03,0x00,0x15,0x10,0x00] ++ List.replicate 4096 0x00

theorem paddedHello_length : paddedHello.length = 4173 := by
  simp only [paddedHello,List.length_append,List.length_replicate]
  rfl

theorem paddedHello_size : chSize paddedHello = 4168 := rfl

theorem paddedHello_complete : CompleteRecord defaultSettings paddedHello :=
  ⟨⟨rfl,rfl,by decide,by rw [paddedHello_size]; decide⟩,
    by rw [paddedHello_size,paddedHello_length]⟩

theorem padded_hello_not_inspected :
    CompleteRecord defaultSettings paddedHello ∧
      ReadsChunks (chunkReader (record paddedHello) "a.io".toList) readSize (record paddedHello)
        "a.io".toList ∧
      extractSniFromTlsCh (chunkReader (record paddedHello) "a.io".toList) (paddedHello.take 5)
        (.arrived paddedHello) defaultSettings = none := by
  refine ⟨paddedHello_complete,chunkReader_reads _ _,?_⟩
  rw [extractSni_complete paddedHello_complete]
  refine serverName_past_chunk (chunkReader_reads _ _) ?_
  rw [record_length paddedHello_complete,paddedHello_size]
  decide

end HelloChunks

end RustyValve
