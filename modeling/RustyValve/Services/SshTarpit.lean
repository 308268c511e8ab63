import RustyValve.Config
import RustyValve.Library.Cyclic
import RustyValve.Library.Utf8

namespace RustyValve

structure SshTarpit.Settings where
  maxConnections : UInt64
  bannerRepeatTime : UInt64
deriving DecidableEq, Repr

-- What a tarpit task awaits: it takes the next line when it is first polled and after each sleep.
inductive TarpitPoint where
  | sleeping
  | awaitsWritable (line : List UInt8)
  | awaitsWrite (line : List UInt8)
  | returned
deriving DecidableEq, Repr

inductive TarpitEvent where
  | wakes
  | writable
  | writableFails
  | wrote (accepted : ℕ)
  | writeFails
deriving DecidableEq, Repr

namespace TarpitEvent

def IsCall (e : TarpitEvent) : Prop := e ≠ .wakes

def IsError (e : TarpitEvent) : Prop := e = .writableFails ∨ e = .writeFails

end TarpitEvent

-- A task of `tarpit`, with the bytes that its stream has accepted.
structure Tarpit where
  tcpStream : StreamId
  settings : SshTarpit.Settings
  line : ℕ
  sent : List UInt8
  point : TarpitPoint
deriving DecidableEq, Repr

-- The first lines of the transcript.
def transcriptOpening : List (List UInt8) :=
  [Utf8.encode "According to all known laws\r\n".toList,Utf8.encode "of aviation,\r\n".toList]

namespace Tarpit
variable (transcript : List (List UInt8))

def new (tcpStream : StreamId) (settings : SshTarpit.Settings) : Tarpit :=
  ⟨tcpStream,settings,0,[],.sleeping⟩

def wakes (t : Tarpit) : Tarpit :=
  match Cyclic.item transcript t.line with
  | none => { t with point := .returned }
  | some line => { t with point := .awaitsWritable line }

def sleeps (t : Tarpit) : Tarpit := { t with line := t.line + 1,point := .sleeping }

def step (t : Tarpit) (event : TarpitEvent) : Option Tarpit :=
  match t.point,event with
  | .sleeping,.wakes => some (t.wakes transcript)
  | .awaitsWritable line,.writable => some { t with point := .awaitsWrite line }
  | .awaitsWritable _,.writableFails => some { t with point := .returned }
  | .awaitsWrite line,.wrote accepted =>
    if accepted ≤ line.length then
      some ({ t with sent := t.sent ++ line.take accepted }).sleeps
    else none
  -- The error of the write is only traced.
  | .awaitsWrite _,.writeFails => some t.sleeps
  | _,_ => none

inductive Moves (t : Tarpit) : TarpitEvent → Tarpit → Prop where
  | wakes (hp : t.point = .sleeping) : Moves t .wakes (t.wakes transcript)
  | writable (line : List UInt8) (hp : t.point = .awaitsWritable line) :
      Moves t .writable { t with point := .awaitsWrite line }
  | writableFails (line : List UInt8) (hp : t.point = .awaitsWritable line) :
      Moves t .writableFails { t with point := .returned }
  | wrote (line : List UInt8) (accepted : ℕ) (hp : t.point = .awaitsWrite line)
      (hn : accepted ≤ line.length) :
      Moves t (.wrote accepted) ({ t with sent := t.sent ++ line.take accepted }).sleeps
  | writeFails (line : List UInt8) (hp : t.point = .awaitsWrite line) : Moves t .writeFails t.sleeps

theorem step_moves {t u : Tarpit} {event : TarpitEvent} (h : t.step transcript event = some u) :
    Moves transcript t event u := by
  unfold step at h
  split at h
  case h_1 hp =>
    obtain rfl := Option.some.inj h
    exact .wakes hp
  case h_2 line hp =>
    obtain rfl := Option.some.inj h
    exact .writable line hp
  case h_3 line hp =>
    obtain rfl := Option.some.inj h
    exact .writableFails line hp
  case h_4 line accepted hp =>
    split_ifs at h with hn
    obtain rfl := Option.some.inj h
    exact .wrote line accepted hp hn
  case h_5 line hp =>
    obtain rfl := Option.some.inj h
    exact .writeFails line hp
  case h_6 => cases h

end Tarpit

-- The service while it runs: its receiver is open or not, and the tasks it has spawned are alive.
structure SshTarpit where
  settings : SshTarpit.Settings
  receiving : Bool
  tarpits : List Tarpit
deriving DecidableEq, Repr

namespace SshTarpit

inductive Action where
  | receives (conn : ForwardedConnection)
  | closes
  | tarpit (task : ℕ) (event : TarpitEvent)

def new (config : SshTarpitConfig) : Except Error SshTarpit :=
  .ok ⟨⟨config.maxConnections,config.bannerRepeatTime⟩,true,[]⟩

def spawn (tcpStream : StreamId) (self : SshTarpit) : SshTarpit :=
  { self with tarpits := self.tarpits ++ [.new tcpStream self.settings] }

def receives (conn : ForwardedConnection) (self : SshTarpit) : SshTarpit :=
  match conn.inner with
  | .tcp tcpStream => self.spawn tcpStream
  | .quic => self

def polled (task : ℕ) (t : Tarpit) (self : SshTarpit) : SshTarpit :=
  { self with tarpits :=
      if t.point = .returned then self.tarpits.eraseIdx task else self.tarpits.set task t }

def step (transcript : List (List UInt8)) (self : SshTarpit) : Action → Option SshTarpit
  | .receives conn => if self.receiving then some (self.receives conn) else none
  | .closes => if self.receiving then some { self with receiving := false } else none
  | .tarpit task event =>
    (self.tarpits[task]?).bind (fun t =>
      (t.step transcript event).map (fun t' => self.polled task t'))

end SshTarpit

end RustyValve
