import RustyValve.Library.Lines
import RustyValve.Services.ForwardTable
import RustyValve.Std.Tcp
import Mathlib.Data.List.ProdSigma

namespace RustyValve

abbrev HostTable := Std.ExtTreeMap Str PossibleDestinations

structure TlsRpHandlerConfig where
  connectionSettings : TlsConnectionSettings
  destinationProvider : HostTable

structure TlsRpHandler where
  connectionSettings : TlsConnectionSettings
  destinationProvider : HostTable
  forwardSender : ServiceForwardTable

structure BoundTlsRpHandler where
  listeners : List TcpListener
  connectionSettings : TlsConnectionSettings
  destinationProvider : HostTable
  forwardSender : ServiceForwardTable

namespace TlsRpHandler

def new (config : TlsRpHandlerConfig) (forwardSender : ServiceForwardTable) :
    Except Error TlsRpHandler :=
  .ok ⟨config.connectionSettings,config.destinationProvider,forwardSender⟩

def socketAddr (p : UInt16 × IpAddr) : SocketAddr := ⟨p.2,p.1⟩

def bind (outcomes : BindOutcomes) (self : TlsRpHandler) (socketProvider : BindSettings) :
    Binding BoundTlsRpHandler := do
  let listeners ← bindEach outcomes socketAddr
    (socketProvider.tlsRpBindPort ×ˢ socketProvider.bindIpAddrs)
  if listeners.isEmpty then throw (.anyhow "empty".toList)
  pure ⟨listeners.map Prod.fst,self.connectionSettings,self.destinationProvider,self.forwardSender⟩

end TlsRpHandler

def BoundTlsRpHandler.unbind (self : BoundTlsRpHandler) : TlsRpHandler :=
  ⟨self.connectionSettings,self.destinationProvider,self.forwardSender⟩

inductive Accepted where
  | failed
  | incomplete
  | clientHello (serverName : Option Str)
deriving DecidableEq, Repr

-- The TLS acceptor: how much of what it is offered it reads, and what it makes of what it has read.
structure Acceptor where
  readTls : List UInt8 → Option ℕ
  accept : List UInt8 → Accepted

def chSize (recordHeader : List UInt8) : ℕ :=
  256 * (recordHeader.getD 3 0).toNat + (recordHeader.getD 4 0).toNat

def Acceptor.serverName (acceptor : Acceptor) (clientHelloVec : List UInt8) : Option Str :=
  match acceptor.readTls clientHelloVec with
  | none => none
  | some n =>
    match acceptor.accept (clientHelloVec.take n) with
    | .failed => none
    | .incomplete => none
    | .clientHello name => name

def extractSniFromTlsCh (acceptor : Acceptor) (recordHeader : List UInt8) (tcpStream : Peek)
    (settings : TlsConnectionSettings) : Option Str :=
  if recordHeader.getD 1 0 ≠ 0x03 then none
  else if recordHeader.getD 2 0 ∉ [(0x01 : UInt8),0x03,0x04] then none
  else if chSize recordHeader > settings.maxClientHelloSize then none
  else match peekTimeout (chSize recordHeader + 5) tcpStream with
    | none => none
    | some clientHelloVec => acceptor.serverName clientHelloVec

def hostName (value : Str) : Str :=
  match Delimiter.rsplitOnce ':' (trim value) with
  | some (name,_port) => name
  | none => value

-- A line that is not valid UTF-8 ends the scan.
def scanHost : List (Option Str) → Option Str
  | [] => none
  | none :: _ => none
  | some headerField :: httpLines =>
    if startsWith headerField "\r\n".toList then none
    else match Delimiter.splitOnce ':' headerField with
      | none => scanHost httpLines
      | some (field,value) =>
        if eqIgnoreAsciiCase field "host".toList then some (hostName value)
        else scanHost httpLines

def extractHostFromHttpHeader (tcpStream : Peek) : Option Str :=
  match peekTimeout 512 tcpStream with
  | none => none
  | some buf => scanHost (Lines.lines buf)

section GetBackendPort
variable (acceptor : Acceptor) (settings : TlsConnectionSettings)

def nameFrom (recordHeader : List UInt8) (tcpStream : Peek) : Option Str :=
  if recordHeader.getD 0 0 = 0x16 then
    extractSniFromTlsCh acceptor recordHeader tcpStream settings
  else extractHostFromHttpHeader tcpStream

-- Whether the checks of the record header lead to the second peek.
def peeksBody (recordHeader : List UInt8) : Bool :=
  recordHeader.getD 0 0 ≠ 0x16 || (recordHeader.getD 1 0 = 0x03 &&
    [(0x01 : UInt8),0x03,0x04].contains (recordHeader.getD 2 0) &&
    chSize recordHeader ≤ settings.maxClientHelloSize)

theorem nameFrom_of_not_peeksBody {recordHeader : List UInt8}
    (h : peeksBody settings recordHeader = false) (tcpStream : Peek) :
    nameFrom acceptor settings recordHeader tcpStream = none := by
  simp only [peeksBody,Bool.or_eq_false_iff,decide_eq_false_iff_not,not_not,Bool.and_eq_false_iff,
    List.contains_eq_mem] at h
  obtain ⟨h0,hr⟩ := h
  rw [nameFrom,if_pos h0,extractSniFromTlsCh]
  split_ifs with h1 h2 h3
  · rfl
  · rfl
  · rcases hr with (hr | hr) | hr
    · exact absurd (not_not.mp h1) hr
    · exact absurd h2 hr
    · exact absurd (not_lt.mp h3) hr
  · rfl

def nameCheck (headerPeek bodyPeek : Peek) : Option Str :=
  match peekTimeout 5 headerPeek with
  | none => none
  | some recordHeader => nameFrom acceptor settings recordHeader bodyPeek

def connectionTo (tcpStream : StreamId) (remoteAddr : SocketAddr) (destinationProvider : HostTable)
    (name : Str) : Option ForwardedConnection :=
  match destinationProvider[name]? with
  | none => none
  | some res => some (.newTcpConn tcpStream remoteAddr settings.connectionSettings
      res.getOnlyDestination)

def getBackendPort (tcpStream : StreamId) (remoteAddr : SocketAddr) (destinationProvider : HostTable)
    (headerPeek bodyPeek : Peek) : Option ForwardedConnection :=
  match nameCheck acceptor settings headerPeek bodyPeek with
  | none => none
  | some name => connectionTo settings tcpStream remoteAddr destinationProvider name

end GetBackendPort

end RustyValve
