import RustyValve.Services
import RustyValve.Std.FromStr
import RustyValve.Config.Settings

namespace RustyValve

abbrev StreamId := ℕ

inductive ConnectionInner where
  | tcp (stream : StreamId)
  | quic
deriving DecidableEq, Repr

inductive Destination where
  | portOnly (port : UInt16)
  | socket (addr : SocketAddr)
  | portAndAddrs (port : UInt16) (addrs : List IpAddr)
  | internalService (service : InternalService)
deriving DecidableEq, Repr

structure PossibleDestinations where
  destination : Destination
  elseDestination : Option Destination
deriving DecidableEq, Repr

namespace PossibleDestinations

def withoutElse (destination : Destination) : PossibleDestinations := ⟨destination,none⟩

def withElse (destination elseDestination : Destination) : PossibleDestinations :=
  ⟨destination,some elseDestination⟩

def tryGetInner (d : PossibleDestinations) (condition : Bool) : Option Destination :=
  if condition then some d.destination else d.elseDestination

def getOnlyDestination (d : PossibleDestinations) : Destination := d.destination

end PossibleDestinations

structure ForwardedConnection where
  inner : ConnectionInner
  settings : ConnectionSettings
  destination : Destination
  remoteSocket : SocketAddr
deriving DecidableEq, Repr

def ForwardedConnection.newTcpConn (tcpStream : StreamId) (remoteSocket : SocketAddr)
    (settings : ConnectionSettings) (destination : Destination) : ForwardedConnection :=
  ⟨.tcp tcpStream,settings,destination,remoteSocket⟩

namespace Destination

def addrPieces (addrsStr : Str) : Option (List Str) :=
  let addrsStr := trim addrsStr
  if addrsStr = [] then none else some ((trim addrsStr).splitOn ',')

def assumedParts (s : Str) : Option (List Str) × Str :=
  match Delimiter.rsplitOnce ':' s with
  | some (addrsStr,portStr) => (addrPieces addrsStr,portStr)
  | none => (none,s)

variable (parse : FromStr)

def parseAddrs : List Str → Except Error (List IpAddr)
  | [] => .ok []
  | addrStr :: rest =>
    let addrStr := deleteBrackets (trim addrStr)
    if addrStr = [] then parseAddrs rest
    else match parse.ipAddr addrStr with
      | none => .error (.foreign addrStr)
      | some ip => (parseAddrs rest).map (ip :: ·)

def ofAddrs (port : UInt16) : List IpAddr → Destination
  | [] => portOnly port
  | [ip] => socket ⟨ip,port⟩
  | addrVec => portAndAddrs port addrVec

def fromStr (s : Str) : Except Error Destination :=
  match InternalService.fromStr s with
  | .ok service => .ok (internalService service)
  | .error _ =>
    let (addrStrVecOpt,portStr) := assumedParts s
    match parse.u16 (trim portStr) with
    | none => .error (.anyhow ("failed to parse port from assumed port string ".toList ++ portStr ++
        " in ".toList ++ s))
    | some port =>
      match addrStrVecOpt with
      | none => .ok (portOnly port)
      | some addrStrVec => (parseAddrs parse addrStrVec).map (ofAddrs port)

end Destination

end RustyValve
