import RustyValve.Connection
import RustyValve.Library.UnstableSort
import RustyValve.Library.FirstSuccess

namespace RustyValve

inductive ConnectOutcome where
  | accepted
  | refused
  | timedOut
deriving DecidableEq, Repr

-- The task that runs `copy_bidirectional` between a client stream and a backend socket.
structure Bridge where
  stream : StreamId
  backend : SocketAddr
deriving DecidableEq, Repr

structure DestinationMachine where
  activeConnections : UInt64
  reachable : Bool
  weight : ℕ
  taskTracker : ℕ
deriving DecidableEq, Repr

def usizeMax : ℕ := 2 ^ 64 - 1

namespace DestinationMachine

def new (weight : ℕ) : DestinationMachine := ⟨0,false,weight,0⟩

def available (self : DestinationMachine) : Bool := self.reachable

def weightedLoad (self : DestinationMachine) : ℕ :=
  if self.available then self.taskTracker * self.weight % 2 ^ 64 else usizeMax

def connect (outcome : ConnectOutcome) (connInner : ConnectionInner) (socketAddr : SocketAddr) :
    Option ConnectionInner × Option Bridge :=
  match connInner with
  | .tcp remoteStream =>
    match outcome with
    | .timedOut => (some (.tcp remoteStream),none)
    | .refused => (some (.tcp remoteStream),none)
    | .accepted => (none,some ⟨remoteStream,socketAddr⟩)
  | .quic => (some .quic,none)

def addConn (self : DestinationMachine) : DestinationMachine :=
  { self with activeConnections := self.activeConnections + 1 }

def subConn (self : DestinationMachine) : DestinationMachine :=
  { self with activeConnections := self.activeConnections - 1 }

def trackerSpawn (self : DestinationMachine) : DestinationMachine :=
  { self with taskTracker := self.taskTracker + 1 }

def trackerExit (self : DestinationMachine) : DestinationMachine :=
  { self with taskTracker := self.taskTracker - 1 }

end DestinationMachine

abbrev Machines := Std.ExtTreeMap IpAddr DestinationMachine

structure LoadBalancerConfig where
  addresses : List IpAddr
deriving DecidableEq, Repr

structure LoadBalancer where
  machines : Machines

def LoadBalancer.new (config : LoadBalancerConfig) : Except Error LoadBalancer :=
  .ok ⟨config.addresses.foldl (fun machines ipAddr => machines.insert ipAddr (.new 1)) ∅⟩

def eligible (providedIp : Option (List IpAddr)) (destAddrs : Machines) :
    List (IpAddr × DestinationMachine) :=
  match providedIp with
  | some ipAddrs => destAddrs.toList.filter (fun p => ipAddrs.contains p.1)
  | none => destAddrs.toList

def pickBestIp (sort : UnstableSort (IpAddr × DestinationMachine)) (providedIp : Option (List IpAddr))
    (destAddrs : Machines) : List (IpAddr × DestinationMachine) :=
  sort.run (fun p => p.2.weightedLoad) (eligible providedIp destAddrs)

-- The program points of `handle_connection`: the head of the loop of `attempt_connections`, an
-- awaited `connect` (from that loop, or from the Socket arm), and the return with what is still held.
inductive Handling where
  | looping (port : UInt16) (connInnerOpt : Option ConnectionInner)
      (backendList : List (IpAddr × DestinationMachine))
  | connecting (port : UInt16) (connInner : ConnectionInner) (socketAddr : SocketAddr)
      (backendList : List (IpAddr × DestinationMachine))
  | connectingOnly (connInner : ConnectionInner) (socketAddr : SocketAddr)
  | returned (attempt : Option (Except Error Unit)) (connInnerOpt : Option ConnectionInner)

def attemptConnections (connInner : ConnectionInner) (port : UInt16)
    (backendList : List (IpAddr × DestinationMachine)) : Handling :=
  .looping port (some connInner) backendList

def dispatch (pick : Option (List IpAddr) → List (IpAddr × DestinationMachine))
    (conn : ForwardedConnection) (addresses : Machines) : Handling :=
  match conn.destination with
  | .portOnly port => attemptConnections conn.inner port (pick none).reverse
  | .socket socketAddr =>
    match addresses[socketAddr.ip]? with
    | none => .returned none (some conn.inner)
    | some _ => .connectingOnly conn.inner socketAddr
  | .portAndAddrs port addrs => attemptConnections conn.inner port (pick (some addrs)).reverse
  | .internalService _ => .returned none (some conn.inner)

def handleConnection (sort : UnstableSort (IpAddr × DestinationMachine)) (conn : ForwardedConnection)
    (addresses : Machines) : Handling :=
  dispatch (fun providedIp => pickBestIp sort providedIp addresses) conn addresses

namespace Handling

def step (outcome : SocketAddr → ConnectOutcome) : Handling → Handling × Option Bridge
  | looping port connInnerOpt backendList =>
    match backendList.getLast? with
    | none => (returned (some (.error (.anyhow "ran out of available connections".toList))) connInnerOpt,none)
    | some (destIp,_) =>
      match connInnerOpt with
      | none => (returned (some (.error (.anyhow "bruh".toList))) none,none)
      | some connInner => (connecting port connInner ⟨destIp,port⟩ backendList.dropLast,none)
  | connecting port connInner socketAddr backendList =>
    match DestinationMachine.connect (outcome socketAddr) connInner socketAddr with
    | (none,bridge) => (returned (some (.ok ())) none,bridge)
    | (some connInner,bridge) => (looping port (some connInner) backendList,bridge)
  | connectingOnly connInner socketAddr =>
    match DestinationMachine.connect (outcome socketAddr) connInner socketAddr with
    | (connInnerOpt,bridge) => (returned none connInnerOpt,bridge)
  | returned attempt connInnerOpt => (returned attempt connInnerOpt,none)

def attempt : Handling → Option SocketAddr
  | connecting _ _ socketAddr _ => some socketAddr
  | connectingOnly _ socketAddr => some socketAddr
  | _ => none

def heldByLoop : Handling → List ConnectionInner
  | looping _ connInnerOpt _ => connInnerOpt.toList
  | returned _ connInnerOpt => connInnerOpt.toList
  | _ => []

def heldByConnect : Handling → List ConnectionInner
  | connecting _ connInner _ _ => [connInner]
  | connectingOnly connInner _ => [connInner]
  | _ => []

end Handling

end RustyValve
