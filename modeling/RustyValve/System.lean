import RustyValve.Server

namespace RustyValve

inductive Origin where
  | tls (listener : ℕ)
  | tcp (listener : ℕ)
deriving DecidableEq, Repr

-- A client connection since it was accepted: the bytes that have arrived, and what its peeks found.
structure Client where
  origin : Origin
  received : List UInt8
  peeks : List (List UInt8)
deriving DecidableEq, Repr

-- Which peek a task of `get_backend_port` awaits.
inductive Inspection where
  | header
  | body (recordHeader : List UInt8)
deriving DecidableEq, Repr

structure Inspecting where
  stream : StreamId
  remote : SocketAddr
  stage : Inspection
deriving DecidableEq, Repr

-- A task that awaits the channel; a TCP listener does so itself and accepts nothing meanwhile.
structure Sending where
  conn : ForwardedConnection
  sender : Sender
  listener : Option ℕ
deriving DecidableEq, Repr

-- A task of the load balancer, before its first step and in `handle_connection`.
inductive Task where
  | received (conn : ForwardedConnection)
  | running (destination : Destination) (point : Handling)

structure System where
  accepted : List Client
  inspecting : List Inspecting
  sending : List Sending
  receiverOpen : Bool
  queue : List ForwardedConnection
  tasks : List Task
  bridges : List Bridge
  closed : List Bridge
  dropped : List StreamId
  machines : Machines

inductive Action where
  | acceptTls (listener : ℕ) (remote : SocketAddr)
  | acceptTcp (listener : ℕ) (remote : SocketAddr)
  | arrive (stream : StreamId) (bytes : List UInt8)
  | peek (task : ℕ) (available : ℕ)
  | peekFails (task : ℕ)
  | send (task : ℕ)
  | receive
  | closeReceiver
  | start (task : ℕ) (order : List (IpAddr × DestinationMachine))
  | proceed (task : ℕ) (outcome : ConnectOutcome)
  | finish (task : ℕ)
  | bridgeEnds (bridge : ℕ)

def ConnectionInner.streams : ConnectionInner → List StreamId
  | tcp stream => [stream]
  | quic => []

def Destination.providedIp : Destination → Option (List IpAddr)
  | portOnly _ => none
  | portAndAddrs _ addrs => some addrs
  | socket _ => some []
  | internalService _ => some []

namespace System

def initial (machines : Machines) : System where
  accepted := []
  inspecting := []
  sending := []
  receiverOpen := true
  queue := []
  tasks := []
  bridges := []
  closed := []
  dropped := []
  machines

variable (listening : Listening) (acceptor : Acceptor)

def accept (origin : Origin) (s : System) : System :=
  { s with accepted := s.accepted ++ [⟨origin,[],[]⟩] }

def drop (streams : List StreamId) (s : System) : System :=
  { s with dropped := s.dropped ++ streams }

def inspect (task : Inspecting) (s : System) : System :=
  { s with inspecting := s.inspecting ++ [task] }

def forwardConn (forwardTable : ServiceForwardTable) (listener : Option ℕ)
    (conn : ForwardedConnection) (s : System) : System :=
  match forwardTable.forwarder .loadBalancer with
  | .error _ => s.drop conn.inner.streams
  | .ok sender => { s with sending := s.sending ++ [⟨conn,sender,listener⟩] }

def acceptTls (listener : ℕ) (remote : SocketAddr) (s : System) : Option System :=
  if listener < listening.tlsHttpRp.listeners.length then
    some ((s.accept (.tls listener)).inspect ⟨s.accepted.length,remote,.header⟩)
  else none

def acceptTcp (listener : ℕ) (remote : SocketAddr) (s : System) : Option System :=
  match listening.tcpRp.listeners[listener]? with
  | none => none
  | some (_,route) =>
    if some listener ∈ s.sending.map Sending.listener then none
    else match listenTcp listening.tcpRp.forwardSender listening.tcpRp.connectionSettings route.2
        s.accepted.length remote with
      | none => some ((s.accept (.tcp listener)).drop [s.accepted.length])
      | some conn => some ((s.accept (.tcp listener)).forwardConn listening.tcpRp.forwardSender
          (some listener) conn)

def arrive (stream : StreamId) (bytes : List UInt8) (s : System) : System :=
  { s with accepted := s.accepted.modify stream (fun a => { a with received := a.received ++ bytes }) }

def peeked (stream : StreamId) (found : List UInt8) (s : System) : System :=
  { s with accepted := s.accepted.modify stream (fun a => { a with peeks := a.peeks ++ [found] }) }

-- What a task of `get_backend_port` does when its peek returns.
def inspected (task : Inspecting) (found : List UInt8) (s : System) : System :=
  let handler := listening.tlsHttpRp
  match task.stage with
  | .header =>
    match peekTimeout 5 (.arrived found) with
    | none => s.drop [task.stream]
    | some recordHeader =>
      if peeksBody handler.connectionSettings recordHeader then
        s.inspect { task with stage := .body recordHeader }
      else s.drop [task.stream]
  | .body recordHeader =>
    match nameFrom acceptor handler.connectionSettings recordHeader (.arrived found) with
    | none => s.drop [task.stream]
    | some name =>
      match connectionTo handler.connectionSettings task.stream task.remote
          handler.destinationProvider name with
      | none => s.drop [task.stream]
      | some conn => s.forwardConn handler.forwardSender none conn

def peek (task : ℕ) (available : ℕ) (s : System) : Option System :=
  match s.inspecting[task]? with
  | none => none
  | some t =>
    match s.accepted[t.stream]? with
    | none => none
    | some a =>
      let found := a.received.take available
      some (inspected listening acceptor t found
        { s.peeked t.stream found with inspecting := s.inspecting.eraseIdx task })

def peekFails (task : ℕ) (s : System) : Option System :=
  match s.inspecting[task]? with
  | none => none
  | some t =>
    let rest : System := { s with inspecting := s.inspecting.eraseIdx task }
    some (rest.drop [t.stream])

def send (task : ℕ) (s : System) : Option System :=
  match s.sending[task]? with
  | none => none
  | some w =>
    let rest : System := { s with sending := s.sending.eraseIdx task }
    if s.receiverOpen then
      if s.queue.length < w.sender.capacity then some { rest with queue := s.queue ++ [w.conn] }
      else none
    else some (rest.drop w.conn.inner.streams)

def receive (s : System) : Option System :=
  match s.queue with
  | [] => none
  | conn :: queue => some { s with queue,tasks := s.tasks ++ [.received conn] }

def closeReceiver (s : System) : System :=
  let rest : System := { s with receiverOpen := false,queue := [] }
  rest.drop (s.queue.flatMap (fun conn => conn.inner.streams))

-- The loads may change while they are sorted, so any order of the eligible machines can come out.
def start (task : ℕ) (order : List (IpAddr × DestinationMachine)) (s : System) : Option System :=
  match s.tasks[task]? with
  | some (.received conn) =>
    if order.Perm (eligible conn.destination.providedIp s.machines) then
      some { s with tasks := s.tasks.eraseIdx task ++
        [.running conn.destination (dispatch (fun _ => order) conn s.machines)] }
    else none
  | _ => none

def bridgeStarted (machines : Machines) : Option Bridge → Machines
  | none => machines
  | some bridge => machines.modify bridge.backend.ip DestinationMachine.trackerSpawn

def proceed (task : ℕ) (outcome : ConnectOutcome) (s : System) : Option System :=
  match s.tasks[task]? with
  | some (.running destination point) =>
    let (next,bridge) := point.step (fun _ => outcome)
    some { s with
      tasks := s.tasks.eraseIdx task ++ [.running destination next]
      bridges := s.bridges ++ bridge.toList
      machines := bridgeStarted s.machines bridge }
  | _ => none

def finish (task : ℕ) (s : System) : Option System :=
  match s.tasks[task]? with
  | some (.running _ (.returned _ connInnerOpt)) =>
    let rest : System := { s with tasks := s.tasks.eraseIdx task }
    some (rest.drop (connInnerOpt.toList.flatMap ConnectionInner.streams))
  | _ => none

def bridgeEnds (bridge : ℕ) (s : System) : Option System :=
  match s.bridges[bridge]? with
  | none => none
  | some b => some { s with
      bridges := s.bridges.eraseIdx bridge
      closed := s.closed ++ [b]
      machines := s.machines.modify b.backend.ip DestinationMachine.trackerExit }

def step (s : System) : Action → Option System
  | .acceptTls listener remote => s.acceptTls listening listener remote
  | .acceptTcp listener remote => s.acceptTcp listening listener remote
  | .arrive stream bytes => some (s.arrive stream bytes)
  | .peek task available => s.peek listening acceptor task available
  | .peekFails task => s.peekFails task
  | .send task => s.send task
  | .receive => s.receive
  | .closeReceiver => some s.closeReceiver
  | .start task order => s.start task order
  | .proceed task outcome => s.proceed task outcome
  | .finish task => s.finish task
  | .bridgeEnds bridge => s.bridgeEnds bridge

end System

end RustyValve
