import RustyValve.Services.ForwardTable
import RustyValve.Std.Tcp

namespace RustyValve

abbrev Route := UInt16 × PossibleDestinations

structure SimpleTcpHandlerConfig where
  connectionSettings : ConnectionSettings
  destinationProvider : List Route

structure SimpleTcpHandler where
  connectionSettings : ConnectionSettings
  destinationProvider : List Route
  forwardSender : ServiceForwardTable

structure BoundSimpleTcpHandler where
  listeners : List (TcpListener × Route)
  connectionSettings : ConnectionSettings
  forwardSender : ServiceForwardTable

namespace SimpleTcpHandler

def new (config : SimpleTcpHandlerConfig) (forwardSender : ServiceForwardTable) :
    Except Error SimpleTcpHandler :=
  .ok ⟨config.connectionSettings,config.destinationProvider,forwardSender⟩

def socketAddr (ipAddr : IpAddr) (route : Route) : SocketAddr := ⟨ipAddr,route.1⟩

-- The inner loop pops the provider's routes from the end until none is left.
def bindRoutes (outcomes : BindOutcomes) :
    List IpAddr → List Route → Binding (List (TcpListener × Route))
  | [],_ => pure []
  | ipAddr :: ipAddrs,destinationProvider => do
    let listeners ← bindEach outcomes (socketAddr ipAddr) destinationProvider.reverse
    let rest ← bindRoutes outcomes ipAddrs []
    pure (listeners ++ rest)

def bind (outcomes : BindOutcomes) (self : SimpleTcpHandler) (socketProvider : BindSettings) :
    Binding BoundSimpleTcpHandler := do
  let listeners ← bindRoutes outcomes socketProvider.bindIpAddrs self.destinationProvider
  pure ⟨listeners,self.connectionSettings,self.forwardSender⟩

end SimpleTcpHandler

def BoundSimpleTcpHandler.unbind (self : BoundSimpleTcpHandler) : SimpleTcpHandler :=
  ⟨self.connectionSettings,self.listeners.map Prod.snd,self.forwardSender⟩

-- What `listen_tcp` makes of an accepted connection: none is a source with nowhere to go.
def listenTcp (forwardSender : ServiceForwardTable) (settings : ConnectionSettings)
    (destinations : PossibleDestinations) (tcpStream : StreamId) (remote : SocketAddr) :
    Option ForwardedConnection :=
  let dest :=
    if forwardSender.hasService .gatekeeperAuth then
      let approved := true
      destinations.tryGetInner approved
    else some destinations.getOnlyDestination
  dest.map (.newTcpConn tcpStream remote settings)

-- With or without a gatekeeper: it approves every source.
theorem listenTcp_eq (forwardSender : ServiceForwardTable) (settings : ConnectionSettings)
    (destinations : PossibleDestinations) (tcpStream : StreamId) (remote : SocketAddr) :
    listenTcp forwardSender settings destinations tcpStream remote =
      some (.newTcpConn tcpStream remote settings destinations.destination) := by
  simp only [listenTcp,PossibleDestinations.tryGetInner,PossibleDestinations.getOnlyDestination,
    if_true,ite_self,Option.map_some]

end RustyValve
