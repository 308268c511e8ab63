import RustyValve.Config

namespace RustyValve

structure UnboundListeners where
  tlsSniHandler : Option TlsRpHandler
  simpleTcpHandler : Option SimpleTcpHandler

structure BoundListeners where
  tlsSniHandler : Option BoundTlsRpHandler
  simpleTcpHandler : Option BoundSimpleTcpHandler

inductive ListenerInner where
  | unbound (listeners : UnboundListeners)
  | bound (listeners : BoundListeners)

-- The listener tasks that `listen` has spawned, one of each kind.
structure Listening where
  tlsHttpRp : BoundTlsRpHandler
  tcpRp : BoundSimpleTcpHandler

namespace ListenerInner

def new (config : Config) (forwardTable : ServiceForwardTable) : Except Error ListenerInner := do
  let tlsSniHandler ← config.tlsRpConfig.mapM (fun c => TlsRpHandler.new c forwardTable)
  let simpleTcpHandler ← config.tcpRpConfig.mapM (fun c => SimpleTcpHandler.new c forwardTable)
  if tlsSniHandler.isNone || simpleTcpHandler.isNone then
    throw (.anyhow "nothing to listen on".toList)
  pure (.unbound ⟨tlsSniHandler,simpleTcpHandler⟩)

def bind (outcomes : BindOutcomes) (self : ListenerInner) (bindSettings : BindSettings) :
    Binding ListenerInner :=
  match self with
  | .bound _ => throw (.anyhow "listeners are currently bound".toList)
  | .unbound unboundListeners => do
    let tlsSniHandler ← unboundListeners.tlsSniHandler.mapM (fun h => h.bind outcomes bindSettings)
    let simpleTcpHandler ←
      unboundListeners.simpleTcpHandler.mapM (fun h => h.bind outcomes bindSettings)
    pure (.bound ⟨tlsSniHandler,simpleTcpHandler⟩)

def unbind (self : ListenerInner) : Except Error ListenerInner :=
  match self with
  | .unbound _ => .error (.anyhow "listeners are currently not bound".toList)
  | .bound boundListeners => .ok (.unbound
      ⟨boundListeners.tlsSniHandler.map BoundTlsRpHandler.unbind,
        boundListeners.simpleTcpHandler.map BoundSimpleTcpHandler.unbind⟩)

def listen (self : ListenerInner) : Except Failure Listening :=
  match self with
  | .unbound _ => .error (.err (.anyhow "listeners are currently not bound".toList))
  | .bound listeners =>
    match listeners.tlsSniHandler with
    | none => .error (.panicked "aaaa".toList)
    | some tlsHttp =>
      match listeners.simpleTcpHandler with
      | none => .error (.panicked "aaaa".toList)
      | some tcp => .ok ⟨tlsHttp,tcp⟩

end ListenerInner

structure Server where
  listeners : ListenerInner
  settings : ServerSettings
  lbIpAddrs : List IpAddr
  forwardTable : ServiceForwardTable
  loadBalancer : Option LoadBalancer

-- The two futures that `run` joins; the result of the listeners is not looked at.
structure Running where
  listeners : Except Error Listening
  loadBalancer : LoadBalancer

namespace Server

def new (config : Config) : Except Error Server := do
  let lbSender : Sender := ⟨50⟩
  let loadBalancer ← config.loadBalancerConfig.mapM LoadBalancer.new
  let forwardTableBuilder ← ServiceForwardTableBuilder.new.add .loadBalancer lbSender
  let forwardTable := forwardTableBuilder.build
  let listeners ← ListenerInner.new config forwardTable
  match config.serverSettings with
  | none => throw (.anyhow "server settings missing from config".toList)
  | some settings => pure ⟨listeners,settings,[],forwardTable,loadBalancer⟩

def bind (outcomes : BindOutcomes) (self : Server) (bindSettings : BindSettings) :
    Binding Server := do
  let listeners ← self.listeners.bind outcomes bindSettings
  pure { self with listeners }

def run (self : Server) : Except Failure Running :=
  match self.loadBalancer with
  | none => .error (.panicked "called `Option::unwrap()` on a `None` value".toList)
  | some lb =>
    match self.listeners.listen with
    | .error (.panicked message) => .error (.panicked message)
    | .error (.err e) => .ok ⟨.error e,lb⟩
    | .ok listening => .ok ⟨.ok listening,lb⟩

end Server

def unwrap {T : Type} : Option T → Except Failure T
  | some t => .ok t
  | none => .error (.panicked "called `Option::unwrap()` on a `None` value".toList)

def orErr {T : Type} : Except Error T → Except Failure T
  | .ok t => .ok t
  | .error e => .error (.err e)

-- What `main` does with the configuration file besides opening the log.
def start (parse : FromStr) (env : LogEnvironment) (load : Str → Except Str SectionMaps)
    (outcomes : BindOutcomes) (configBuilder : ConfigBuilder) : Except Failure Running := do
  let (configBuilder,_) ← orErr (configBuilder.getIniConfig parse env load)
  let config ← orErr configBuilder.build
  let server ← orErr (Server.new config)
  let bindSettings ← unwrap config.bindSettings
  let (boundServer,_) ← orErr (server.bind outcomes bindSettings 0)
  boundServer.run

-- `main`, from the command line on, without the signal handlers.
def main (parse : FromStr) (env : LogEnvironment) (load : Str → Except Str SectionMaps)
    (files : LogFiles) (outcomes : BindOutcomes) (configBuilder : ConfigBuilder) :
    Except Failure Running := do
  let (configBuilder,loggerConfig) ← orErr (configBuilder.getIniConfig parse env load)
  let _guard ← initLogger files loggerConfig
  let config ← orErr configBuilder.build
  let server ← orErr (Server.new config)
  let bindSettings ← unwrap config.bindSettings
  let (boundServer,_) ← orErr (server.bind outcomes bindSettings 0)
  boundServer.run

end RustyValve
