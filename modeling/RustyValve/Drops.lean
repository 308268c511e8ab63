import RustyValve.Channel
import RustyValve.LiveFailover

namespace RustyValve

namespace Drops

open Custody Routing Lifecycle
open Channel (Forwards)

section Steps
variable {hosts : HostTable} {routes : List Route} {listening : Listening} {acceptor : Acceptor}
  {machines : Machines} {s t : System} {stream : StreamId}

end Steps

section Routes
variable (hosts : HostTable) (routes : List Route) (listening : Listening) (acceptor : Acceptor)

variable {hosts routes listening acceptor} {machines : Machines} {s t : System} {stream : StreamId}

end Routes

section Balanced
variable {listening : Listening} {acceptor : Acceptor} {machines : Machines} {s t : System}
  {stream : StreamId}

end Balanced

section Runs
variable (hosts : HostTable) (routes : List Route) (listening : Listening) (acceptor : Acceptor)
  (machines : Machines)

variable {hosts routes listening acceptor machines} {s : System} {stream : StreamId}
  {actions : List Action}

end Runs

section Server
variable {parse : FromStr} {env : LogEnvironment} {load : Str → Except Str SectionMaps}
  {outcomes : BindOutcomes} {configBuilder : ConfigBuilder} {listening : Listening}
  {lb : LoadBalancer}

end Server

end Drops

end RustyValve
