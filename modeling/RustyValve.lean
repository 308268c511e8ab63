import RustyValve.Library.Delimiter
import RustyValve.Library.Utf8
import RustyValve.Library.Lines
import RustyValve.Library.Execution
import RustyValve.Library.UnstableSort
import RustyValve.Std.Net
import RustyValve.Std.NetParser
import RustyValve.Connection
import RustyValve.Config.IniFile
import RustyValve.DestinationLanguage
import RustyValve.Library.FirstSuccess
import RustyValve.Services.LoadBalancer
import RustyValve.Balance
import RustyValve.Services.ForwardTable
import RustyValve.Std.Tcp
import RustyValve.Listeners.TcpRp
import RustyValve.Listeners.TlsHttpRp
import RustyValve.HostHeader
import RustyValve.PartialRequest
import RustyValve.ClientHello
import RustyValve.Binding
import RustyValve.Config
import RustyValve.Server
import RustyValve.Startup
import RustyValve.SameRoute
import RustyValve.Library.Exchange
import RustyValve.System
import RustyValve.Custody
import RustyValve.Routing
import RustyValve.AddressLists
import RustyValve.DestinationPadding
import RustyValve.DestinationShapes
import RustyValve.FirstHost
import RustyValve.HostValue
import RustyValve.HelloChunks
import RustyValve.Defaults
import RustyValve.LoadingOrder
import RustyValve.InternalRoutes
import RustyValve.Std.AddressTail
import RustyValve.PortlessAddress
import RustyValve.Rebinding
import RustyValve.BuiltConfig
import RustyValve.ListenerKinds
import RustyValve.HandlerSet
import RustyValve.Library.Cyclic
import RustyValve.Services.SshTarpit
import RustyValve.TarpitTasks
import RustyValve.TarpitScript
import RustyValve.AcceptLoop
import RustyValve.Serving
import RustyValve.Library.Proxying
import RustyValve.Custody.Trades
import RustyValve.Lifecycle
import RustyValve.LiveFailover
import RustyValve.Draining
import RustyValve.Loads
import RustyValve.Channel
import RustyValve.LiveRoutes
import RustyValve.Configured
import RustyValve.Std.NumberText
import RustyValve.Std.AddressText
import RustyValve.DestinationText
import RustyValve.SectionText
import RustyValve.Loadable
import RustyValve.Host
import RustyValve.FileOrder
import RustyValve.Drops
