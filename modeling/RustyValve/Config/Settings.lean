import RustyValve.Std.Net

namespace RustyValve

structure BindSettings where
  bindIpAddrs : List IpAddr
  tlsRpBindPort : List UInt16
deriving DecidableEq, Repr

structure ConnectionSettings where
  timeout : UInt64
deriving DecidableEq, Repr

structure TlsConnectionSettings where
  connectionSettings : ConnectionSettings
  maxClientHelloSize : ℕ
deriving DecidableEq, Repr

end RustyValve
