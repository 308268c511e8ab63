import RustyValve.Config.IniFile
import RustyValve.Listeners.TcpRp
import RustyValve.Listeners.TlsHttpRp
import RustyValve.Services.LoadBalancer
import RustyValve.Utils.Logging

namespace RustyValve

structure ServerSettings where
  forwardQueue : ℕ
deriving DecidableEq, Repr

structure SshTarpitConfig where
  maxConnections : UInt64
  bannerRepeatTime : UInt64
deriving DecidableEq, Repr

structure Config where
  bindSettings : Option BindSettings
  serverSettings : Option ServerSettings
  tcpRpConfig : Option SimpleTcpHandlerConfig
  tlsRpConfig : Option TlsRpHandlerConfig
  loadBalancerConfig : Option LoadBalancerConfig
  sshTarpitConfig : Option SshTarpitConfig

structure ConfigBuilder where
  configFilePath : Option Str
  serverSettings : ServerSettings
  connectionSettings : ConnectionSettings
  bindAddresses : List IpAddr
  tlsRpDestProvider : HostTable
  fallbackTlsDestinationPort : Destination
  tlsRpListenPort : List UInt16
  connTlsChMax : ℕ
  tcpRpDestProvider : List Route
  sshTarpitMaxConnections : UInt64
  sshTarpitBannerRepeatTime : UInt64
  loadBalancerAddrs : List IpAddr

namespace ConfigBuilder

def default : ConfigBuilder where
  configFilePath := none
  serverSettings := ⟨50⟩
  connectionSettings := ⟨5⟩
  bindAddresses := []
  tlsRpDestProvider := ∅
  fallbackTlsDestinationPort := .portOnly 4443
  tlsRpListenPort := [4080,4443]
  connTlsChMax := 16358
  tcpRpDestProvider := []
  sshTarpitMaxConnections := 0
  sshTarpitBannerRepeatTime := 10
  loadBalancerAddrs := []

def new : ConfigBuilder := default

def getOpts (debugAssertions : Bool) (config : Option Str) (self : ConfigBuilder) : ConfigBuilder :=
  { self with configFilePath :=
      if debugAssertions then some "resources/config/config.ini".toList else config }

section GetIniConfig
variable (parse : FromStr) (env : LogEnvironment)

def destinationOr (fallback : Destination) (value : Option Str) : PossibleDestinations :=
  (value.bind (fun s => (TryFromConfig.possibleDestinations parse s).toOption)).getD
    (.withoutElse fallback)

def takeDefault (defaultMap : Section) (self : ConfigBuilder) :
    Except Error (ConfigBuilder × Section) := do
  let (bindAddresses,defaultMap) :=
    defaultMap.takeMultiValue (TryFromConfig.ipAddr parse) "bind-addresses".toList
  let bindAddresses ← bindAddresses
  let (loadBalancerAddrs,defaultMap) :=
    defaultMap.takeMultiValue (TryFromConfig.ipAddr parse) "destination-addresses".toList
  let loadBalancerAddrs ← loadBalancerAddrs
  pure ({ self with bindAddresses,loadBalancerAddrs },defaultMap)

def insertHosts (fallback : Destination) (tlsRpMap : Section) (table : HostTable) : HostTable :=
  tlsRpMap.entries.foldl (fun table e => table.insert e.1 (destinationOr parse fallback e.2)) table

def takeTlsRp (defaultMap tlsRpMap : Section) (self : ConfigBuilder) : ConfigBuilder :=
  let (fallback,defaultMap) :=
    defaultMap.takeOptValue (TryFromConfig.destination parse) "fallback-tls-destination-port".toList
  let (listenPort,_) :=
    defaultMap.takeMultiValue (TryFromConfig.u16 parse) "tls-rp-listen-port".toList
  let fallback := fallback.getD self.fallbackTlsDestinationPort
  { self with
    fallbackTlsDestinationPort := fallback
    tlsRpListenPort := listenPort.toOption.getD self.tlsRpListenPort
    tlsRpDestProvider := insertHosts parse fallback tlsRpMap self.tlsRpDestProvider }

def pushRoutes : List (Sigma fun _ : Str => Option Str) → List Route → Except Error (List Route)
  | [],routes => .ok routes
  | ⟨srcPortString,destPortString⟩ :: entries,routes =>
    match parse.u16 srcPortString with
    | none => .error (.foreign srcPortString)
    | some srcPort =>
      pushRoutes entries (routes ++ [(srcPort,destinationOr parse (.portOnly srcPort) destPortString)])

def takeTcpRp (tcpRpMap : Section) (self : ConfigBuilder) : Except Error ConfigBuilder :=
  (pushRoutes parse tcpRpMap.entries self.tcpRpDestProvider).map
    (fun tcpRpDestProvider => { self with tcpRpDestProvider })

def takeSshTarpit (sshTarpitMap : Section) (self : ConfigBuilder) : ConfigBuilder :=
  let (maxConnections,sshTarpitMap) :=
    sshTarpitMap.takeOptValue TryFromConfig.usize "max-connections".toList
  let (bannerRepeatTime,_) :=
    sshTarpitMap.takeOptValue TryFromConfig.duration "banner-repeat-time".toList
  { self with
    sshTarpitMaxConnections := maxConnections.getD 0
    sshTarpitBannerRepeatTime := bannerRepeatTime.getD self.sshTarpitBannerRepeatTime }

def levelFilter (value : Str) : Except Error LevelFilter :=
  TryFromConfig.ofOption env.levelFromStr value

def takeLogger (logMap : Section) (logConfig : LoggerConfig) : LoggerConfig :=
  let (logPath,logMap) := logMap.takeOptValue TryFromConfig.pathBuf "log-file".toList
  let (stdoutLog,logMap) := logMap.takeOptValue TryFromConfig.bool "print-log".toList
  let (printLevel,logMap) := logMap.takeOptValue (levelFilter env) "print-level".toList
  let (logfileLevel,_) := logMap.takeOptValue (levelFilter env) "logfile-level".toList
  { printLevel := printLevel.getD logConfig.printLevel
    logfileLevel := logfileLevel.getD logConfig.logfileLevel
    stdoutLog
    logPath }

def readMaps (configMap : SectionMaps) (self : ConfigBuilder) :
    Except Error (ConfigBuilder × LoggerConfig) := do
  let (defaultMap,configMap) := configMap.tryTakeSection "rusty-valve".toList
  let defaultMap ← defaultMap
  let (self,defaultMap) ← takeDefault parse defaultMap self
  let (tlsRpMap,configMap) := configMap.takeSection "tls-rp-ports".toList
  let self := match tlsRpMap with
    | some tlsRpMap => takeTlsRp parse defaultMap tlsRpMap self
    | none => self
  let (tcpRpMap,configMap) := configMap.takeSection "tcp-rp-ports".toList
  let self ← match tcpRpMap with
    | some tcpRpMap => takeTcpRp parse tcpRpMap self
    | none => pure self
  let (sshTarpitMap,configMap) := configMap.takeSection "ssh-tarpit".toList
  let self := match sshTarpitMap with
    | some sshTarpitMap => takeSshTarpit sshTarpitMap self
    | none => self
  let (logMap,_) := configMap.takeSection "logger".toList
  let logConfig := match logMap with
    | some logMap => takeLogger env logMap (.default env)
    | none => .default env
  pure (self,logConfig)

def getIniConfig (load : Str → Except Str SectionMaps) (self : ConfigBuilder) :
    Except Error (ConfigBuilder × LoggerConfig) :=
  match self.configFilePath with
  | none => .error (.anyhow "ConfigBuilder.config_file_path is not set".toList)
  | some configFilePath =>
    match load configFilePath with
    | .error e => .error (.anyhow e)
    | .ok configMap => readMaps parse env configMap self

end GetIniConfig

def build (self : ConfigBuilder) : Except Error Config :=
  .ok {
    bindSettings := some ⟨self.bindAddresses,self.tlsRpListenPort⟩
    serverSettings := some self.serverSettings
    loadBalancerConfig :=
      if !self.loadBalancerAddrs.isEmpty then some ⟨self.loadBalancerAddrs⟩ else none
    tlsRpConfig :=
      if !self.tlsRpDestProvider.isEmpty then
        some ⟨⟨self.connectionSettings,self.connTlsChMax⟩,self.tlsRpDestProvider⟩
      else none
    tcpRpConfig :=
      if !self.tcpRpDestProvider.isEmpty then
        some ⟨self.connectionSettings,self.tcpRpDestProvider⟩
      else none
    -- `!` is the bitwise complement here: it binds tighter than `==`.
    sshTarpitConfig :=
      if ~~~self.sshTarpitMaxConnections == 0 then
        some ⟨self.sshTarpitMaxConnections,self.sshTarpitBannerRepeatTime⟩
      else none }

end ConfigBuilder

end RustyValve
