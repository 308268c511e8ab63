import RustyValve.Config

namespace RustyValve

namespace Loading

variable (parse : FromStr)

section Routes

def route (e : Sigma fun _ : Str => Option Str) : Option Route :=
  (parse.u16 e.1).map (fun port => (port,ConfigBuilder.destinationOr parse (.portOnly port) e.2))

theorem pushRoutes_eq_ok {entries : List (Sigma fun _ : Str => Option Str)}
    {routes routes' : List Route} :
    ConfigBuilder.pushRoutes parse entries routes = .ok routes' ↔
      ∃ added, entries.mapM (route parse) = some added ∧ routes' = routes ++ added := by
  induction entries generalizing routes with
  | nil => simp [ConfigBuilder.pushRoutes,eq_comm]
  | cons e entries ih =>
    obtain ⟨key,value⟩ := e
    cases hk : parse.u16 key with
    | none => simp [ConfigBuilder.pushRoutes,route,hk]
    | some port =>
      simp only [ConfigBuilder.pushRoutes,route,hk,ih,List.mapM_cons,Option.map_some]
      cases entries.mapM (route parse) <;> simp

theorem sourcePorts_eq (entries : List (Sigma fun _ : Str => Option Str)) :
    entries.keys.mapM parse.u16 = (entries.mapM (route parse)).map (List.map Prod.fst) := by
  induction entries with
  | nil => rfl
  | cons e entries ih =>
    simp only [List.keys_cons,List.mapM_cons,ih,route]
    cases parse.u16 e.1 <;> cases entries.mapM (route parse) <;> rfl

theorem routes_eq_nil_iff {entries : List (Sigma fun _ : Str => Option Str)} {routes : List Route}
    (h : entries.mapM (route parse) = some routes) : routes = [] ↔ entries = [] := by
  cases entries with
  | nil => simpa [eq_comm] using h
  | cons e entries =>
    simp only [List.mapM_cons,Option.bind_eq_bind,Option.bind_eq_some_iff] at h
    obtain ⟨r,-,rs,-,hp⟩ := h
    rw [← Option.some.inj hp]
    simp

theorem insertHosts_isEmpty (fallback : Destination) (tlsRpMap : Section) :
    (ConfigBuilder.insertHosts parse fallback tlsRpMap ∅).isEmpty = tlsRpMap.entries.isEmpty := by
  have fold : ∀ (entries : List (Sigma fun _ : Str => Option Str)) (table : HostTable),
      (entries.foldl (fun table e => table.insert e.1 (ConfigBuilder.destinationOr parse fallback e.2))
        table).isEmpty = (table.isEmpty && entries.isEmpty) := by
    intro entries
    induction entries with
    | nil => simp
    | cons e entries ih => intro table; simp [ih]
  simpa [ConfigBuilder.insertHosts] using fold tlsRpMap.entries ∅

end Routes

section Hosts
variable (fallback : Destination)

theorem foldl_insert_getElem? {entries : List (Sigma fun _ : Str => Option Str)}
    (h : entries.NodupKeys) (table : HostTable) (key : Str) :
    (entries.foldl (fun table e => table.insert e.1 (ConfigBuilder.destinationOr parse fallback e.2))
        table)[key]? =
      ((entries.dlookup key).map (ConfigBuilder.destinationOr parse fallback)).or table[key]? := by
  induction entries generalizing table with
  | nil => simp
  | cons e entries ih =>
    obtain ⟨name,value⟩ := e
    obtain ⟨hk,hn⟩ := List.nodupKeys_cons.mp h
    have hd : List.dlookup name (⟨name,value⟩ :: entries) = some value := List.dlookup_cons_eq _ _ _
    rw [List.foldl_cons,ih hn,Std.ExtTreeMap.getElem?_insert]
    by_cases he : key = name
    · rw [he,List.dlookup_eq_none.mpr hk,if_pos Std.ReflCmp.compare_self,hd]
      rfl
    · rw [List.dlookup_cons_ne _ _ he,if_neg]
      rw [Std.LawfulEqOrd.compare_eq_iff_eq]
      exact Ne.symm he

theorem insertHosts_getElem? (tlsRpMap : Section) (table : HostTable) (key : Str) :
    (ConfigBuilder.insertHosts parse fallback tlsRpMap table)[key]? =
      ((tlsRpMap.lookup key).map (ConfigBuilder.destinationOr parse fallback)).or table[key]? :=
  foldl_insert_getElem? parse fallback tlsRpMap.nodupKeys table key

end Hosts

section Stages

theorem takeDefault_ok {defaultMap defaultMap' : Section} {b b' : ConfigBuilder} :
    b.takeDefault parse defaultMap = .ok (b',defaultMap') ↔ ∃ ips addrs,
      (defaultMap.takeMultiValue (TryFromConfig.ipAddr parse) "bind-addresses".toList).1 = .ok ips ∧
      (defaultMap.takeMultiValue (TryFromConfig.ipAddr parse)
        "destination-addresses".toList).1 = .ok addrs ∧
      b' = { b with bindAddresses := ips,loadBalancerAddrs := addrs } ∧
      defaultMap' = (defaultMap.erase "bind-addresses".toList).erase
        "destination-addresses".toList := by
  simp (disch := decide) only [ConfigBuilder.takeDefault,bind,Except.bind,pure,Except.pure,
    Section.takeMultiValue_snd,Section.takeMultiValue_erase]
  cases (defaultMap.takeMultiValue (TryFromConfig.ipAddr parse) "bind-addresses".toList).1 with
  | error e => simp
  | ok ips =>
    cases (defaultMap.takeMultiValue (TryFromConfig.ipAddr parse)
        "destination-addresses".toList).1 <;> simp [eq_comm]

def tlsStage (configMap : SectionMaps) (defaultMap : Section) (b : ConfigBuilder) : ConfigBuilder :=
  match configMap.lookup "tls-rp-ports".toList with
  | some tlsRpMap => b.takeTlsRp parse defaultMap tlsRpMap
  | none => b

def tcpStage (configMap : SectionMaps) (b : ConfigBuilder) : Except Error ConfigBuilder :=
  match configMap.lookup "tcp-rp-ports".toList with
  | some tcpRpMap => b.takeTcpRp parse tcpRpMap
  | none => .ok b

def tarpitStage (configMap : SectionMaps) (b : ConfigBuilder) : ConfigBuilder :=
  match configMap.lookup "ssh-tarpit".toList with
  | some sshTarpitMap => b.takeSshTarpit sshTarpitMap
  | none => b

def loggerStage (env : LogEnvironment) (configMap : SectionMaps) : LoggerConfig :=
  match configMap.lookup "logger".toList with
  | some logMap => ConfigBuilder.takeLogger env logMap (.default env)
  | none => .default env

theorem readMaps_eq (env : LogEnvironment) {configMap : SectionMaps} {defaultMap : Section}
    (h : configMap.lookup "rusty-valve".toList = some defaultMap) (b : ConfigBuilder) :
    b.readMaps parse env configMap = match b.takeDefault parse defaultMap with
      | .error e => .error e
      | .ok p => (tcpStage parse configMap (tlsStage parse configMap p.2 p.1)).map
          (fun b2 => (tarpitStage configMap b2,loggerStage env configMap)) := by
  simp (disch := decide) only [ConfigBuilder.readMaps,SectionMaps.tryTakeSection,
    SectionMaps.takeSection,bind,Except.bind,AList.lookup_erase_ne,h,tcpStage]
  cases b.takeDefault parse defaultMap with
  | error e => rfl
  | ok p =>
    cases configMap.lookup "tcp-rp-ports".toList with
    | none => rfl
    | some tcpRpMap =>
      simp only [tlsStage]
      generalize ConfigBuilder.takeTcpRp parse tcpRpMap _ = routed
      cases routed <;> rfl

theorem readMaps_without_default (env : LogEnvironment) {configMap : SectionMaps}
    (h : configMap.lookup "rusty-valve".toList = none) (b : ConfigBuilder) :
    ∃ e, b.readMaps parse env configMap = .error e := by
  simp only [ConfigBuilder.readMaps,SectionMaps.tryTakeSection,bind,Except.bind,h]
  exact ⟨_,rfl⟩

theorem readMaps_log (env : LogEnvironment) {configMap : SectionMaps} {b b' : ConfigBuilder}
    {log : LoggerConfig}
    (h : b.readMaps parse env configMap = .ok (b',log)) : log = loggerStage env configMap := by
  cases hl : configMap.lookup "rusty-valve".toList with
  | none =>
    obtain ⟨e,he⟩ := readMaps_without_default parse env hl b
    rw [he] at h
    cases h
  | some defaultMap =>
    rw [readMaps_eq parse env hl] at h
    split at h
    · cases h
    · rename_i p _
      cases ht : tcpStage parse configMap (tlsStage parse configMap p.2 p.1) with
      | error e => simp only [ht,Except.map,reduceCtorEq] at h
      | ok b2 =>
        simp only [ht,Except.map,Except.ok.injEq,Prod.mk.injEq] at h
        exact h.2.symm

theorem readMaps_ok (env : LogEnvironment) {configMap : SectionMaps} {b b' : ConfigBuilder} :
    (∃ log, b.readMaps parse env configMap = .ok (b',log)) ↔ ∃ defaultMap ips addrs b2,
      configMap.lookup "rusty-valve".toList = some defaultMap ∧
      (defaultMap.takeMultiValue (TryFromConfig.ipAddr parse) "bind-addresses".toList).1 = .ok ips ∧
      (defaultMap.takeMultiValue (TryFromConfig.ipAddr parse)
        "destination-addresses".toList).1 = .ok addrs ∧
      tcpStage parse configMap (tlsStage parse configMap
        ((defaultMap.erase "bind-addresses".toList).erase "destination-addresses".toList)
        { b with bindAddresses := ips,loadBalancerAddrs := addrs }) = .ok b2 ∧
      b' = tarpitStage configMap b2 := by
  constructor
  · rintro ⟨log,h⟩
    cases hl : configMap.lookup "rusty-valve".toList with
    | none =>
      obtain ⟨e,he⟩ := readMaps_without_default parse env hl b
      rw [he] at h
      cases h
    | some defaultMap =>
      rw [readMaps_eq parse env hl] at h
      cases hd : b.takeDefault parse defaultMap with
      | error e => rw [hd] at h; cases h
      | ok p =>
        obtain ⟨b1,defaultMap'⟩ := p
        obtain ⟨ips,addrs,hi,ha,rfl,rfl⟩ := (takeDefault_ok parse).mp hd
        rw [hd] at h
        cases ht : tcpStage parse configMap (tlsStage parse configMap
          ((defaultMap.erase "bind-addresses".toList).erase "destination-addresses".toList)
          { b with bindAddresses := ips,loadBalancerAddrs := addrs }) with
        | error e => simp only [ht,Except.map,reduceCtorEq] at h
        | ok b2 =>
          simp only [ht,Except.map,Except.ok.injEq,Prod.mk.injEq] at h
          exact ⟨defaultMap,ips,addrs,b2,rfl,hi,ha,ht,h.1.symm⟩
  · rintro ⟨defaultMap,ips,addrs,b2,hl,hi,ha,ht,rfl⟩
    have hd := (takeDefault_ok parse (b := b)).mpr ⟨ips,addrs,hi,ha,rfl,rfl⟩
    exact ⟨loggerStage env configMap,by
      rw [readMaps_eq parse env hl,hd]
      simp only [ht,Except.map]⟩

-- What the section of ports adds to a builder without routes.
def RoutesFrom (configMap : SectionMaps) (routes : List Route) : Prop :=
  match configMap.lookup "tcp-rp-ports".toList with
  | none => routes = []
  | some tcpRpMap => tcpRpMap.entries.mapM (route parse) = some routes

theorem RoutesFrom.section_of_ne_nil {configMap : SectionMaps} {routes : List Route}
    (h : RoutesFrom parse configMap routes) (hne : routes ≠ []) :
    ∃ tcpRpMap, configMap.lookup "tcp-rp-ports".toList = some tcpRpMap ∧
      tcpRpMap.entries.mapM (route parse) = some routes := by
  unfold RoutesFrom at h
  split at h
  · exact absurd h hne
  · exact ⟨_,by assumption,h⟩

theorem tcpStage_ok {configMap : SectionMaps} {b b' : ConfigBuilder}
    (hb : b.tcpRpDestProvider = []) :
    tcpStage parse configMap b = .ok b' ↔ ∃ routes, RoutesFrom parse configMap routes ∧
      b' = { b with tcpRpDestProvider := routes } := by
  unfold tcpStage RoutesFrom
  cases configMap.lookup "tcp-rp-ports".toList with
  | none =>
    have hn : { b with tcpRpDestProvider := [] } = b := by rw [← hb]
    simp only [Except.ok.injEq,exists_eq_left,hn]
    exact eq_comm
  | some tcpRpMap =>
    simp only [ConfigBuilder.takeTcpRp,hb]
    cases hp : ConfigBuilder.pushRoutes parse tcpRpMap.entries [] with
    | error e =>
      simp only [Except.map,reduceCtorEq,false_iff,not_exists,not_and]
      intro routes hm
      have ho := (@pushRoutes_eq_ok parse tcpRpMap.entries [] routes).mpr ⟨routes,hm,rfl⟩
      rw [hp] at ho
      cases ho
    | ok routes =>
      obtain ⟨added,hm,rfl⟩ := (pushRoutes_eq_ok parse).mp hp
      simp only [Except.map,Except.ok.injEq,hm,Option.some.injEq,exists_eq_left']
      exact eq_comm

def listenPorts (defaultMap : Section) : List UInt16 :=
  (defaultMap.takeMultiValue (TryFromConfig.u16 parse)
    "tls-rp-listen-port".toList).1.toOption.getD [4080,4443]

theorem listenPorts_erase (defaultMap : Section) :
    listenPorts parse (((defaultMap.erase "bind-addresses".toList).erase
      "destination-addresses".toList).erase "fallback-tls-destination-port".toList) =
      listenPorts parse defaultMap := by
  simp (disch := decide) only [listenPorts,Section.takeMultiValue_erase]

def remaining (defaultMap : Section) : Section :=
  (defaultMap.erase "bind-addresses".toList).erase "destination-addresses".toList

structure Fresh (b : ConfigBuilder) : Prop where
  noHosts : b.tlsRpDestProvider = ∅
  noRoutes : b.tcpRpDestProvider = []
  defaultPorts : b.tlsRpListenPort = [4080,4443]

theorem new_fresh (debugAssertions : Bool) (path : Option Str) :
    Fresh (ConfigBuilder.new.getOpts debugAssertions path) := ⟨rfl,rfl,rfl⟩

theorem tlsStage_some {configMap : SectionMaps} {tlsRpMap : Section}
    (hl : configMap.lookup "tls-rp-ports".toList = some tlsRpMap) {b : ConfigBuilder}
    (hb : Fresh b) (defaultMap : Section) :
    ∃ fallback, tlsStage parse configMap (remaining defaultMap) b =
      { b with
        fallbackTlsDestinationPort := fallback
        tlsRpListenPort := listenPorts parse defaultMap
        tlsRpDestProvider := ConfigBuilder.insertHosts parse fallback tlsRpMap ∅ } := by
  simp only [tlsStage,hl,ConfigBuilder.takeTlsRp,hb.noHosts,hb.defaultPorts,
    ← listenPorts_erase parse defaultMap]
  exact ⟨_,rfl⟩

theorem tlsStage_none {configMap : SectionMaps}
    (hl : configMap.lookup "tls-rp-ports".toList = none) (b : ConfigBuilder) (defaultMap : Section) :
    tlsStage parse configMap defaultMap b = b := by
  rw [tlsStage,hl]

theorem tarpitStage_hosts (configMap : SectionMaps) (b : ConfigBuilder) :
    (tarpitStage configMap b).tlsRpDestProvider = b.tlsRpDestProvider := by
  unfold tarpitStage
  cases configMap.lookup "ssh-tarpit".toList <;> rfl

theorem tarpitStage_routes (configMap : SectionMaps) (b : ConfigBuilder) :
    (tarpitStage configMap b).tcpRpDestProvider = b.tcpRpDestProvider := by
  unfold tarpitStage
  cases configMap.lookup "ssh-tarpit".toList <;> rfl

theorem tlsStage_routes (configMap : SectionMaps) (defaultMap : Section) (b : ConfigBuilder) :
    (tlsStage parse configMap defaultMap b).tcpRpDestProvider = b.tcpRpDestProvider := by
  unfold tlsStage
  cases configMap.lookup "tls-rp-ports".toList <;> rfl

end Stages

section Loaded
variable {env : LogEnvironment} {configMap : SectionMaps} {b b' : ConfigBuilder} {log : LoggerConfig}

theorem loaded_hosts (hb : Fresh b)
    (h : b.readMaps parse env configMap = .ok (b',log)) (key : Str) :
    b'.tlsRpDestProvider[key]? = ((configMap.lookup "tls-rp-ports".toList).bind (·.lookup key)).map
      (ConfigBuilder.destinationOr parse b'.fallbackTlsDestinationPort) := by
  obtain ⟨defaultMap,ips,addrs,b2,-,-,-,ht,rfl⟩ := (readMaps_ok parse env).mp ⟨log,h⟩
  have hf : (tarpitStage configMap b2).fallbackTlsDestinationPort = b2.fallbackTlsDestinationPort := by
    unfold tarpitStage
    cases configMap.lookup "ssh-tarpit".toList <;> rfl
  rw [tarpitStage_hosts,hf]
  cases hl : configMap.lookup "tls-rp-ports".toList with
  | none =>
    rw [tlsStage_none parse hl] at ht
    obtain ⟨routes,-,rfl⟩ := (tcpStage_ok parse (by exact hb.noRoutes)).mp ht
    simp [hb.noHosts]
  | some tlsRpMap =>
    obtain ⟨fallback,hs⟩ := tlsStage_some parse hl
      (b := { b with bindAddresses := ips,loadBalancerAddrs := addrs })
      ⟨hb.noHosts,hb.noRoutes,hb.defaultPorts⟩ defaultMap
    rw [← remaining,hs] at ht
    obtain ⟨routes,-,rfl⟩ := (tcpStage_ok parse (by exact hb.noRoutes)).mp ht
    simp [insertHosts_getElem?]

theorem loaded_host (hb : Fresh b) (h : b.readMaps parse env configMap = .ok (b',log)) {key : Str}
    (hk : key ∈ b'.tlsRpDestProvider) :
    ∃ tlsRpMap, configMap.lookup "tls-rp-ports".toList = some tlsRpMap ∧ key ∈ tlsRpMap.keys := by
  obtain ⟨possible,hp⟩ := Option.isSome_iff_exists.mp (Std.ExtTreeMap.mem_iff_isSome_getElem?.mp hk)
  rw [loaded_hosts parse hb h,Option.map_eq_some_iff] at hp
  obtain ⟨value,hv,-⟩ := hp
  obtain ⟨tlsRpMap,hl,hv⟩ := Option.bind_eq_some_iff.mp hv
  exact ⟨tlsRpMap,hl,AList.lookup_isSome.mp (Option.isSome_of_eq_some hv)⟩

theorem loaded_routes (hb : Fresh b) (h : b.readMaps parse env configMap = .ok (b',log)) :
    RoutesFrom parse configMap b'.tcpRpDestProvider := by
  obtain ⟨defaultMap,ips,addrs,b2,-,-,-,ht,rfl⟩ := (readMaps_ok parse env).mp ⟨log,h⟩
  obtain ⟨routes,hr,rfl⟩ := (tcpStage_ok parse (by rw [tlsStage_routes]; exact hb.noRoutes)).mp ht
  rw [tarpitStage_routes]
  exact hr

def ListsAny (configMap : SectionMaps) (sectionName : Str) : Prop :=
  ∃ s, configMap.lookup sectionName = some s ∧ s.entries ≠ []

theorem loaded_hosts_nonempty_iff (hb : Fresh b) (h : b.readMaps parse env configMap = .ok (b',log)) :
    b'.tlsRpDestProvider.isEmpty = false ↔ ListsAny configMap "tls-rp-ports".toList := by
  rw [Std.ExtTreeMap.isEmpty_eq_false_iff,not_iff_comm]
  constructor
  · intro hn
    apply Std.ExtTreeMap.ext_getElem?
    intro key
    rw [loaded_hosts parse hb h key,Std.ExtTreeMap.getElem?_empty]
    cases hl : configMap.lookup "tls-rp-ports".toList with
    | none => rfl
    | some tlsRpMap =>
      have he : tlsRpMap.entries = [] := by
        by_contra hne
        exact hn ⟨tlsRpMap,hl,hne⟩
      rw [Option.bind_some,AList.lookup,he]
      rfl
  · rintro he ⟨tlsRpMap,hl,hne⟩
    obtain ⟨⟨key,value⟩,entries,hcons⟩ := List.exists_cons_of_ne_nil hne
    have hk := loaded_hosts parse hb h key
    rw [he,hl,Option.bind_some,AList.lookup,hcons,List.dlookup_cons_eq,
      Std.ExtTreeMap.getElem?_empty] at hk
    cases hk

theorem loaded_routes_nonempty_iff (hb : Fresh b)
    (h : b.readMaps parse env configMap = .ok (b',log)) :
    b'.tcpRpDestProvider ≠ [] ↔ ListsAny configMap "tcp-rp-ports".toList := by
  have hr := loaded_routes parse hb h
  unfold RoutesFrom at hr
  unfold ListsAny
  cases hl : configMap.lookup "tcp-rp-ports".toList with
  | none => simp_all
  | some tcpRpMap =>
    rw [hl] at hr
    simp only [Option.some.injEq,exists_eq_left',ne_eq,routes_eq_nil_iff parse hr]

end Loaded

end Loading

end RustyValve
