import RustyValve.Loading
import RustyValve.Library.Traversal

namespace RustyValve

namespace LoadingOrder

open Loading

-- The same content of the two route sections, met in any two orders.
structure Reordered (configMap configMap' : SectionMaps) : Prop where
  hosts : Option.Rel (fun s s' : Section => s.entries.Perm s'.entries)
    (configMap.lookup "tls-rp-ports".toList) (configMap'.lookup "tls-rp-ports".toList)
  ports : Option.Rel (fun s s' : Section => s.entries.Perm s'.entries)
    (configMap.lookup "tcp-rp-ports".toList) (configMap'.lookup "tcp-rp-ports".toList)
  others : ∀ name, name ≠ "tls-rp-ports".toList → name ≠ "tcp-rp-ports".toList →
    configMap.lookup name = configMap'.lookup name

theorem rel_symm {o o' : Option Section}
    (h : Option.Rel (fun s s' : Section => s.entries.Perm s'.entries) o o') :
    Option.Rel (fun s s' : Section => s.entries.Perm s'.entries) o' o := by
  cases h with
  | none => exact .none
  | some h => exact .some h.symm

theorem Reordered.symm {configMap configMap' : SectionMaps} (h : Reordered configMap configMap') :
    Reordered configMap' configMap :=
  ⟨rel_symm h.hosts,rel_symm h.ports,fun name ht hp => (h.others name ht hp).symm⟩

variable (parse : FromStr)

inductive Entry (fallback : Destination) : Option Str → PossibleDestinations → Prop
  | parsed {value possible} : TryFromConfig.possibleDestinations parse value = .ok possible →
      Entry fallback (some value) possible
  | missing : Entry fallback none (.withoutElse fallback)
  | rejected {value e} : TryFromConfig.possibleDestinations parse value = .error e →
      Entry fallback (some value) (.withoutElse fallback)

theorem entry_iff {fallback : Destination} {value : Option Str} {possible : PossibleDestinations} :
    Entry parse fallback value possible ↔
      ConfigBuilder.destinationOr parse fallback value = possible := by
  constructor
  · rintro (h | _ | h)
    · simp [ConfigBuilder.destinationOr,h,Except.toOption]
    · rfl
    · simp [ConfigBuilder.destinationOr,h,Except.toOption]
  · rintro rfl
    cases value with
    | none => exact .missing
    | some value =>
      cases h : TryFromConfig.possibleDestinations parse value with
      | ok possible => simpa [ConfigBuilder.destinationOr,h,Except.toOption] using .parsed h
      | error e => simpa [ConfigBuilder.destinationOr,h,Except.toOption] using .rejected h

section Hosts
variable (fallback : Destination)

theorem insertHosts_perm {tlsRpMap tlsRpMap' : Section}
    (h : tlsRpMap.entries.Perm tlsRpMap'.entries) (table : HostTable) :
    ConfigBuilder.insertHosts parse fallback tlsRpMap table =
      ConfigBuilder.insertHosts parse fallback tlsRpMap' table := by
  apply Std.ExtTreeMap.ext_getElem?
  intro key
  rw [insertHosts_getElem?,insertHosts_getElem?,AList.perm_lookup h]

end Hosts

section Stages
variable {configMap configMap' : SectionMaps}

theorem tlsStage_reordered (h : Reordered configMap configMap') (defaultMap : Section) (b : ConfigBuilder) :
    tlsStage parse configMap defaultMap b = tlsStage parse configMap' defaultMap b := by
  have hr := h.hosts
  unfold tlsStage
  generalize configMap.lookup "tls-rp-ports".toList = o at hr ⊢
  generalize configMap'.lookup "tls-rp-ports".toList = o' at hr ⊢
  cases hr with
  | none => rfl
  | some hp => simp only [ConfigBuilder.takeTlsRp,insertHosts_perm parse _ hp]

theorem tcpStage_reordered (h : Reordered configMap configMap') {b b2 : ConfigBuilder}
    (ht : tcpStage parse configMap b = .ok b2) :
    ∃ routes, tcpStage parse configMap' b = .ok { b2 with tcpRpDestProvider := routes } ∧
      b2.tcpRpDestProvider.Perm routes := by
  have hr := h.ports
  unfold tcpStage at ht ⊢
  generalize configMap.lookup "tcp-rp-ports".toList = o at hr ht
  generalize configMap'.lookup "tcp-rp-ports".toList = o' at hr ⊢
  cases hr with
  | none =>
    cases ht
    exact ⟨_,rfl,.refl _⟩
  | @some s s' hp =>
    simp only [ConfigBuilder.takeTcpRp] at ht ⊢
    cases hr : ConfigBuilder.pushRoutes parse s.entries b.tcpRpDestProvider with
    | error e => simp only [hr,Except.map,reduceCtorEq] at ht
    | ok routes =>
      simp only [hr,Except.map,Except.ok.injEq] at ht
      obtain ⟨added,hm,rfl⟩ := (pushRoutes_eq_ok parse).mp hr
      obtain ⟨added',hm',ha⟩ := Traversal.mapM_some_perm hp hm
      have hr' := (@pushRoutes_eq_ok parse s'.entries b.tcpRpDestProvider _).mpr ⟨added',hm',rfl⟩
      subst ht
      exact ⟨_,by rw [hr']; rfl,ha.append_left _⟩

theorem tarpitStage_reordered (h : Reordered configMap configMap') (b : ConfigBuilder) (routes : List Route) :
    tarpitStage configMap' { b with tcpRpDestProvider := routes } =
      { tarpitStage configMap b with tcpRpDestProvider := routes } := by
  unfold tarpitStage
  rw [← h.others _ (by decide) (by decide)]
  cases configMap.lookup "ssh-tarpit".toList <;> rfl

end Stages

section Read
variable (env : LogEnvironment) {configMap configMap' : SectionMaps}

theorem readMaps_reordered (h : Reordered configMap configMap') {b b1 : ConfigBuilder}
    {log : LoggerConfig} (hb : b.readMaps parse env configMap = .ok (b1,log)) :
    ∃ routes, b.readMaps parse env configMap' =
        .ok ({ b1 with tcpRpDestProvider := routes },log) ∧ b1.tcpRpDestProvider.Perm routes := by
  obtain ⟨defaultMap,ips,addrs,b2,hl,hi,ha,ht,rfl⟩ := (readMaps_ok parse env).mp ⟨log,hb⟩
  obtain rfl := readMaps_log parse env hb
  rw [tlsStage_reordered parse h] at ht
  obtain ⟨routes,ht',hp⟩ := tcpStage_reordered parse h ht
  have hl' : configMap'.lookup "rusty-valve".toList = some defaultMap := by
    rw [← h.others _ (by decide) (by decide),hl]
  obtain ⟨log',hb'⟩ := (readMaps_ok parse env).mpr ⟨defaultMap,ips,addrs,_,hl',hi,ha,ht',rfl⟩
  have hlog : loggerStage env configMap = loggerStage env configMap' := by
    simp only [loggerStage,h.others "logger".toList (by decide) (by decide)]
  refine ⟨routes,?_,?_⟩
  · rw [hb',tarpitStage_reordered h,hlog,readMaps_log parse env hb']
  · rw [tarpitStage_routes]
    exact hp

end Read

structure SameRoutes (configMap : SectionMaps) (b b' : ConfigBuilder) : Prop where
  table : b.tlsRpDestProvider = b'.tlsRpDestProvider
  hosts : ∀ key possible, b.tlsRpDestProvider[key]? = some possible ↔ ∃ tlsRpMap value,
    configMap.lookup "tls-rp-ports".toList = some tlsRpMap ∧ tlsRpMap.lookup key = some value ∧
      Entry parse b.fallbackTlsDestinationPort value possible
  routes : b.tcpRpDestProvider.Perm b'.tcpRpDestProvider
  ports : ∀ tcpRpMap, configMap.lookup "tcp-rp-ports".toList = some tcpRpMap →
    List.Forall₂ (fun e r => parse.u16 e.1 = some r.1 ∧ Entry parse (.portOnly r.1) e.2 r.2)
      tcpRpMap.entries b.tcpRpDestProvider
  noPorts : configMap.lookup "tcp-rp-ports".toList = none → b.tcpRpDestProvider = []

theorem route_eq_some {e : Sigma fun _ : Str => Option Str} {r : Route} :
    route parse e = some r ↔ parse.u16 e.1 = some r.1 ∧ Entry parse (.portOnly r.1) e.2 r.2 := by
  rw [entry_iff,route,Option.map_eq_some_iff]
  constructor
  · rintro ⟨port,hp,rfl⟩
    exact ⟨hp,rfl⟩
  · rintro ⟨hp,he⟩
    exact ⟨r.1,hp,by rw [he]⟩

theorem readMaps_same_routes (env : LogEnvironment) {configMap configMap' : SectionMaps}
    (h : Reordered configMap configMap') {b b1 b2 : ConfigBuilder} (hb : Fresh b)
    {log log' : LoggerConfig} (h1 : b.readMaps parse env configMap = .ok (b1,log))
    (h2 : b.readMaps parse env configMap' = .ok (b2,log')) : SameRoutes parse configMap b1 b2 := by
  obtain ⟨routes,hr,hp⟩ := readMaps_reordered parse env h h1
  rw [h2,Except.ok.injEq,Prod.mk.injEq] at hr
  obtain ⟨rfl,-⟩ := hr
  have hroutes := loaded_routes parse hb h1
  constructor
  case table => rfl
  case hosts =>
    intro key possible
    rw [loaded_hosts parse hb h1]
    simp only [Option.map_eq_some_iff,Option.bind_eq_some_iff,entry_iff]
    constructor
    · rintro ⟨value,⟨tlsRpMap,hl,hk⟩,he⟩
      exact ⟨tlsRpMap,value,hl,hk,he⟩
    · rintro ⟨tlsRpMap,value,hl,hk,he⟩
      exact ⟨value,⟨tlsRpMap,hl,hk⟩,he⟩
  case routes => exact hp
  case ports =>
    intro tcpRpMap hl
    rw [RoutesFrom,hl] at hroutes
    exact (Traversal.mapM_eq_some.mp hroutes).imp (fun _ _ he => (route_eq_some parse).mp he)
  case noPorts =>
    intro hl
    rw [RoutesFrom,hl] at hroutes
    exact hroutes

theorem loaded_routes_order_free (env : LogEnvironment) {configMap configMap' : SectionMaps}
    (h : Reordered configMap configMap') (debugAssertions : Bool) (config : Option Str) {path : Str}
    (hpath : (ConfigBuilder.new.getOpts debugAssertions config).configFilePath = some path)
    (load load' : Str → Except Str SectionMaps) (hload : load path = .ok configMap)
    (hload' : load' path = .ok configMap') :
    ((∃ r, (ConfigBuilder.new.getOpts debugAssertions config).getIniConfig parse env load = .ok r) ↔
      ∃ r, (ConfigBuilder.new.getOpts debugAssertions config).getIniConfig parse env load' = .ok r) ∧
    ∀ b log b' log',
      (ConfigBuilder.new.getOpts debugAssertions config).getIniConfig parse env load = .ok (b,log) →
      (ConfigBuilder.new.getOpts debugAssertions config).getIniConfig parse env load' = .ok (b',log') →
        SameRoutes parse configMap b b' := by
  simp only [ConfigBuilder.getIniConfig,hpath,hload,hload']
  constructor
  · constructor
    · rintro ⟨⟨b,log⟩,hb⟩
      obtain ⟨routes,hr,-⟩ := readMaps_reordered parse env h hb
      exact ⟨_,hr⟩
    · rintro ⟨⟨b,log⟩,hb⟩
      obtain ⟨routes,hr,-⟩ := readMaps_reordered parse env h.symm hb
      exact ⟨_,hr⟩
  · intro b log b' log' h1 h2
    exact readMaps_same_routes parse env h (new_fresh debugAssertions config) h1 h2

def twoHosts (first second : Str × Option Str) : Section :=
  (AList.singleton second.1 second.2).insert first.1 first.2

theorem twoHosts_perm {first second : Str × Option Str} (h : first.1 ≠ second.1) :
    (twoHosts first second).entries.Perm (twoHosts second first).entries := by
  have entries {a b : Str × Option Str} (hne : a.1 ≠ b.1) :
      (twoHosts a b).entries = [⟨a.1,a.2⟩,⟨b.1,b.2⟩] := by
    have hm : a.1 ∉ (AList.singleton b.1 b.2 : Section) := by simpa [AList.mem_keys] using hne
    exact AList.entries_insert_of_notMem hm
  rw [entries h,entries h.symm]
  exact .swap _ _ _

def sectionsWith (hosts ports : Section) : SectionMaps :=
  ((AList.singleton "rusty-valve".toList ∅).insert "tls-rp-ports".toList hosts).insert
    "tcp-rp-ports".toList ports

theorem reordered_sections {hosts hosts' ports ports' : Section}
    (hh : hosts.entries.Perm hosts'.entries) (hp : ports.entries.Perm ports'.entries) :
    Reordered (sectionsWith hosts ports) (sectionsWith hosts' ports') where
  hosts := by
    have hne : "tls-rp-ports".toList ≠ "tcp-rp-ports".toList := by decide
    simp only [sectionsWith,AList.lookup_insert_ne hne,AList.lookup_insert]
    exact .some hh
  ports := by
    simp only [sectionsWith,AList.lookup_insert]
    exact .some hp
  others name ht hp := by
    simp only [sectionsWith,AList.lookup_insert_ne ht,AList.lookup_insert_ne hp]

def webHost : Str × Option Str := ("a.example".toList,some "1337".toList)
def mailHost : Str × Option Str := ("b.example".toList,some "nowhere".toList)
def sshPort : Str × Option Str := ("2222".toList,some "ssh-tarpit".toList)
def mailPort : Str × Option Str := ("465".toList,none)

theorem two_orders_same_routes : ∃ b log b' log',
    (ConfigBuilder.new.getOpts true none).getIniConfig .std .silent
        (fun _ => .ok (sectionsWith (twoHosts webHost mailHost) (twoHosts sshPort mailPort))) =
      .ok (b,log) ∧
    (ConfigBuilder.new.getOpts true none).getIniConfig .std .silent
        (fun _ => .ok (sectionsWith (twoHosts mailHost webHost) (twoHosts mailPort sshPort))) =
      .ok (b',log') ∧
    SameRoutes .std (sectionsWith (twoHosts webHost mailHost) (twoHosts sshPort mailPort)) b b' := by
  have hr : Reordered (sectionsWith (twoHosts webHost mailHost) (twoHosts sshPort mailPort))
      (sectionsWith (twoHosts mailHost webHost) (twoHosts mailPort sshPort)) :=
    reordered_sections (twoHosts_perm (by decide)) (twoHosts_perm (by decide))
  have ho := loaded_routes_order_free .std .silent hr true none rfl
    (fun _ => .ok _) (fun _ => .ok _) rfl rfl
  obtain ⟨⟨b,log⟩,h1⟩ : ∃ r, (ConfigBuilder.new.getOpts true none).getIniConfig .std .silent
      (fun _ => .ok (sectionsWith (twoHosts webHost mailHost) (twoHosts sshPort mailPort))) = .ok r :=
    ⟨_,rfl⟩
  obtain ⟨⟨b',log'⟩,h2⟩ := ho.1.mp ⟨_,h1⟩
  exact ⟨b,log,b',log',h1,h2,ho.2 b log b' log' h1 h2⟩

end LoadingOrder

end RustyValve
