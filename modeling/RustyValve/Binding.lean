import RustyValve.Server

namespace RustyValve

namespace Binding

variable (outcomes : BindOutcomes)

section Tcp

def triedAddrs (ipAddrs : List IpAddr) (ports : List UInt16) : List SocketAddr :=
  match ipAddrs with
  | [] => []
  | ipAddr :: _ => ports.reverse.map (fun port => ⟨ipAddr,port⟩)

theorem triedAddrs_cons (ipAddr : IpAddr) (ipAddrs : List IpAddr) (routes : List Route) :
    triedAddrs (ipAddr :: ipAddrs) (routes.map Prod.fst) =
      routes.reverse.map (SimpleTcpHandler.socketAddr ipAddr) := by
  simp [triedAddrs,List.map_reverse,SimpleTcpHandler.socketAddr]

def opened (ipAddrs : List IpAddr) (routes : List Route) : List (TcpListener × Route) :=
  match ipAddrs with
  | [] => []
  | ipAddr :: _ => routes.reverse.map (boundTo (SimpleTcpHandler.socketAddr ipAddr))

theorem bindRoutes_nil (ipAddrs : List IpAddr) (attempt : ℕ) :
    SimpleTcpHandler.bindRoutes outcomes ipAddrs [] attempt = .ok ([],attempt) := by
  induction ipAddrs with
  | nil => rfl
  | cons ipAddr ipAddrs ih =>
    rw [SimpleTcpHandler.bindRoutes,List.reverse_nil,bindEach,bind_of_ok (pure_run _ attempt),
      bind_of_ok ih,pure_run,List.append_nil]

theorem bindRoutes_of_allBind {ipAddrs : List IpAddr} {routes : List Route} {attempt : ℕ}
    (h : AllBind outcomes attempt (triedAddrs ipAddrs (routes.map Prod.fst))) :
    ∃ attempt', SimpleTcpHandler.bindRoutes outcomes ipAddrs routes attempt =
      .ok (opened ipAddrs routes,attempt') := by
  cases ipAddrs with
  | nil => exact ⟨attempt,rfl⟩
  | cons ipAddr ipAddrs =>
    rw [triedAddrs_cons] at h
    rw [SimpleTcpHandler.bindRoutes,bind_of_ok (bindEach_of_allBind outcomes _ h),
      bind_of_ok (bindRoutes_nil outcomes ipAddrs _),pure_run,List.append_nil]
    exact ⟨_,rfl⟩

theorem bindRoutes_of_not_allBind {ipAddrs : List IpAddr} {routes : List Route} {attempt : ℕ}
    (h : ¬ AllBind outcomes attempt (triedAddrs ipAddrs (routes.map Prod.fst))) :
    ∃ e, SimpleTcpHandler.bindRoutes outcomes ipAddrs routes attempt = .error e := by
  cases ipAddrs with
  | nil => exact absurd trivial h
  | cons ipAddr ipAddrs =>
    rw [triedAddrs_cons] at h
    obtain ⟨e,he⟩ := bindEach_of_not_allBind outcomes _ h
    exact ⟨e,by rw [SimpleTcpHandler.bindRoutes,bind_of_error he]⟩

theorem tcp_bind_of_allBind (handler : SimpleTcpHandler) (settings : BindSettings) {attempt : ℕ}
    (h : AllBind outcomes attempt
      (triedAddrs settings.bindIpAddrs (handler.destinationProvider.map Prod.fst))) :
    ∃ attempt', handler.bind outcomes settings attempt =
      .ok (⟨opened settings.bindIpAddrs handler.destinationProvider,handler.connectionSettings,
        handler.forwardSender⟩,attempt') := by
  obtain ⟨attempt',ha⟩ := bindRoutes_of_allBind outcomes h
  exact ⟨attempt',by rw [SimpleTcpHandler.bind,bind_of_ok ha,pure_run]⟩

theorem tcp_bind_of_not_allBind (handler : SimpleTcpHandler) (settings : BindSettings)
    {attempt : ℕ} (h : ¬ AllBind outcomes attempt
      (triedAddrs settings.bindIpAddrs (handler.destinationProvider.map Prod.fst))) :
    ∃ e, handler.bind outcomes settings attempt = .error e := by
  obtain ⟨e,he⟩ := bindRoutes_of_not_allBind outcomes h
  exact ⟨e,by rw [SimpleTcpHandler.bind,bind_of_error he]⟩

def everyPair (ipAddrs : List IpAddr) (routes : List Route) : List (TcpListener × Route) :=
  (ipAddrs ×ˢ routes).map (fun p => (⟨⟨p.1,p.2.1⟩⟩,p.2))

theorem opened_perm_iff {ipAddrs : List IpAddr} (hne : ipAddrs ≠ []) (routes : List Route) :
    (opened ipAddrs routes).Perm (everyPair ipAddrs routes) ↔ ipAddrs.length = 1 ∨ routes = [] := by
  obtain ⟨ipAddr,rest,rfl⟩ := List.exists_cons_of_ne_nil hne
  constructor
  · intro h
    have hl := h.length_eq
    simp only [opened,everyPair,List.length_map,List.length_reverse,List.length_product,
      List.length_cons] at hl ⊢
    rcases Nat.eq_zero_or_pos routes.length with h0 | h0
    · exact .inr (List.length_eq_zero_iff.mp h0)
    · left
      have : 1 * routes.length = (rest.length + 1) * routes.length := by rw [one_mul]; exact hl
      exact (Nat.eq_of_mul_eq_mul_right h0 this).symm
  · rintro (h | rfl)
    · obtain rfl : rest = [] := by simpa using h
      have hp : everyPair [ipAddr] routes =
          routes.map (boundTo (SimpleTcpHandler.socketAddr ipAddr)) := by
        simp [everyPair,List.product_cons,boundTo,SimpleTcpHandler.socketAddr,Function.comp_def]
      rw [hp]
      exact (List.reverse_perm routes).map _
    · simp [opened,everyPair]

def ListensOnEveryAddress (handler : SimpleTcpHandler) (settings : BindSettings) (attempt : ℕ) :
    Prop :=
  ∃ bound attempt', handler.bind outcomes settings attempt = .ok (bound,attempt') ∧
    bound.listeners.Perm (everyPair settings.bindIpAddrs handler.destinationProvider)

theorem listens_everywhere_iff (handler : SimpleTcpHandler) {settings : BindSettings}
    (hne : settings.bindIpAddrs ≠ []) {attempt : ℕ}
    (h : AllBind outcomes attempt
      (triedAddrs settings.bindIpAddrs (handler.destinationProvider.map Prod.fst))) :
    ListensOnEveryAddress outcomes handler settings attempt ↔
      settings.bindIpAddrs.length = 1 ∨ handler.destinationProvider = [] := by
  obtain ⟨attempt',ha⟩ := tcp_bind_of_allBind outcomes handler settings h
  rw [← opened_perm_iff hne]
  constructor
  · rintro ⟨bound,k,hb,hp⟩
    rw [ha,Except.ok.injEq,Prod.mk.injEq] at hb
    obtain ⟨rfl,-⟩ := hb
    exact hp
  · exact fun hp => ⟨_,attempt',ha,hp⟩

end Tcp

section Tls

def tlsAddrs (settings : BindSettings) : List SocketAddr :=
  (settings.tlsRpBindPort ×ˢ settings.bindIpAddrs).map TlsRpHandler.socketAddr

theorem tlsAddrs_eq_nil {settings : BindSettings} :
    tlsAddrs settings = [] ↔ settings.tlsRpBindPort = [] ∨ settings.bindIpAddrs = [] := by
  obtain ⟨ips,ports⟩ := settings
  cases ports <;> cases ips <;> simp [tlsAddrs]

theorem tls_bind_of_allBind (handler : TlsRpHandler) {settings : BindSettings} {attempt : ℕ}
    (hne : tlsAddrs settings ≠ []) (h : AllBind outcomes attempt (tlsAddrs settings)) :
    handler.bind outcomes settings attempt =
      .ok (⟨(tlsAddrs settings).map TcpListener.mk,handler.connectionSettings,
        handler.destinationProvider,handler.forwardSender⟩,
        attempt + (tlsAddrs settings).length) := by
  have hn : settings.tlsRpBindPort ×ˢ settings.bindIpAddrs ≠ [] := fun he =>
    hne (by rw [tlsAddrs,he,List.map_nil])
  rw [TlsRpHandler.bind,bind_of_ok (bindEach_of_allBind outcomes _ h)]
  simp only [List.isEmpty_iff,List.map_eq_nil_iff,hn,if_false,tlsAddrs,List.map_map,List.length_map]
  rfl

theorem tls_bind_of_not_allBind (handler : TlsRpHandler) {settings : BindSettings} {attempt : ℕ}
    (h : ¬ AllBind outcomes attempt (tlsAddrs settings)) :
    ∃ e, handler.bind outcomes settings attempt = .error e := by
  obtain ⟨e,he⟩ := bindEach_of_not_allBind outcomes _ h
  exact ⟨e,by rw [TlsRpHandler.bind,bind_of_error he]⟩

theorem tls_bind_nothing (handler : TlsRpHandler) {settings : BindSettings} (attempt : ℕ)
    (h : tlsAddrs settings = []) : ∃ e, handler.bind outcomes settings attempt = .error e := by
  have hn : settings.tlsRpBindPort ×ˢ settings.bindIpAddrs = [] := List.map_eq_nil_iff.mp h
  exact ⟨.anyhow "empty".toList,by simp only [TlsRpHandler.bind,hn]; rfl⟩

def TlsListensOnEveryAddress (handler : TlsRpHandler) (settings : BindSettings) (attempt : ℕ) :
    Prop :=
  ∃ bound attempt', handler.bind outcomes settings attempt = .ok (bound,attempt') ∧
    bound.listeners = (settings.tlsRpBindPort ×ˢ settings.bindIpAddrs).map
      (fun p => ⟨⟨p.2,p.1⟩⟩)

theorem tls_listens_everywhere (handler : TlsRpHandler) {settings : BindSettings} (attempt : ℕ)
    (hne : tlsAddrs settings ≠ []) (h : ∀ n socketAddr, outcomes n socketAddr = none) :
    TlsListensOnEveryAddress outcomes handler settings attempt := by
  refine ⟨_,_,tls_bind_of_allBind outcomes handler hne (allBind_of_none outcomes h attempt _),?_⟩
  simp [tlsAddrs,TlsRpHandler.socketAddr,Function.comp_def]

end Tls

section Everywhere

-- A TLS handler listens on every address in any case.
theorem tcp_bind_every_address_iff (handler : SimpleTcpHandler) (tls : TlsRpHandler)
    {settings : BindSettings} (hne : settings.bindIpAddrs ≠ []) (attempt : ℕ)
    (h : ∀ n socketAddr, outcomes n socketAddr = none) :
    (ListensOnEveryAddress outcomes handler settings attempt ↔
      settings.bindIpAddrs.length = 1 ∨ handler.destinationProvider = []) ∧
    (settings.tlsRpBindPort ≠ [] → TlsListensOnEveryAddress outcomes tls settings attempt) := by
  refine ⟨listens_everywhere_iff outcomes handler hne (allBind_of_none outcomes h attempt _),?_⟩
  intro hports
  exact tls_listens_everywhere outcomes tls attempt (fun he => (tlsAddrs_eq_nil.mp he).elim hports hne) h

def sshRoute : Route := (2222,.withoutElse (.portOnly 22))

def sshHandler : SimpleTcpHandler := ⟨⟨5⟩,[sshRoute],⟨∅⟩⟩

def webHandler : TlsRpHandler := ⟨⟨⟨5⟩,16358⟩,∅,⟨∅⟩⟩

theorem single_address_bound :
    ListensOnEveryAddress (fun _ _ => none) sshHandler ⟨[.v4 0x7F000001#32],[]⟩ 0 ∧
    TlsListensOnEveryAddress (fun _ _ => none) webHandler
      ⟨[.v4 0x7F000001#32,.v4 0x0A000001#32],[4080,4443]⟩ 0 := by
  constructor
  · exact (tcp_bind_every_address_iff _ sshHandler webHandler (by decide) 0 (fun _ _ => rfl)).1.mpr
      (.inl rfl)
  · exact (tcp_bind_every_address_iff _ sshHandler webHandler (by decide) 0 (fun _ _ => rfl)).2
      (by decide)

theorem second_address_not_bound :
    ¬ ListensOnEveryAddress (fun _ _ => none) sshHandler
      ⟨[.v4 0x7F000001#32,.v4 0x0A000001#32],[]⟩ 0 := by
  rw [listens_everywhere_iff _ _ (by decide) (allBind_of_none _ (fun _ _ => rfl) _ _)]
  decide

end Everywhere

section Both
variable (tls : TlsRpHandler) (tcp : SimpleTcpHandler) (settings : BindSettings)

theorem both_bind (attempt : ℕ) :
    (ListenerInner.unbound ⟨some tls,some tcp⟩).bind outcomes settings attempt =
      match tls.bind outcomes settings attempt with
      | .error e => .error e
      | .ok p =>
        match tcp.bind outcomes settings p.2 with
        | .error e => .error e
        | .ok q => .ok (.bound ⟨some p.1,some q.1⟩,q.2) := by
  cases htls : tls.bind outcomes settings attempt with
  | error e => exact bind_of_error (map_of_error htls some) _
  | ok p =>
    refine (bind_of_ok (map_of_ok htls some) _).trans ?_
    dsimp only
    cases htcp : tcp.bind outcomes settings p.2 with
    | error e => exact bind_of_error (map_of_error htcp some) _
    | ok q => exact (bind_of_ok (map_of_ok htcp some) _).trans (pure_run _ _)

-- What the listener tasks are started with.
def Listens (listening : Listening) : Prop :=
  ∃ attempt attempt' bound, (ListenerInner.unbound ⟨some tls,some tcp⟩).bind outcomes settings attempt =
    .ok (bound,attempt') ∧ bound.listen = .ok listening

variable {outcomes tls tcp settings}

theorem tls_bound_listeners {attempt : ℕ} {p : BoundTlsRpHandler × ℕ}
    (h : tls.bind outcomes settings attempt = .ok p) :
    p.1 = ⟨(tlsAddrs settings).map TcpListener.mk,tls.connectionSettings,tls.destinationProvider,
      tls.forwardSender⟩ := by
  by_cases ha : AllBind outcomes attempt (tlsAddrs settings)
  · by_cases hne : tlsAddrs settings = []
    · obtain ⟨e,he⟩ := tls_bind_nothing outcomes tls attempt hne
      rw [he] at h
      cases h
    · rw [tls_bind_of_allBind outcomes tls hne ha,Except.ok.injEq] at h
      rw [← h]
  · obtain ⟨e,he⟩ := tls_bind_of_not_allBind outcomes tls ha
    rw [he] at h
    cases h

theorem tls_bound_handler {attempt : ℕ} {p : BoundTlsRpHandler × ℕ}
    (h : tls.bind outcomes settings attempt = .ok p) : p.1.unbind = tls := by
  rw [tls_bound_listeners h]
  rfl

theorem tcp_bound_handler {attempt : ℕ} {p : BoundSimpleTcpHandler × ℕ}
    (h : tcp.bind outcomes settings attempt = .ok p) :
    p.1 = ⟨opened settings.bindIpAddrs tcp.destinationProvider,tcp.connectionSettings,
      tcp.forwardSender⟩ := by
  by_cases ha : AllBind outcomes attempt
      (triedAddrs settings.bindIpAddrs (tcp.destinationProvider.map Prod.fst))
  · obtain ⟨attempt',hb⟩ := tcp_bind_of_allBind outcomes tcp settings ha
    rw [hb,Except.ok.injEq] at h
    rw [← h]
  · obtain ⟨e,he⟩ := tcp_bind_of_not_allBind outcomes tcp settings ha
    rw [he] at h
    cases h

theorem mem_opened {ipAddrs : List IpAddr} {routes : List Route} {p : TcpListener × Route}
    (h : p ∈ opened ipAddrs routes) : p.2 ∈ routes ∧ p.1.localAddr.port = p.2.1 := by
  cases ipAddrs with
  | nil => cases h
  | cons ipAddr ipAddrs =>
    obtain ⟨route,hr,rfl⟩ := List.mem_map.mp h
    exact ⟨List.mem_reverse.mp hr,rfl⟩

theorem listens_handlers {listening : Listening} (h : Listens outcomes tls tcp settings listening) :
    listening.tlsHttpRp.unbind = tls ∧ listening.tcpRp =
      ⟨opened settings.bindIpAddrs tcp.destinationProvider,tcp.connectionSettings,tcp.forwardSender⟩ := by
  obtain ⟨attempt,attempt',bound,hb,hl⟩ := h
  rw [both_bind] at hb
  cases htls : tls.bind outcomes settings attempt with
  | error e => simp [htls] at hb
  | ok p =>
    cases htcp : tcp.bind outcomes settings p.2 with
    | error e => simp [htls,htcp] at hb
    | ok q =>
      simp only [htls,htcp,Except.ok.injEq,Prod.mk.injEq] at hb
      obtain ⟨rfl,-⟩ := hb
      obtain rfl := Except.ok.inj hl
      exact ⟨tls_bound_handler htls,tcp_bound_handler htcp⟩

theorem listens_tables {listening : Listening} (h : Listens outcomes tls tcp settings listening) :
    listening.tlsHttpRp.destinationProvider = tls.destinationProvider ∧
      ∀ p ∈ listening.tcpRp.listeners, p.2 ∈ tcp.destinationProvider ∧ p.1.localAddr.port = p.2.1 := by
  obtain ⟨htls,htcp⟩ := listens_handlers h
  refine ⟨congrArg TlsRpHandler.destinationProvider htls,fun r hr => ?_⟩
  rw [htcp] at hr
  exact mem_opened hr

end Both

end Binding

end RustyValve
