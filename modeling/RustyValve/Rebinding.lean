import RustyValve.Binding
import RustyValve.Library.Execution
import Mathlib.Data.Multiset.MapFold

namespace RustyValve

namespace Rebinding

open Binding Execution

inductive Action where
  | bind (settings : BindSettings)
  | unbind

-- The listeners, and how many binds the process has asked for.
structure State where
  inner : ListenerInner
  attempt : ℕ

section Runs
variable (outcomes : BindOutcomes)

def step (s : State) : Action → Option State
  | .bind settings =>
    (s.inner.bind outcomes settings s.attempt).toOption.map (fun p => ⟨p.1,p.2⟩)
  | .unbind => s.inner.unbind.toOption.map (fun inner => ⟨inner,s.attempt⟩)

def tlsBound (settings : BindSettings) (tls : TlsRpHandler) : BoundTlsRpHandler :=
  ⟨(tlsAddrs settings).map TcpListener.mk,tls.connectionSettings,tls.destinationProvider,
    tls.forwardSender⟩

def tcpBound (settings : BindSettings) (tcp : SimpleTcpHandler) : BoundSimpleTcpHandler :=
  ⟨opened settings.bindIpAddrs tcp.destinationProvider,tcp.connectionSettings,tcp.forwardSender⟩

def boundWith (settings : BindSettings) (listeners : UnboundListeners) : BoundListeners :=
  ⟨listeners.tlsSniHandler.map (tlsBound settings),
    listeners.simpleTcpHandler.map (tcpBound settings)⟩

def unboundFrom (listeners : BoundListeners) : UnboundListeners :=
  ⟨listeners.tlsSniHandler.map BoundTlsRpHandler.unbind,
    listeners.simpleTcpHandler.map BoundSimpleTcpHandler.unbind⟩

variable {outcomes} {settings : BindSettings} {attempt : ℕ}

theorem optional_bind {Handler Bound : Type} {bind : Handler → Binding Bound} (bound : Handler → Bound)
    (hbind : ∀ handler {attempt p}, bind handler attempt = .ok p → p.1 = bound handler)
    {handler : Option Handler} {p : Option Bound × ℕ}
    (h : handler.mapM bind attempt = .ok p) : p.1 = handler.map bound := by
  cases handler with
  | none =>
    obtain rfl := Except.ok.inj h
    rfl
  | some handler =>
    cases hb : bind handler attempt with
    | error e =>
      have hm := (map_of_error hb some).symm.trans h
      cases hm
    | ok q =>
      have hm := (map_of_ok hb some).symm.trans h
      obtain rfl := Except.ok.inj hm
      rw [hbind handler hb,Option.map_some]

theorem bind_ok {listeners : UnboundListeners} {p : ListenerInner × ℕ}
    (h : (ListenerInner.unbound listeners).bind outcomes settings attempt = .ok p) :
    p.1 = .bound (boundWith settings listeners) := by
  rw [ListenerInner.bind] at h
  cases htls : listeners.tlsSniHandler.mapM (fun tls => tls.bind outcomes settings) attempt with
  | error e => rw [bind_of_error htls] at h; cases h
  | ok q =>
    rw [bind_of_ok htls] at h
    cases htcp : listeners.simpleTcpHandler.mapM (fun tcp => tcp.bind outcomes settings) q.2 with
    | error e => rw [bind_of_error htcp] at h; cases h
    | ok r =>
      rw [bind_of_ok htcp,pure_run] at h
      obtain rfl := Except.ok.inj h
      rw [optional_bind (tlsBound settings) (fun _ _ _ hb => tls_bound_listeners hb) htls,
        optional_bind (tcpBound settings) (fun _ _ _ hb => tcp_bound_handler hb) htcp,
        boundWith]

theorem step_bind {s t : State} (h : step outcomes s (.bind settings) = some t) :
    ∃ listeners, s.inner = .unbound listeners ∧ t.inner = .bound (boundWith settings listeners) := by
  obtain ⟨inner,attempt⟩ := s
  cases inner with
  | bound listeners => cases h
  | unbound listeners =>
    simp only [step] at h
    cases hb : (ListenerInner.unbound listeners).bind outcomes settings attempt with
    | error e => rw [hb] at h; cases h
    | ok p =>
      rw [hb] at h
      obtain rfl := Option.some.inj h
      exact ⟨listeners,rfl,bind_ok hb⟩

theorem step_unbind {s t : State} (h : step outcomes s .unbind = some t) :
    ∃ listeners, s.inner = .bound listeners ∧ t.inner = .unbound (unboundFrom listeners) := by
  obtain ⟨inner,attempt⟩ := s
  cases inner with
  | unbound listeners => cases h
  | bound listeners =>
    obtain rfl := Option.some.inj h
    exact ⟨listeners,rfl,rfl⟩

end Runs

section Contents

structure Table (Entry : Type) where
  connectionSettings : ConnectionSettings
  entries : Multiset Entry
  forwardSender : ServiceForwardTable

-- What the listeners hold and what they have opened, whatever the order of the routes.
structure Held where
  tls : Option TlsRpHandler
  tcp : Option (Table Route)

structure Opened where
  tls : Option BoundTlsRpHandler
  tcp : Option (Table (TcpListener × Route))

def held (listeners : UnboundListeners) : Held :=
  ⟨listeners.tlsSniHandler,listeners.simpleTcpHandler.map
    (fun tcp => ⟨tcp.connectionSettings,tcp.destinationProvider,tcp.forwardSender⟩)⟩

def openedBy (listeners : BoundListeners) : Opened :=
  ⟨listeners.tlsSniHandler,listeners.simpleTcpHandler.map
    (fun tcp => ⟨tcp.connectionSettings,tcp.listeners,tcp.forwardSender⟩)⟩

def sockets (ipAddrs : List IpAddr) (routes : Multiset Route) : Multiset (TcpListener × Route) :=
  match ipAddrs with
  | [] => 0
  | ipAddr :: _ => routes.map (boundTo (SimpleTcpHandler.socketAddr ipAddr))

def opens (settings : BindSettings) (contents : Held) : Opened :=
  ⟨contents.tls.map (tlsBound settings),contents.tcp.map (fun tcp =>
    ⟨tcp.connectionSettings,sockets settings.bindIpAddrs tcp.entries,tcp.forwardSender⟩)⟩

theorem opened_sockets (ipAddrs : List IpAddr) (routes : List Route) :
    (opened ipAddrs routes : Multiset (TcpListener × Route)) = sockets ipAddrs routes := by
  cases ipAddrs with
  | nil => rfl
  | cons ipAddr rest =>
    simp only [opened,sockets,Multiset.map_coe]
    exact Multiset.coe_eq_coe.mpr ((List.reverse_perm routes).map _)

theorem sockets_routes {ipAddrs : List IpAddr} (h : ipAddrs ≠ []) (routes : Multiset Route) :
    (sockets ipAddrs routes).map Prod.snd = routes := by
  obtain ⟨ipAddr,rest,rfl⟩ := List.exists_cons_of_ne_nil h
  simp [sockets,boundTo,Function.comp_def]

theorem openedBy_boundWith (settings : BindSettings) (listeners : UnboundListeners) :
    openedBy (boundWith settings listeners) = opens settings (held listeners) := by
  obtain ⟨tls,tcp⟩ := listeners
  cases tcp with
  | none => rfl
  | some tcp => simp [openedBy,boundWith,opens,held,tcpBound,opened_sockets]

theorem held_unboundFrom_boundWith {settings : BindSettings} (h : settings.bindIpAddrs ≠ [])
    (listeners : UnboundListeners) :
    held (unboundFrom (boundWith settings listeners)) = held listeners := by
  obtain ⟨tls,tcp⟩ := listeners
  have htls : (tls.map (tlsBound settings)).map BoundTlsRpHandler.unbind = tls := by
    cases tls <;> rfl
  cases tcp with
  | none => simp [held,unboundFrom,boundWith,htls]
  | some tcp =>
    have hroutes : ((opened settings.bindIpAddrs tcp.destinationProvider).map Prod.snd :
        Multiset Route) = tcp.destinationProvider := by
      rw [← Multiset.map_coe,opened_sockets,sockets_routes h]
    simp [held,unboundFrom,boundWith,htls,tcpBound,BoundSimpleTcpHandler.unbind,hroutes]

end Contents

section Cycles
variable (outcomes : BindOutcomes)

def released : ListenerInner → UnboundListeners
  | .unbound listeners => listeners
  | .bound listeners => unboundFrom listeners

def OnAddresses (actions : List Action) : Prop :=
  ∀ settings, .bind settings ∈ actions → settings.bindIpAddrs ≠ []

variable {outcomes} {s t : State} {actions : List Action}

theorem step_keeps_held {a : Action} (ha : OnAddresses [a]) (h : step outcomes s a = some t) :
    held (released t.inner) = held (released s.inner) := by
  cases a with
  | bind settings =>
    obtain ⟨listeners,hs,ht⟩ := step_bind h
    rw [hs,ht]
    exact held_unboundFrom_boundWith (ha settings (by simp)) listeners
  | unbind =>
    obtain ⟨listeners,hs,ht⟩ := step_unbind h
    rw [hs,ht]
    rfl

theorem run_keeps_held (ha : OnAddresses actions) (h : run (step outcomes) s actions = some t) :
    held (released t.inner) = held (released s.inner) := by
  induction actions generalizing s with
  | nil =>
    obtain rfl := Option.some.inj h
    rfl
  | cons a actions ih =>
    simp only [run_cons,Option.bind_eq_some_iff] at h
    obtain ⟨u,hu,ht⟩ := h
    rw [ih (fun settings hm => ha settings (List.mem_cons_of_mem _ hm)) ht]
    refine step_keeps_held (fun settings hm => ha settings ?_) hu
    rw [List.mem_singleton.mp hm]
    exact List.mem_cons_self

theorem run_bind_opens {settings : BindSettings} {listeners : BoundListeners} {attempt : ℕ}
    (ha : OnAddresses actions)
    (h : run (step outcomes) s (actions ++ [.bind settings]) = some ⟨.bound listeners,attempt⟩) :
    openedBy listeners = opens settings (held (released s.inner)) := by
  simp only [run_append,Option.bind_eq_some_iff,run_cons,run_nil] at h
  obtain ⟨u,hu,v,hv,h⟩ := h
  obtain rfl := Option.some.inj h
  obtain ⟨unbound,hs,ht⟩ := step_bind hv
  have hl : listeners = boundWith settings unbound := ListenerInner.bound.inj ht
  have hk := run_keeps_held ha hu
  rw [hs] at hk
  rw [hl,openedBy_boundWith]
  exact congrArg (opens settings) hk

theorem OnAddresses.earlier {pre : List Action} (h : OnAddresses actions) (hp : pre <+: actions) :
    OnAddresses pre := fun settings hm => h settings (hp.subset hm)

variable (outcomes)

structure LosesNothing (listeners : UnboundListeners) (attempt : ℕ) (actions : List Action) : Prop where
  unbound : ∀ pre u n, pre <+: actions →
    run (step outcomes) ⟨.unbound listeners,attempt⟩ pre = some ⟨.unbound u,n⟩ →
    held u = held listeners
  bound : ∀ settings pre pre' b b' n n',
    pre ++ [.bind settings] <+: actions → pre' ++ [.bind settings] <+: actions →
    run (step outcomes) ⟨.unbound listeners,attempt⟩ (pre ++ [.bind settings]) = some ⟨.bound b,n⟩ →
    run (step outcomes) ⟨.unbound listeners,attempt⟩ (pre' ++ [.bind settings]) = some ⟨.bound b',n'⟩ →
    openedBy b = openedBy b'

theorem rebinding_loses_nothing (listeners : UnboundListeners) (attempt : ℕ)
    (ha : OnAddresses actions) : LosesNothing outcomes listeners attempt actions := by
  constructor
  case unbound =>
    intro pre u n hp h
    exact run_keeps_held (ha.earlier hp) h
  case bound =>
    intro settings pre pre' b b' n n' hp hp' h h'
    rw [run_bind_opens (ha.earlier ((List.prefix_append _ _).trans hp)) h,
      run_bind_opens (ha.earlier ((List.prefix_append _ _).trans hp')) h']

def loopback : BindSettings := ⟨[.v4 0x7F000001#32,.v4 0x7F000002#32],[4443]⟩

def portsOnly : UnboundListeners :=
  ⟨none,some { sshHandler with destinationProvider := [sshRoute,(2100,.withoutElse (.portOnly 465))] }⟩

def twice : List Action := [.bind loopback,.unbind,.bind loopback]

theorem ports_only_twice :
    (run (step (fun _ _ => none)) ⟨.unbound portsOnly,0⟩ twice).isSome ∧
      LosesNothing (fun _ _ => none) portsOnly 0 twice :=
  ⟨rfl,rebinding_loses_nothing _ _ _ (by simp [OnAddresses,twice,loopback])⟩

end Cycles

end Rebinding

end RustyValve
