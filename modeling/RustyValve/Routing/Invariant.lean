import RustyValve.Custody
import RustyValve.Routing.Served

namespace RustyValve

namespace Routing

open Custody

structure ListensTo (hosts : HostTable) (routes : List Route) (listening : Listening) : Prop where
  table : listening.tlsHttpRp.destinationProvider = hosts
  ports : ∀ p ∈ listening.tcpRp.listeners, p.2 ∈ routes ∧ p.1.localAddr.port = p.2.1

section Invariant
variable (hosts : HostTable) (routes : List Route) (listening : Listening) (acceptor : Acceptor)
  (machines : Machines)

def Chosen (accepted : List Client) (stream : StreamId) (destination : Destination) : Prop :=
  ∃ client, accepted[stream]? = some client ∧
    RouteOf hosts routes listening acceptor client destination

def Carries (accepted : List Client) (conn : ForwardedConnection) : Prop :=
  ∀ stream ∈ conn.inner.streams, Chosen hosts routes listening acceptor accepted stream conn.destination

def Peeked (client : Client) : Inspection → Prop
  | .header => client.peeks = []
  | .body recordHeader => ∃ headerPeek, client.peeks = [headerPeek] ∧ headerPeek <+: client.received ∧
      recordHeader = peekBuffer 5 headerPeek

def Inspected (accepted : List Client) (task : Inspecting) : Prop :=
  ∃ client, accepted[task.stream]? = some client ∧ Peeked client task.stage ∧
    ∃ listener < listening.tlsHttpRp.listeners.length, client.origin = .tls listener

def Bridged (accepted : List Client) (bridge : Bridge) : Prop :=
  ∃ destination, Chosen hosts routes listening acceptor accepted bridge.stream destination ∧
    Served machines destination bridge.backend

-- What whoever holds a stream knows about it.
def Fits (accepted : List Client) : Holder → Prop
  | .inspecting task => Inspected listening accepted task
  | .sending task => Carries hosts routes listening acceptor accepted task.conn
  | .queued conn => Carries hosts routes listening acceptor accepted conn
  | .handling (.received conn) => Carries hosts routes listening acceptor accepted conn
  | .handling (.running destination point) =>
    (∀ stream ∈ pointStreams point, Chosen hosts routes listening acceptor accepted stream destination) ∧
      ∀ a ∈ targets point, Served machines destination a
  | .bridged bridge => Bridged hosts routes listening acceptor machines accepted bridge
  | .closed bridge => Bridged hosts routes listening acceptor machines accepted bridge
  | .dropped _ => True

structure Inv (s : System) : Prop where
  owned : owned s = Multiset.range s.accepted.length
  configured : ∀ ip, ip ∈ s.machines ↔ ip ∈ machines
  fits : ∀ h ∈ holders s, Fits hosts routes listening acceptor machines s.accepted h

theorem inv_initial : Inv hosts routes listening acceptor machines (System.initial machines) where
  owned := rfl
  configured _ := Iff.rfl
  fits h hh := absurd hh (Multiset.notMem_zero h)

end Invariant

-- Bytes may arrive, and nothing else happens to the stream's entry.
def Keeps (before after : List Client) (stream : StreamId) : Prop :=
  ∀ client, before[stream]? = some client → ∃ bytes,
    after[stream]? = some { client with received := client.received ++ bytes }

section Keeps
variable {hosts : HostTable} {routes : List Route} {listening : Listening} {acceptor : Acceptor}
  {machines : Machines} {before after : List Client}

theorem keeps_refl (accepted : List Client) (stream : StreamId) : Keeps accepted accepted stream :=
  fun client hc => ⟨[],by simpa using hc⟩

theorem keeps_append (accepted : List Client) (client : Client) (stream : StreamId) :
    Keeps accepted (accepted ++ [client]) stream := by
  intro held hc
  have hl := (List.getElem?_eq_some_iff.mp hc).1
  exact ⟨[],by simpa [List.getElem?_append_left hl] using hc⟩

theorem routeOf_received {client : Client} {destination : Destination}
    (h : RouteOf hosts routes listening acceptor client destination) (bytes : List UInt8) :
    RouteOf hosts routes listening acceptor
      { client with received := client.received ++ bytes } destination := by
  cases h with
  | tls hlistener hheader hbody hname hres =>
    exact .tls hlistener (hheader.trans (List.prefix_append _ _))
      (hbody.trans (List.prefix_append _ _)) hname hres
  | tcp hlistener hroute hport => exact .tcp hlistener hroute hport

theorem chosen_keeps {stream : StreamId} (hk : Keeps before after stream) {destination : Destination}
    (h : Chosen hosts routes listening acceptor before stream destination) :
    Chosen hosts routes listening acceptor after stream destination := by
  obtain ⟨client,hc,hr⟩ := h
  obtain ⟨bytes,ha⟩ := hk client hc
  exact ⟨_,ha,routeOf_received hr bytes⟩

theorem inspected_keeps {task : Inspecting} (hk : Keeps before after task.stream)
    (h : Inspected listening before task) : Inspected listening after task := by
  obtain ⟨client,hc,hp,ho⟩ := h
  obtain ⟨bytes,ha⟩ := hk client hc
  refine ⟨_,ha,?_,ho⟩
  cases hs : task.stage with
  | header =>
    rw [hs] at hp
    exact hp
  | body recordHeader =>
    rw [hs] at hp
    obtain ⟨headerPeek,hpeeks,hpre,hr⟩ := hp
    exact ⟨headerPeek,hpeeks,hpre.trans (List.prefix_append _ _),hr⟩

theorem fits_keeps {h : Holder} (hk : ∀ stream ∈ streams h, Keeps before after stream)
    (hf : Fits hosts routes listening acceptor machines before h) :
    Fits hosts routes listening acceptor machines after h := by
  cases h with
  | inspecting task => exact inspected_keeps (hk _ (Multiset.mem_singleton_self _)) hf
  | sending task => exact fun stream hs => chosen_keeps (hk stream hs) (hf stream hs)
  | queued conn => exact fun stream hs => chosen_keeps (hk stream hs) (hf stream hs)
  | handling task =>
    cases task with
    | received conn => exact fun stream hs => chosen_keeps (hk stream hs) (hf stream hs)
    | running destination point =>
      exact ⟨fun stream hs => chosen_keeps (hk stream hs) (hf.1 stream hs),hf.2⟩
  | bridged bridge =>
    obtain ⟨destination,hc,hs⟩ := hf
    exact ⟨destination,chosen_keeps (hk _ (Multiset.mem_singleton_self _)) hc,hs⟩
  | closed bridge =>
    obtain ⟨destination,hc,hs⟩ := hf
    exact ⟨destination,chosen_keeps (hk _ (Multiset.mem_singleton_self _)) hc,hs⟩
  | dropped stream => trivial

-- One step: some holders give up their streams, others take them over, and a new one may come in.
theorem inv_of_swaps {s t : System} (old new : Multiset Holder) (created : Multiset StreamId)
    (hi : Inv hosts routes listening acceptor machines s)
    (hswap : Exchange.Swaps (holders s) (holders t) old new)
    (hnew : new.bind streams = old.bind streams + created)
    (hlen : Multiset.range t.accepted.length = Multiset.range s.accepted.length + created)
    (hkeeps : ∀ stream, stream ∉ old.bind streams → Keeps s.accepted t.accepted stream)
    (hmachines : ∀ ip, ip ∈ t.machines ↔ ip ∈ s.machines)
    (hfits : ∀ h ∈ new, Fits hosts routes listening acceptor machines t.accepted h) :
    Inv hosts routes listening acceptor machines t where
  owned := by rw [owned,Exchange.swaps_bind hswap streams hnew,hlen,← hi.owned,owned]
  configured ip := (hmachines ip).trans (hi.configured ip)
  fits := by
    have hn : ((holders s).bind streams).Nodup := by
      rw [← owned,hi.owned]
      exact Multiset.nodup_range _
    exact Exchange.swaps_forall hswap streams hn hi.fits
      (fun h hf ho => fits_keeps (fun stream hs => hkeeps stream (ho stream hs)) hf) hfits

end Keeps

end Routing

end RustyValve
