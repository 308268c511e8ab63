import RustyValve.Custody

namespace RustyValve

namespace System

section Moves
variable (listening : Listening) (acceptor : Acceptor)

-- The state in which a task of `get_backend_port` goes on after its peek.
def resumed (task available : ℕ) (t : Inspecting) (client : Client) (s : System) : System :=
  { s.peeked t.stream (client.received.take available) with
    inspecting := s.inspecting.eraseIdx task }

-- A peek that leads to no table entry: the record header rules out every name, or the name that
-- was found has no line.
def Nameless (found : List UInt8) : Inspection → Prop
  | .header =>
    peeksBody listening.tlsHttpRp.connectionSettings (peekBuffer 5 found) = false
  | .body recordHeader => ∀ name,
    nameFrom acceptor listening.tlsHttpRp.connectionSettings recordHeader (.arrived found) =
      some name → listening.tlsHttpRp.destinationProvider[name]? = none

inductive Moves (s : System) : Action → System → Prop where
  | acceptTls {listener : ℕ} (remote : SocketAddr)
      (hl : listener < listening.tlsHttpRp.listeners.length) :
      Moves s (.acceptTls listener remote)
        ((s.accept (.tls listener)).inspect ⟨s.accepted.length,remote,.header⟩)
  | acceptTcp {listener : ℕ} {tcpListener : TcpListener} {route : Route} (remote : SocketAddr)
      (hl : listening.tcpRp.listeners[listener]? = some (tcpListener,route))
      (hfree : some listener ∉ s.sending.map Sending.listener) :
      Moves s (.acceptTcp listener remote)
        ((s.accept (.tcp listener)).forwardConn listening.tcpRp.forwardSender (some listener)
          (.newTcpConn s.accepted.length remote listening.tcpRp.connectionSettings
            route.2.destination))
  | arrive (stream : StreamId) (bytes : List UInt8) :
      Moves s (.arrive stream bytes) (s.arrive stream bytes)
  | peekDrops {task available : ℕ} {t : Inspecting} {client : Client}
      (ht : s.inspecting[task]? = some t) (hc : s.accepted[t.stream]? = some client)
      (hn : Nameless listening acceptor (client.received.take available) t.stage) :
      Moves s (.peek task available) ((s.resumed task available t client).drop [t.stream])
  | peekGoesOn {task available : ℕ} {t : Inspecting} {client : Client} {recordHeader : List UInt8}
      (ht : s.inspecting[task]? = some t) (hc : s.accepted[t.stream]? = some client)
      (hs : t.stage = .header) (hr : recordHeader = peekBuffer 5 (client.received.take available))
      (hb : peeksBody listening.tlsHttpRp.connectionSettings recordHeader) :
      Moves s (.peek task available)
        ((s.resumed task available t client).inspect { t with stage := .body recordHeader })
  | peekForwards {task available : ℕ} {t : Inspecting} {client : Client}
      {recordHeader : List UInt8} {name : Str} {res : PossibleDestinations}
      (ht : s.inspecting[task]? = some t) (hc : s.accepted[t.stream]? = some client)
      (hs : t.stage = .body recordHeader)
      (hn : nameFrom acceptor listening.tlsHttpRp.connectionSettings recordHeader
        (.arrived (client.received.take available)) = some name)
      (hr : listening.tlsHttpRp.destinationProvider[name]? = some res) :
      Moves s (.peek task available)
        ((s.resumed task available t client).forwardConn listening.tlsHttpRp.forwardSender none
          (.newTcpConn t.stream t.remote listening.tlsHttpRp.connectionSettings.connectionSettings
            res.destination))
  | peekFails {task : ℕ} {t : Inspecting} (ht : s.inspecting[task]? = some t) :
      Moves s (.peekFails task)
        (System.drop [t.stream] { s with inspecting := s.inspecting.eraseIdx task })
  | sends {task : ℕ} {w : Sending} (hw : s.sending[task]? = some w) (ho : s.receiverOpen)
      (hn : s.queue.length < w.sender.capacity) :
      Moves s (.send task)
        { s with sending := s.sending.eraseIdx task,queue := s.queue ++ [w.conn] }
  | sendFails {task : ℕ} {w : Sending} (hw : s.sending[task]? = some w)
      (ho : s.receiverOpen = false) :
      Moves s (.send task)
        (System.drop w.conn.inner.streams { s with sending := s.sending.eraseIdx task })
  | receive {conn : ForwardedConnection} {queue : List ForwardedConnection}
      (hq : s.queue = conn :: queue) :
      Moves s .receive { s with queue,tasks := s.tasks ++ [.received conn] }
  | closeReceiver : Moves s .closeReceiver s.closeReceiver
  | start {task : ℕ} {conn : ForwardedConnection} {order : List (IpAddr × DestinationMachine)}
      (ht : s.tasks[task]? = some (.received conn))
      (ho : order.Perm (eligible conn.destination.providedIp s.machines)) :
      Moves s (.start task order) { s with tasks := s.tasks.eraseIdx task ++
        [.running conn.destination (dispatch (fun _ => order) conn s.machines)] }
  | proceed {task : ℕ} {destination : Destination} {point : Handling} (outcome : ConnectOutcome)
      (ht : s.tasks[task]? = some (.running destination point)) :
      Moves s (.proceed task outcome) { s with
        tasks := s.tasks.eraseIdx task ++ [.running destination (point.step (fun _ => outcome)).1]
        bridges := s.bridges ++ (point.step (fun _ => outcome)).2.toList
        machines := bridgeStarted s.machines (point.step (fun _ => outcome)).2 }
  | finish {task : ℕ} {destination : Destination} {attempt : Option (Except Error Unit)}
      {connInnerOpt : Option ConnectionInner}
      (ht : s.tasks[task]? = some (.running destination (.returned attempt connInnerOpt))) :
      Moves s (.finish task)
        (System.drop (connInnerOpt.toList.flatMap ConnectionInner.streams)
          { s with tasks := s.tasks.eraseIdx task })
  | bridgeEnds {bridge : ℕ} {b : Bridge} (hb : s.bridges[bridge]? = some b) :
      Moves s (.bridgeEnds bridge) { s with
        bridges := s.bridges.eraseIdx bridge
        closed := s.closed ++ [b]
        machines := s.machines.modify b.backend.ip DestinationMachine.trackerExit }

variable {listening acceptor} {s t : System}

theorem peek_moves {task available : ℕ} (h : s.peek listening acceptor task available = some t) :
    Moves listening acceptor s (.peek task available) t := by
  unfold peek at h
  cases ht : s.inspecting[task]? with
  | none => simp [ht] at h
  | some held =>
    cases hc : s.accepted[held.stream]? with
    | none => simp [ht,hc] at h
    | some client =>
      simp only [ht,hc,Option.some.injEq] at h
      subst h
      change Moves listening acceptor s _
        (inspected listening acceptor held _ (s.resumed task available held client))
      have drops (hn : Nameless listening acceptor (client.received.take available) held.stage) :
          Moves listening acceptor s (.peek task available)
            ((s.resumed task available held client).drop [held.stream]) := .peekDrops ht hc hn
      unfold inspected
      cases hs : held.stage with
      | header =>
        rw [hs] at drops
        simp only [peekTimeout]
        split
        · rename_i hb
          exact .peekGoesOn ht hc hs rfl hb
        · rename_i hb
          exact drops (Bool.eq_false_iff.mpr hb)
      | body recordHeader =>
        rw [hs] at drops
        simp only [connectionTo]
        split
        · rename_i hn
          exact drops (fun name hname => absurd (hn.symm.trans hname) nofun)
        · rename_i name hn
          cases hr : listening.tlsHttpRp.destinationProvider[name]? with
          | none =>
            refine drops (fun other hother => ?_)
            rw [← Option.some.inj (hn.symm.trans hother)]
            exact hr
          | some res => exact .peekForwards ht hc hs hn hr

theorem send_moves {task : ℕ} (h : s.send task = some t) : Moves listening acceptor s (.send task) t := by
  unfold send at h
  cases hw : s.sending[task]? with
  | none => simp [hw] at h
  | some w =>
    simp only [hw] at h
    split at h
    · rename_i ho
      simp only [Option.ite_none_right_eq_some,Option.some.injEq] at h
      obtain ⟨hn,rfl⟩ := h
      exact .sends hw ho hn
    · rename_i ho
      obtain rfl := Option.some.inj h
      exact .sendFails hw (Bool.eq_false_iff.mpr ho)

theorem step_moves {action : Action} (h : s.step listening acceptor action = some t) :
    Moves listening acceptor s action t := by
  cases action with
  | acceptTls listener remote =>
    simp only [step,acceptTls,Option.ite_none_right_eq_some,Option.some.injEq] at h
    obtain ⟨hl,rfl⟩ := h
    exact .acceptTls remote hl
  | acceptTcp listener remote =>
    simp only [step,acceptTcp] at h
    cases hl : listening.tcpRp.listeners[listener]? with
    | none => simp [hl] at h
    | some bound =>
      simp only [hl,listenTcp_eq,Option.ite_none_left_eq_some,Option.some.injEq] at h
      obtain ⟨hfree,rfl⟩ := h
      exact .acceptTcp remote hl hfree
  | arrive stream bytes =>
    obtain rfl := Option.some.inj h
    exact .arrive stream bytes
  | peek task available => exact peek_moves h
  | peekFails task =>
    simp only [step,peekFails] at h
    cases ht : s.inspecting[task]? with
    | none => simp [ht] at h
    | some held =>
      simp only [ht,Option.some.injEq] at h
      subst h
      exact .peekFails ht
  | send task => exact send_moves h
  | receive =>
    simp only [step,receive] at h
    split at h
    · cases h
    · rename_i hq
      obtain rfl := Option.some.inj h
      exact .receive hq
  | closeReceiver =>
    obtain rfl := Option.some.inj h
    exact .closeReceiver
  | start task order =>
    simp only [step,start] at h
    split at h
    · rename_i conn ht
      simp only [Option.ite_none_right_eq_some,Option.some.injEq] at h
      obtain ⟨ho,rfl⟩ := h
      exact .start ht ho
    · cases h
  | proceed task outcome =>
    simp only [step,proceed] at h
    split at h
    · rename_i destination point ht
      obtain rfl := Option.some.inj h
      exact .proceed outcome ht
    · cases h
  | finish task =>
    simp only [step,finish] at h
    split at h
    · rename_i destination attempt innerOpt ht
      obtain rfl := Option.some.inj h
      exact .finish ht
    · cases h
  | bridgeEnds bridge =>
    simp only [step,bridgeEnds] at h
    cases hb : s.bridges[bridge]? with
    | none => simp [hb] at h
    | some b =>
      simp only [hb,Option.some.injEq] at h
      subst h
      exact .bridgeEnds hb

end Moves

end System

end RustyValve
