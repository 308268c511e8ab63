import RustyValve.Moves

namespace RustyValve

namespace Custody

open Exchange (each Swaps)

section Trades
variable (listening : Listening) (s : System)

-- What gives up streams in a step, and what takes them over.
inductive Trades : Action → Multiset Holder → Multiset Holder → Prop where
  | acceptTls (listener : ℕ) (remote : SocketAddr) :
      Trades (.acceptTls listener remote) 0 {.inspecting ⟨s.accepted.length,remote,.header⟩}
  | acceptTcp (listener : ℕ) (remote : SocketAddr) (destination : Destination) :
      Trades (.acceptTcp listener remote) 0
        (forwarded listening.tcpRp.forwardSender (some listener) (.newTcpConn s.accepted.length remote
          listening.tcpRp.connectionSettings destination))
  | arrive (stream : StreamId) (bytes : List UInt8) : Trades (.arrive stream bytes) 0 0
  | peekDrops {t : Inspecting} (task available : ℕ) :
      Trades (.peek task available) {.inspecting t} (each .dropped [t.stream])
  | peekGoesOn {t : Inspecting} (task available : ℕ) (recordHeader : List UInt8)
      (hs : t.stage = .header) :
      Trades (.peek task available) {.inspecting t} {.inspecting { t with stage := .body recordHeader }}
  | peekForwards {t : Inspecting} {recordHeader : List UInt8} (task available : ℕ)
      {name : Str} {res : PossibleDestinations} (settings : ConnectionSettings)
      (hs : t.stage = .body recordHeader)
      (hr : listening.tlsHttpRp.destinationProvider[name]? = some res) :
      Trades (.peek task available) {.inspecting t}
        (forwarded listening.tlsHttpRp.forwardSender none
          (.newTcpConn t.stream t.remote settings res.destination))
  | peekFails (t : Inspecting) (task : ℕ) :
      Trades (.peekFails task) {.inspecting t} (each .dropped [t.stream])
  | sends (w : Sending) (task : ℕ) : Trades (.send task) {.sending w} {.queued w.conn}
  | sendFails (w : Sending) (task : ℕ) :
      Trades (.send task) {.sending w} (each .dropped w.conn.inner.streams)
  | receive (conn : ForwardedConnection) :
      Trades .receive {.queued conn} {.handling (.received conn)}
  | closeReceiver : Trades .closeReceiver (each .queued s.queue)
      (each .dropped (s.queue.flatMap (fun conn => conn.inner.streams)))
  | start {conn : ForwardedConnection} {order : List (IpAddr × DestinationMachine)} (task : ℕ)
      (ho : order.Perm (eligible conn.destination.providedIp s.machines)) :
      Trades (.start task order) {.handling (.received conn)} {.handling (.running conn.destination
        (dispatch (fun _ => order) conn s.machines))}
  | proceed (task : ℕ) (destination : Destination) (point : Handling) (outcome : ConnectOutcome)
      (ht : s.tasks[task]? = some (.running destination point)) :
      Trades (.proceed task outcome) {.handling (.running destination point)}
        ({.handling (.running destination (point.step (fun _ => outcome)).1)} +
          each .bridged (point.step (fun _ => outcome)).2.toList)
  | finish (task : ℕ) (destination : Destination) (attempt : Option (Except Error Unit))
      (connInnerOpt : Option ConnectionInner) :
      Trades (.finish task) {.handling (.running destination (.returned attempt connInnerOpt))}
        (each .dropped (connInnerOpt.toList.flatMap ConnectionInner.streams))
  | bridgeEnds (b : Bridge) (bridge : ℕ) : Trades (.bridgeEnds bridge) {.bridged b} {.closed b}

end Trades

variable {listening : Listening} {acceptor : Acceptor} {s t : System}

theorem swaps_new {u : System} {new : Multiset Holder} (hs : holders u = holders s)
    (ht : holders t = new + holders u) : Swaps (holders s) (holders t) 0 new :=
  ⟨holders s,(zero_add _).symm,hs ▸ ht⟩

theorem moves_trades {action : Action} (h : System.Moves listening acceptor s action t) :
    ∃ old new, Trades listening s action old new ∧ Swaps (holders s) (holders t) old new := by
  cases h with
  | acceptTls remote hl =>
    exact ⟨_,_,.acceptTls _ remote,@swaps_new s _ (s.accept _) _ rfl (holders_inspect _ _)⟩
  | acceptTcp remote hl hfree =>
    exact ⟨_,_,.acceptTcp _ remote _,
      @swaps_new s _ (s.accept _) _ rfl (holders_forwardConn _ _ _ _)⟩
  | arrive stream bytes =>
    exact ⟨0,0,.arrive stream bytes,holders s,(zero_add _).symm,(zero_add _).symm⟩
  | peekDrops ht hc hn =>
    exact ⟨_,_,.peekDrops _ _,_,takeOut_inspecting s ht,holders_drop _ _⟩
  | @peekGoesOn _ _ _ _ recordHeader ht hc hs hr hb =>
    exact ⟨_,_,.peekGoesOn _ _ recordHeader hs,_,takeOut_inspecting s ht,holders_inspect _ _⟩
  | peekForwards ht hc hs hn hr =>
    exact ⟨_,_,.peekForwards _ _ _ hs hr,_,takeOut_inspecting s ht,holders_forwardConn _ _ _ _⟩
  | peekFails ht => exact ⟨_,_,.peekFails _ _,_,takeOut_inspecting s ht,holders_drop _ _⟩
  | @sends task w hw ho hn =>
    exact ⟨_,_,.sends w _,_,takeOut_sending s hw,
      holders_enqueue { s with sending := s.sending.eraseIdx task } w.conn⟩
  | sendFails hw ho => exact ⟨_,_,.sendFails _ _,_,takeOut_sending s hw,holders_drop _ _⟩
  | @receive conn queue hq =>
    exact ⟨_,_,.receive conn,_,takeOut_queue s hq,holders_spawn { s with queue } (.received conn)⟩
  | closeReceiver => exact ⟨_,_,.closeReceiver,_,takeOut_queued s,holders_drop _ _⟩
  | @start task conn order ht ho =>
    exact ⟨_,_,.start _ ho,_,takeOut_task s ht,
      holders_spawn { s with tasks := s.tasks.eraseIdx task } _⟩
  | @proceed task destination point outcome ht =>
    exact ⟨_,_,.proceed _ _ _ outcome ht,_,takeOut_task s ht,
      holders_advance { s with tasks := s.tasks.eraseIdx task } _ _⟩
  | finish ht => exact ⟨_,_,.finish _ _ _ _,_,takeOut_task s ht,holders_drop _ _⟩
  | @bridgeEnds bridge b hb =>
    exact ⟨_,_,.bridgeEnds b _,_,takeOut_bridge s hb,
      holders_close { s with bridges := s.bridges.eraseIdx bridge } b⟩

end Custody

end RustyValve
