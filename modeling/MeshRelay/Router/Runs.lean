import MeshRelay.Router.Daemon

/-! Runs of the daemon's goroutines taken one at a time: what a sequence of steps of one
connection or one routing call does from a state in which each step can be taken. -/

namespace MeshRelay

namespace Daemon

variable {setting : Setting} {s : Daemon}

/-! ### Accepting and registering connections -/

/-- `Serve` accepts a connection while fewer than `MaxClients` clients are registered. -/
theorem accept_of_room (room : (s.clients.length : Int) < setting.cfg.maxClients) :
    s.accept setting = { s.setConn s.accepted { Connection.unaccepted with stage := .handshaking } with
      accepted := s.accepted + 1 } := by
  unfold accept
  exact if_neg (by omega)

/-- `count` accepts in a row while there is room: each starts a handshake on the next connection
and leaves the clients, the calls and the connections before it alone. -/
theorem run_accepts (room : (s.clients.length : Int) < setting.cfg.maxClients) (count : Nat) :
    ∃ next, run setting s (List.replicate count .accept) = some next ∧ next.clients = s.clients ∧
      next.calls = s.calls ∧ next.accepted = s.accepted + count ∧
      (∀ conn < s.accepted, next.conns conn = s.conns conn) ∧
      ∀ conn, s.accepted ≤ conn → conn < s.accepted + count → (next.conns conn).stage = .handshaking := by
  induction count generalizing s with
  | zero => exact ⟨s, rfl, rfl, rfl, rfl, fun _ _ => rfl, fun _ low high => absurd high (by omega)⟩
  | succ count ih =>
    -- One accept, then the others from the state it leaves.
    have fired := accept_of_room room
    obtain ⟨next, ran, clients, calls, accepted, old, new⟩ := @ih (s.accept setting)
      (by rw [fired]; exact room)
    rw [fired] at clients calls accepted old new
    dsimp only at accepted old new
    refine ⟨next, ran, clients, calls, by rw [accepted]; omega, fun conn lt => ?_,
      fun conn low high => ?_⟩
    · rw [old conn (Nat.lt_succ_of_lt lt)]
      exact setConn_of_ne _ _ lt.ne
    · rcases Nat.eq_or_lt_of_le low with rfl | later
      · rw [old _ (Nat.lt_succ_self _), setConn_self]
      · exact new conn later (by omega)

/-- `handleConn` registers a client whose handshake succeeds while no fan-out holds the read
lock. -/
theorem handshake_of_admitted {conn : ConnId} {generated : Except String Bytes} {input peerID : Bytes}
    (waiting : (s.conns conn).stage = .handshaking)
    (admitted : (performHandshake setting.sha setting.cfg setting.width generated input).result = .ok peerID)
    (quiet : s.reading = false) :
    s.handshake setting conn generated input =
      some { s.setConn conn { s.conns conn with stage := .registered } with
        clients := s.clients.insert conn } := by
  simp [handshake, waiting, admitted, quiet]

/-- Handshakes that all succeed, on distinct connections waiting in `PerformHandshake`, register
one more client each. -/
theorem run_handshakes {generated : Except String Bytes} {input peerID : Bytes}
    (admitted : (performHandshake setting.sha setting.cfg setting.width generated input).result = .ok peerID) :
    ∀ (conns : List ConnId) (s : Daemon), conns.Nodup → s.calls = 0 →
      (∀ conn ∈ conns, (s.conns conn).stage = .handshaking ∧ conn ∉ s.clients) →
      ∃ next, run setting s (conns.map fun conn => .handshake conn generated input) = some next ∧
        next.clients.length = s.clients.length + conns.length
  | [], s, _, _, _ => ⟨s, rfl, rfl⟩
  | conn :: rest, s, distinct, idle, waiting => by
    -- Register `conn`; the others still wait and are not clients.
    obtain ⟨stage, fresh⟩ := waiting conn (List.mem_cons_self _ _)
    have fired := handshake_of_admitted stage admitted (reading_of_idle idle)
    obtain ⟨notHere, restDistinct⟩ := List.nodup_cons.mp distinct
    obtain ⟨next, ran, length⟩ := run_handshakes admitted rest
      { s.setConn conn { s.conns conn with stage := .registered } with clients := s.clients.insert conn }
      restDistinct idle fun other member =>
        have ne := ne_of_mem_of_not_mem member notHere
        ⟨show ((s.setConn conn _).conns other).stage = _ by
            rw [setConn_of_ne _ _ ne]
            exact (waiting other (List.mem_cons_of_mem _ member)).1,
          fun registered => (List.mem_insert_iff.mp registered).elim ne
            (waiting other (List.mem_cons_of_mem _ member)).2⟩
    refine ⟨next, by rw [List.map_cons, run_cons, step, fired]; exact ran, ?_⟩
    rw [length]
    simp only [List.length_insert_of_not_mem fresh, List.length_cons]
    omega

/-! ### A client's own steps -/

/-- `AddClient`'s `GetAll` on a registered client. -/
theorem getAll_of_registered {conn : ConnId} (registered : (s.conns conn).stage = .registered) :
    s.getAll conn = some (s.setConn conn { s.conns conn with stage := .replaying s.buffer.getAll }) :=
  if_pos registered

/-- `WriteLoop` and `ReadLoop` start once the replay is done. -/
theorem startServing_of_replayed {conn : ConnId} (replayed : (s.conns conn).stage = .replaying []) :
    s.startServing conn = some (s.setConn conn { s.conns conn with stage := .serving }) :=
  if_pos replayed

/-- A serving client's `ReadLoop` returns and closes it. -/
theorem disconnect_of_serving {conn : ConnId} (serving : (s.conns conn).stage = .serving) :
    s.disconnect conn = some (s.setConn conn { s.conns conn with stage := .closing, closed := true }) :=
  if_pos serving

/-- A serving client's DATA packet within the limit starts a `RouteFromClient` call. -/
theorem clientData_of_serving {conn : ConnId} {data : Bytes} (serving : (s.conns conn).stage = .serving)
    (fits : (data.length : Int) ≤ setting.cfg.maxPacketSize) :
    s.clientData setting conn data = some (s.startRoute (Route.start (some conn) data)) :=
  if_pos ⟨serving, fits⟩

/-- `Serve` accepts the next connection and its handshake succeeds: one more client, registered
with nothing queued. -/
theorem run_connect {generated : Except String Bytes} {input peerID : Bytes}
    (admitted : (performHandshake setting.sha setting.cfg setting.width generated input).result = .ok peerID)
    (room : (s.clients.length : Int) < setting.cfg.maxClients) (quiet : s.reading = false) :
    run setting s [.accept, .handshake s.accepted generated input] = some { s with
      accepted := s.accepted + 1
      conns := Function.update s.conns s.accepted ⟨.registered, [], false, []⟩
      clients := s.clients.insert s.accepted } := by
  simp only [run_cons, run_nil, step, accept_of_room room, Option.some_bind]
  rw [handshake_of_admitted (by simp) admitted ?quiet]
  · simp [setConn, Connection.unaccepted]
  · exact quiet

/-- `AddClient` with an empty ring buffer, then `WriteLoop` and `ReadLoop` start. -/
theorem run_serve {conn : ConnId} (registered : (s.conns conn).stage = .registered)
    (empty : s.buffer.getAll = []) :
    run setting s [.getAll conn, .startServing conn] =
      some (s.setConn conn { s.conns conn with stage := .serving }) := by
  simp only [run_cons, run_nil, step, getAll_of_registered registered, Option.some_bind, empty]
  rw [startServing_of_replayed (by simp)]
  simp

/-- `AddClient`'s loop sends the buffered packets in turn. -/
theorem run_replays {conn : ConnId} : ∀ (pending : List Bytes) (s : Daemon),
    (s.conns conn).stage = .replaying pending →
    run setting s (List.replicate pending.length (.replay conn)) =
      some (s.setConn conn { (pending.map fun data => ⟨frameData, data⟩).foldl Connection.send (s.conns conn) with
        stage := .replaying [] })
  | [], s, replaying => by
    -- Nothing is left to send.
    rw [List.map_nil, List.foldl_nil, ← replaying, setConn_same]
    rfl
  | data :: rest, s, replaying => by
    -- Send the oldest packet, then the others.
    have fired : s.replay conn = some (s.setConn conn { (s.conns conn).send ⟨frameData, data⟩ with
        stage := .replaying rest }) := by
      simp only [replay, replaying]
    rw [List.length_cons, List.replicate_succ, run_cons, step, fired, Option.some_bind,
      run_replays rest _ (by rw [setConn_self]), setConn_self, setConn_setConn, List.map_cons,
      List.foldl_cons, Connection.foldl_send_with_stage]

/-- `handleConn` starts `WriteLoop` once `AddClient` has returned. -/
theorem run_startServing {conn : ConnId} (replayed : (s.conns conn).stage = .replaying []) :
    run setting s [.startServing conn] = some (s.setConn conn { s.conns conn with stage := .serving }) := by
  simp only [run_cons, run_nil, step, startServing_of_replayed replayed, Option.some_bind]

/-- `ReadLoop` returns and closes the client. -/
theorem run_disconnect {conn : ConnId} (serving : (s.conns conn).stage = .serving) :
    run setting s [.disconnect conn] =
      some (s.setConn conn { s.conns conn with stage := .closing, closed := true }) := by
  simp only [run_cons, run_nil, step, disconnect_of_serving serving, Option.some_bind]

/-- `AddClient`'s `buffer.GetAll()` and its loop over the snapshot. -/
theorem run_addClient_replay {conn : ConnId} (registered : (s.conns conn).stage = .registered) :
    run setting s (.getAll conn :: List.replicate s.buffer.getAll.length (.replay conn)) =
      some (s.setConn conn { (s.buffer.getAll.map fun data => ⟨frameData, data⟩).foldl Connection.send
        (s.conns conn) with stage := .replaying [] }) := by
  rw [run_cons, step, getAll_of_registered registered, Option.some_bind,
    run_replays _ _ (by rw [setConn_self]), setConn_setConn, setConn_self,
    Connection.foldl_send_with_stage]

/-- `WriteLoop` writes the queued frames in order. -/
theorem run_writes {conn : ConnId} : ∀ (frames : List Frame) (s : Daemon),
    (s.conns conn).stage = .serving → (s.conns conn).closed = false → (s.conns conn).queue = frames →
    run setting s (List.replicate frames.length (.write conn)) =
      some (s.setConn conn { s.conns conn with queue := [], written := (s.conns conn).written ++ frames })
  | [], s, _, _, queue => by
    -- Nothing is left to write.
    have same : { s.conns conn with queue := [], written := (s.conns conn).written ++ [] } = s.conns conn := by
      rw [List.append_nil, ← queue]
    rw [same, setConn_same]
    rfl
  | frame :: rest, s, serving, isOpen, queue => by
    -- Write the oldest frame, then the others.
    have fired : s.writeLoop conn true = some (s.setConn conn { s.conns conn with
        queue := rest, written := (s.conns conn).written ++ [frame] }) := by
      simp only [writeLoop, serving, isOpen, queue, if_true]
    rw [List.length_cons, List.replicate_succ, run_cons, step, fired, Option.some_bind,
      run_writes rest _ (by rw [setConn_self]; exact serving) (by rw [setConn_self]; exact isOpen)
        (by rw [setConn_self]), setConn_self, setConn_setConn]
    simp only [List.append_assoc, List.singleton_append]

/-! ### A routing call's own steps -/

section Call

variable {call : Nat} (lt : call < s.calls)
include lt

/-- `IsDuplicate` on the call's packet hash. -/
theorem advance_checking (checking : (s.routes call).stage = .checking) :
    s.advance setting call = some { s.setRoute call { s.routes call with
        stage := if (s.dedup.isDuplicate (packetHash setting.sha (s.routes call).data)).1 then .duplicate
          else .buffering } with
      dedup := (s.dedup.isDuplicate (packetHash setting.sha (s.routes call).data)).2
      resets := if s.dedup.clears (packetHash setting.sha (s.routes call).data) then s.resets + 1
        else s.resets } := by
  simp only [advance, if_neg (Nat.not_le.mpr lt), checking]

/-- `buffer.Add` of the packet. -/
theorem advance_buffering (buffering : (s.routes call).stage = .buffering) :
    s.advance setting call = some { s.setRoute call { s.routes call with stage := .locking } with
      buffer := s.buffer.add (s.routes call).data } := by
  simp only [advance, if_neg (Nat.not_le.mpr lt), buffering]

/-- `RLock`, with the clients in the order the loop visits them. -/
theorem readLock_of_locking (locking : (s.routes call).stage = .locking) {order : List ConnId}
    (perm : order.Perm s.clients) :
    s.readLock call order = some (s.setRoute call { s.routes call with stage := .fanningOut order }) :=
  if_pos ⟨lt, locking, perm⟩

/-- The fan-out loop skips the sender. -/
theorem advance_skip {conn : ConnId} {rest : List ConnId}
    (fanning : (s.routes call).stage = .fanningOut (conn :: rest)) (sender : (s.routes call).origin = some conn) :
    s.advance setting call = some (s.setRoute call { s.routes call with stage := .fanningOut rest }) := by
  simp only [advance, if_neg (Nat.not_le.mpr lt), fanning, sender, if_true]

/-- The fan-out loop sends the packet to a client other than the sender. -/
theorem advance_visit {conn : ConnId} {rest : List ConnId}
    (fanning : (s.routes call).stage = .fanningOut (conn :: rest)) (other : (s.routes call).origin ≠ some conn) :
    s.advance setting call = some ((s.setRoute call { s.routes call with
      stage := .fanningOut rest, sentTo := (s.routes call).sentTo ++ [conn] }).setConn conn
        ((s.conns conn).send ⟨frameData, (s.routes call).data⟩)) := by
  simp only [advance, if_neg (Nat.not_le.mpr lt), fanning, if_neg other]

/-- `RUnlock` after the loop: `RouteFromClient` goes on to `mesh.Send`, `RouteFromMesh`
returns. -/
theorem advance_unlock (fanned : (s.routes call).stage = .fanningOut []) :
    s.advance setting call = some (s.setRoute call { s.routes call with
      stage := if (s.routes call).origin.isSome then .meshSending else .done }) := by
  simp only [advance, if_neg (Nat.not_le.mpr lt), fanned]

/-- `mesh.Send`, when a link is set, and `RouteFromClient` returns. -/
theorem advance_meshSend (sending : (s.routes call).stage = .meshSending) :
    s.advance setting call = some (s.setRoute call { s.routes call with
      stage := .done, meshSent := s.mesh.isSome }) := by
  simp only [advance, if_neg (Nat.not_le.mpr lt), sending]

end Call

/-- The fan-out loop of a call holding the read lock, one pass per client: every client but the
sender is sent the packet, in the loop's order. -/
theorem run_fanOut {call : Nat} : ∀ (pending : List ConnId) (s : Daemon) (r : Route), call < s.calls →
    pending.Nodup → s.routes call = { r with stage := .fanningOut pending } →
    run setting s (List.replicate pending.length (.advance call)) =
      some { s with
        routes := Function.update s.routes call
          { r with stage := .fanningOut [], sentTo := r.sentTo ++ r.receivers pending }
        conns := fun conn => if conn ∈ r.receivers pending then (s.conns conn).send ⟨frameData, r.data⟩
          else s.conns conn }
  | [], s, r, _, _, route => by
    -- The loop is over: nothing changes.
    simp only [Route.receivers, List.filter_nil, List.append_nil, List.not_mem_nil, if_false]
    rw [← route, Function.update_eq_self]
    rfl
  | conn :: rest, s, r, lt, distinct, route => by
    obtain ⟨notLater, restDistinct⟩ := List.nodup_cons.mp distinct
    have fanning : (s.routes call).stage = .fanningOut (conn :: rest) := by rw [route]
    rw [List.length_cons, List.replicate_succ, run_cons, step]
    by_cases sender : r.origin = some conn
    · -- The sender is skipped.
      rw [advance_skip lt fanning (by rw [route]; exact sender), Option.some_bind,
        run_fanOut rest (s.setRoute call { s.routes call with stage := .fanningOut rest }) r lt restDistinct
          (by simp only [setRoute, Function.update_same, route])]
      have skipped : r.receivers (conn :: rest) = r.receivers rest := by
        simp [Route.receivers, sender]
      simp only [setRoute, Function.update_idem, skipped]
    · -- Any other client is sent the packet, once.
      rw [advance_visit lt fanning (by rw [route]; exact sender), Option.some_bind,
        run_fanOut rest ((s.setRoute call { s.routes call with
            stage := .fanningOut rest, sentTo := (s.routes call).sentTo ++ [conn] }).setConn conn
              ((s.conns conn).send ⟨frameData, (s.routes call).data⟩))
          { r with sentTo := r.sentTo ++ [conn] } lt restDistinct
          (by simp only [setConn, setRoute, Function.update_same, route])]
      have visited : r.receivers (conn :: rest) = conn :: r.receivers rest := by
        simp [Route.receivers, sender]
      have later : ∀ other ∈ r.receivers rest, other ≠ conn := fun other member same =>
        notLater (same ▸ (List.mem_filter.mp member).1)
      have data : (s.routes call).data = r.data := by rw [route]
      have sameReceivers : ({ r with sentTo := r.sentTo ++ [conn] } : Route).receivers rest =
          r.receivers rest := rfl
      simp only [setConn, setRoute, Function.update_idem, visited, sameReceivers, data, List.append_assoc,
        List.singleton_append]
      congr 2
      funext other
      by_cases here : other = conn
      · subst here
        rw [if_neg (fun member => later _ member rfl), if_pos (List.mem_cons_self _ _),
          Function.update_same]
      · simp [Function.update_noteq here, here]

/-- The steps of a routing call after it starts, one after another: `IsDuplicate`, `buffer.Add`,
`RLock`, one pass per client in `order`, and `RUnlock`. -/
def lockedSteps (call : Nat) (order : List ConnId) : List Action :=
  [.advance call, .advance call, .readLock call order] ++ List.replicate order.length (.advance call) ++
    [.advance call]

/-- A routing call of a packet not seen before, from its start to `RUnlock` with nothing
interleaved: it records the hash, buffers the packet and sends it to every client but its sender
in the order it visits them; a `RouteFromClient` call then waits to call `mesh.Send`, and a
`RouteFromMesh` call has returned. -/
theorem run_lockedSteps {call : Nat} {origin : Option ConnId} {data : Bytes} {order : List ConnId}
    (lt : call < s.calls) (started : s.routes call = Route.start origin data)
    (fresh : packetHash setting.sha data ∉ s.dedup.seen) (perm : order.Perm s.clients)
    (distinct : order.Nodup) :
    run setting s (lockedSteps call order) = some { s with
      routes := Function.update s.routes call ⟨origin, data,
        if origin.isSome then .meshSending else .done, (Route.start origin data).receivers order, false⟩
      buffer := s.buffer.add data
      dedup := (s.dedup.isDuplicate (packetHash setting.sha data)).2
      resets := if s.dedup.clears (packetHash setting.sha data) then s.resets + 1 else s.resets
      conns := fun conn => if conn ∈ (Route.start origin data).receivers order then
        (s.conns conn).send ⟨frameData, data⟩ else s.conns conn } := by
  have checked := (DedupFilter.isDuplicate_of_not_mem fresh).1
  -- The state once the call holds the read lock.
  let held : Daemon := { s with
    routes := Function.update s.routes call ⟨origin, data, .fanningOut order, [], false⟩
    buffer := s.buffer.add data
    dedup := (s.dedup.isDuplicate (packetHash setting.sha data)).2
    resets := if s.dedup.clears (packetHash setting.sha data) then s.resets + 1 else s.resets }
  -- `IsDuplicate`, `buffer.Add` and `RLock`.
  have locked : run setting s [.advance call, .advance call, .readLock call order] = some held := by
    simp only [run_cons, run_nil, step]
    rw [advance_checking lt (by simp [started, Route.start])]
    simp only [Option.some_bind]
    rw [advance_buffering (by exact lt) (by simp [setRoute, started, Route.start, checked])]
    simp only [Option.some_bind]
    rw [readLock_of_locking (by exact lt) (by simp [setRoute]) (by exact perm)]
    simp [held, setRoute, started, Route.start, checked]
  -- The fan-out loop.
  have fanned := @run_fanOut setting call order held ⟨origin, data, .locking, [], false⟩ lt distinct
    (Function.update_same _ _ _)
  -- `RUnlock`.
  rw [lockedSteps, run_append, run_append, locked, Option.some_bind, fanned, Option.some_bind]
  simp only [run_cons, run_nil, step]
  rw [advance_unlock (by exact lt) (by simp)]
  simp [setRoute, Route.start, Route.receivers]

/-- The steps of a `RouteFromClient(sender, data)` call, made as call `call`, one after another:
the read of the frame, `IsDuplicate`, `buffer.Add`, `RLock`, one pass per client in `order`,
`RUnlock` and `mesh.Send`. -/
def routeSteps (sender : ConnId) (data : Bytes) (call : Nat) (order : List ConnId) : List Action :=
  [.clientData sender data, .advance call, .advance call, .readLock call order] ++
    List.replicate order.length (.advance call) ++ [.advance call, .advance call]

/-- The state after a `RouteFromClient(sender, data)` call of a new packet that ran with nothing
interleaved, its fan-out visiting the clients in `order`. -/
def routedAlone (setting : Setting) (s : Daemon) (sender : ConnId) (data : Bytes) (order : List ConnId) :
    Daemon :=
  { s with
    calls := s.calls + 1
    routes := Function.update s.routes s.calls
      ⟨some sender, data, .done, (Route.start (some sender) data).receivers order, s.mesh.isSome⟩
    buffer := s.buffer.add data
    dedup := (s.dedup.isDuplicate (packetHash setting.sha data)).2
    resets := if s.dedup.clears (packetHash setting.sha data) then s.resets + 1 else s.resets
    conns := fun conn => if conn ∈ (Route.start (some sender) data).receivers order then
      (s.conns conn).send ⟨frameData, data⟩ else s.conns conn }

/-- A `RouteFromClient` call of a packet not seen before, with nothing interleaved: it records
the hash, buffers the packet, sends it to every client but the sender in the order it visits
them, and passes it to `mesh.Send`. -/
theorem run_routeFromClient {sender : ConnId} {data : Bytes} {order : List ConnId}
    (serving : (s.conns sender).stage = .serving) (fits : (data.length : Int) ≤ setting.cfg.maxPacketSize)
    (fresh : packetHash setting.sha data ∉ s.dedup.seen) (perm : order.Perm s.clients)
    (distinct : order.Nodup) :
    run setting s (routeSteps sender data s.calls order) = some (s.routedAlone setting sender data order) := by
  -- the read of the frame starts the call, which runs to `RUnlock` and then calls `mesh.Send`
  have split : routeSteps sender data s.calls order =
      .clientData sender data :: (lockedSteps s.calls order ++ [.advance s.calls]) := by
    simp [routeSteps, lockedSteps]
  rw [split, run_cons, step, clientData_of_serving serving fits, Option.some_bind, run_append,
    @run_lockedSteps setting _ s.calls (some sender) data order (Nat.lt_succ_self _)
      (by simp [startRoute]) (by exact fresh) (by exact perm) distinct,
    Option.some_bind]
  simp only [run_cons, run_nil, step]
  rw [advance_meshSend (Nat.lt_succ_self _) (by simp)]
  simp [routedAlone, setRoute, startRoute, Route.receivers, Route.start]

/-! ### A closed client writes nothing more -/

/-- The calls `RecvLoop` starts leave the connections alone. -/
theorem startRoutes_conns (payloads : List Bytes) : ∀ s : Daemon,
    (payloads.foldl (fun state data => state.startRoute (Route.start none data)) s).conns = s.conns ∧
    (payloads.foldl (fun state data => state.startRoute (Route.start none data)) s).accepted = s.accepted := by
  induction payloads with
  | nil => exact fun _ => ⟨rfl, rfl⟩
  | cons data rest ih => exact fun s => ih (s.startRoute (Route.start none data))

/-- What one step does to a connection it does not accept. -/
inductive ConnChange (before after : Connection) : Prop where
  /-- Its goroutines move on, or nothing happens to it. -/
  | stage (stage : ConnStage) (eq : after = { before with stage := stage })
  /-- `Send` is called on it. -/
  | send (frame : Frame) (stage : ConnStage) (eq : after = { before.send frame with stage := stage })
  /-- `WriteLoop` takes the oldest message of the open client and writes it. -/
  | write (frame : Frame) (rest : List Frame) (isOpen : before.closed = false)
      (queued : before.queue = frame :: rest)
      (eq : after = { before with queue := rest, written := before.written ++ [frame] })
  /-- `WriteLoop` takes the oldest message of the open client, the write fails, and it closes
  the client. -/
  | writeFail (frame : Frame) (rest : List Frame) (isOpen : before.closed = false)
      (queued : before.queue = frame :: rest) (eq : after = { before with queue := rest, closed := true })
  /-- `ReadLoop` returns and closes the client. -/
  | close (stage : ConnStage) (eq : after = { before with stage := stage, closed := true })

/-- A connection nothing happens to. -/
theorem ConnChange.rfl (conn : Connection) : ConnChange conn conn :=
  .stage conn.stage (Eq.refl _)

/-- `Send` on a connection, its goroutines staying where they are. -/
theorem ConnChange.sent (conn : Connection) (frame : Frame) : ConnChange conn (conn.send frame) :=
  .send frame (conn.send frame).stage (Eq.refl _)

/-- Replacing one connection changes no other. -/
theorem setConn_change {target : ConnId} {value : Connection}
    (change : ConnChange (s.conns target) value) (conn : ConnId) :
    ConnChange (s.conns conn) ((s.setConn target value).conns conn) := by
  by_cases same : conn = target
  · subst same
    rw [setConn_self]
    exact change
  · rw [setConn_of_ne _ _ same]
    exact .rfl _

/-- Every step keeps the connections `Serve` accepted, and changes each in one of the ways
`ConnChange` lists, except the one `Serve` accepts, which starts its handshake. -/
theorem step_conn {action : Action} {next : Daemon} (stepped : s.step setting action = some next) :
    s.accepted ≤ next.accepted ∧ ∀ conn, ConnChange (s.conns conn) (next.conns conn) ∨
      conn = s.accepted ∧ next.conns conn = { Connection.unaccepted with stage := .handshaking } := by
  -- A step that changes one connection changes it as its goroutine does.
  have staged : ∀ target stage conn,
      ConnChange (s.conns conn) ((s.setConn target { s.conns target with stage := stage }).conns conn) :=
    fun _ stage => setConn_change (.stage stage (Eq.refl _))
  cases action with
  | accept =>
    cases stepped
    unfold accept
    split
    · exact ⟨le_refl _, fun _ => .inl (.rfl _)⟩
    · refine ⟨Nat.le_succ _, fun conn => ?_⟩
      by_cases same : conn = s.accepted
      · exact .inr ⟨same, by subst same; exact setConn_self _ _ _⟩
      · refine .inl ?_
        show ConnChange (s.conns conn) ((s.setConn s.accepted _).conns conn)
        rw [setConn_of_ne _ _ same]
        exact .rfl _
  | handshake target generated input =>
    simp only [step, handshake] at stepped
    split at stepped
    · cases stepped
    · split at stepped
      · split at stepped
        · cases stepped
        · cases stepped
          exact ⟨le_refl _, fun conn => .inl (staged _ _ conn)⟩
      · cases stepped
        exact ⟨le_refl _, fun conn => .inl (staged _ _ conn)⟩
  | getAll target | startServing target | remove target =>
    simp only [step, getAll, startServing, remove] at stepped
    split_ifs at stepped
    cases stepped
    exact ⟨le_refl _, fun conn => .inl (staged _ _ conn)⟩
  | replay target =>
    simp only [step, replay] at stepped
    split at stepped
    · cases stepped
      exact ⟨le_refl _, fun conn => .inl (setConn_change (.send _ _ (Eq.refl _)) conn)⟩
    · cases stepped
  | write target =>
    simp only [step, writeLoop] at stepped
    split at stepped
    · rename_i isOpen queued
      rw [if_pos trivial] at stepped
      cases stepped
      exact ⟨le_refl _, fun conn => .inl (setConn_change (.write _ _ isOpen queued (Eq.refl _)) conn)⟩
    · cases stepped
  | writeFail target =>
    simp only [step, writeLoop] at stepped
    split at stepped
    · rename_i isOpen queued
      rw [if_neg Bool.false_ne_true] at stepped
      cases stepped
      exact ⟨le_refl _, fun conn => .inl (setConn_change (.writeFail _ _ isOpen queued (Eq.refl _)) conn)⟩
    · cases stepped
  | clientData target data | readLock target order =>
    simp only [step, clientData, readLock] at stepped
    split_ifs at stepped
    cases stepped
    exact ⟨le_refl _, fun _ => .inl (.rfl _)⟩
  | ping target =>
    simp only [step, ping] at stepped
    split_ifs at stepped
    cases stepped
    exact ⟨le_refl _, fun conn => .inl (setConn_change (.sent _ _) conn)⟩
  | disconnect target =>
    simp only [step, disconnect] at stepped
    split_ifs at stepped
    cases stepped
    exact ⟨le_refl _, fun conn => .inl (setConn_change (.close _ (Eq.refl _)) conn)⟩
  | meshDatagram datagram =>
    simp only [step, meshDatagram] at stepped
    split at stepped
    · cases stepped
    · cases stepped
      obtain ⟨conns, same⟩ := startRoutes_conns _ _
      rw [conns, same]
      exact ⟨le_refl _, fun _ => .inl (.rfl _)⟩
  | advance call =>
    simp only [step, advance] at stepped
    split at stepped
    · cases stepped
    split at stepped
    · generalize s.dedup.isDuplicate _ = outcome at stepped
      cases stepped
      exact ⟨le_refl _, fun _ => .inl (.rfl _)⟩
    · cases stepped
      exact ⟨le_refl _, fun _ => .inl (.rfl _)⟩
    · split at stepped
      · cases stepped
        exact ⟨le_refl _, fun _ => .inl (.rfl _)⟩
      · cases stepped
        exact ⟨le_refl _, fun conn => .inl (@setConn_change (s.setRoute _ _) _ _ (.sent _ _) conn)⟩
    all_goals cases stepped
    all_goals exact ⟨le_refl _, fun _ => .inl (.rfl _)⟩

/-- A closed connection that `Serve` accepted stays closed in every step, and `WriteLoop` writes
nothing more to it: `Send` ignores it and `WriteLoop` only takes from an open one. -/
theorem step_keeps_closed {action : Action} {next : Daemon} (stepped : s.step setting action = some next)
    {conn : ConnId} (accepted : conn < s.accepted) (closed : (s.conns conn).closed = true) :
    conn < next.accepted ∧ (next.conns conn).closed = true ∧
      (next.conns conn).written = (s.conns conn).written := by
  obtain ⟨grown, changes⟩ := step_conn stepped
  refine ⟨lt_of_lt_of_le accepted grown, ?_⟩
  rcases changes conn with change | ⟨fresh, -⟩
  · -- Only `WriteLoop` writes or takes, and only from an open connection.
    cases change with
    | stage stage eq =>
      rw [eq]
      exact ⟨closed, rfl⟩
    | send frame stage eq =>
      rw [eq]
      exact ⟨(Connection.send_closed _ _).trans closed, Connection.send_written _ _⟩
    | write _ _ isOpen _ _ | writeFail _ _ isOpen _ _ =>
      rw [closed] at isOpen
      cases isOpen
    | close stage eq =>
      rw [eq]
      exact ⟨rfl, rfl⟩
  · exact absurd fresh accepted.ne

/-- In every run, a closed accepted connection stays closed and is written nothing more. -/
theorem run_keeps_closed {conn : ConnId} : ∀ {actions : List Action} {s next : Daemon},
    run setting s actions = some next → conn < s.accepted → (s.conns conn).closed = true →
    (next.conns conn).closed = true ∧ (next.conns conn).written = (s.conns conn).written
  | [], _, _, ran, _, closed => by
    cases ran
    exact ⟨closed, rfl⟩
  | action :: rest, s, next, ran, accepted, closed => by
    obtain ⟨middle, stepped, continued⟩ := Option.bind_eq_some.mp ran
    obtain ⟨accepted', closed', written⟩ := step_keeps_closed stepped accepted closed
    rw [← written]
    exact run_keeps_closed continued accepted' closed'

end Daemon

end MeshRelay
