import MeshRelay.Router.Store
import MeshRelay.Session.Handshake
import MeshRelay.Mesh.Link

/-! The relay daemon as a state machine over its goroutines: `Serve`, each connection's
`handleConn`, `WriteLoop` and `ReadLoop`, `RecvLoop`, and every `RouteFromClient` and
`RouteFromMesh` call, with each locked section one atomic step. -/

namespace MeshRelay

/-- A connection, named by the order in which `Serve` accepted it. -/
abbrev ConnId := Nat

/-! ### Connections -/

/-- Where a connection's goroutines are. -/
inductive ConnStage where
  /-- Not accepted yet. -/
  | unaccepted
  /-- `handleConn` is in `PerformHandshake`. -/
  | handshaking
  /-- The handshake failed and the connection was closed. -/
  | failed
  /-- `AddClient` has inserted the client, and not yet called `buffer.GetAll()`. -/
  | registered
  /-- `AddClient` is sending the buffered packets still `pending`. -/
  | replaying (pending : List Bytes)
  /-- `WriteLoop` has started and `ReadLoop` is reading. -/
  | serving
  /-- `ReadLoop` has returned and closed the client, before `RemoveClient`. -/
  | closing
  /-- `RemoveClient` is done. -/
  | gone
  deriving DecidableEq, Repr

/-- A connection's `Client`: where its goroutines are, the messages buffered in `writeCh`,
`closed`, and the frames `WriteLoop` has written to the connection. -/
structure Connection where
  stage : ConnStage
  queue : List Frame
  closed : Bool
  written : List Frame
  deriving DecidableEq, Repr

/-- A connection not accepted yet. -/
def Connection.unaccepted : Connection :=
  ⟨.unaccepted, [], false, []⟩

/-- The buffer of `writeCh`: `make(chan writeMsg, 64)`. -/
def writeChCapacity : Nat := 64

/-- `Client.Send(frameType, payload)`: nothing once closed; otherwise enqueue the frame, or drop
it when `writeCh` is full. -/
def Connection.send (conn : Connection) (frame : Frame) : Connection :=
  if conn.closed then conn
  else if conn.queue.length < writeChCapacity then { conn with queue := conn.queue ++ [frame] }
  else conn

namespace Connection

/-- `Send` leaves the client's stage. -/
@[simp] theorem send_stage (conn : Connection) (frame : Frame) : (conn.send frame).stage = conn.stage := by
  unfold send; split_ifs <;> rfl

/-- `Send` leaves `closed`. -/
@[simp] theorem send_closed (conn : Connection) (frame : Frame) : (conn.send frame).closed = conn.closed := by
  unfold send; split_ifs <;> rfl

/-- `Send` writes nothing to the connection. -/
@[simp] theorem send_written (conn : Connection) (frame : Frame) :
    (conn.send frame).written = conn.written := by
  unfold send; split_ifs <;> rfl

/-- `Send` ignores where the client's goroutines are. -/
theorem send_with_stage (conn : Connection) (stage : ConnStage) (frame : Frame) :
    { conn with stage := stage }.send frame = { conn.send frame with stage := stage } := by
  unfold send; split_ifs <;> rfl

/-- Sends in a row ignore where the client's goroutines are. -/
theorem foldl_send_with_stage (frames : List Frame) :
    ∀ (conn : Connection) (stage : ConnStage),
      frames.foldl send { conn with stage := stage } = { frames.foldl send conn with stage := stage } := by
  induction frames with
  | nil => intro _ _; rfl
  | cons frame rest ih => intro conn stage; rw [List.foldl_cons, send_with_stage, ih]; rfl

/-- Sends in a row leave `closed`. -/
@[simp] theorem foldl_send_closed (frames : List Frame) :
    ∀ conn : Connection, (frames.foldl send conn).closed = conn.closed := by
  induction frames with
  | nil => intro _; rfl
  | cons frame rest ih => intro conn; rw [List.foldl_cons, ih, send_closed]

/-- Sends in a row write nothing to the connection. -/
@[simp] theorem foldl_send_written (frames : List Frame) :
    ∀ conn : Connection, (frames.foldl send conn).written = conn.written := by
  induction frames with
  | nil => intro _; rfl
  | cons frame rest ih => intro conn; rw [List.foldl_cons, ih, send_written]

/-- Sends to an open client queue the frames that fit in `writeCh` and drop the rest. -/
theorem queue_foldl_send (frames : List Frame) :
    ∀ conn : Connection, conn.closed = false →
      (frames.foldl send conn).queue = conn.queue ++ frames.take (writeChCapacity - conn.queue.length) := by
  induction frames with
  | nil => intro conn _; simp
  | cons frame rest ih =>
    intro conn isOpen
    rw [List.foldl_cons, ih _ (by rw [send_closed]; exact isOpen)]
    unfold send
    rw [if_neg (by simp [isOpen])]
    split_ifs with room
    · -- The frame is queued.
      obtain ⟨free, eq⟩ : ∃ free, writeChCapacity - conn.queue.length = free + 1 :=
        ⟨_, (Nat.succ_pred_eq_of_pos (Nat.sub_pos_of_lt room)).symm⟩
      simp only [List.length_append, List.length_singleton, eq, List.take_succ_cons, List.append_assoc,
        List.singleton_append]
      congr 3
      omega
    · -- `writeCh` is full: this frame and every later one are dropped.
      rw [Nat.sub_eq_zero_of_le (Nat.le_of_not_lt room)]
      rfl

end Connection

/-! ### Routing calls -/

/-- Where a `RouteFromClient` or `RouteFromMesh` call is. -/
inductive RouteStage where
  /-- Before `IsDuplicate`. -/
  | checking
  /-- Returned on a hash already seen. -/
  | duplicate
  /-- Passed the dedup check, before `buffer.Add`. -/
  | buffering
  /-- Before `r.mu.RLock()`. -/
  | locking
  /-- Holding the read lock, with the clients of the fan-out loop still `pending`. -/
  | fanningOut (pending : List ConnId)
  /-- `RouteFromClient` after `RUnlock`, before `mesh.Send`. -/
  | meshSending
  /-- Returned. -/
  | done
  deriving DecidableEq, Repr

/-- Whether the call has passed the dedup check. -/
def RouteStage.passed : RouteStage → Bool
  | .checking | .duplicate => false
  | _ => true

/-- Whether the call has added its packet to the ring buffer. -/
def RouteStage.buffered : RouteStage → Bool
  | .checking | .duplicate | .buffering => false
  | _ => true

/-- The clients the fan-out loop has still to visit. -/
def RouteStage.pending : RouteStage → List ConnId
  | .fanningOut pending => pending
  | _ => []

/-- Whether the call holds the router's read lock. -/
def RouteStage.reading : RouteStage → Bool
  | .fanningOut _ => true
  | _ => false

/-- A call `RouteFromClient(sender, data)` (`origin = some sender`) or `RouteFromMesh(data)`
(`origin = none`), with what it has done: the clients its fan-out sent the packet to, in order,
and whether it passed the packet to `MeshLink.Send`. -/
structure Route where
  origin : Option ConnId
  data : Bytes
  stage : RouteStage
  sentTo : List ConnId
  meshSent : Bool
  deriving DecidableEq, Repr

/-- A call just made. -/
def Route.start (origin : Option ConnId) (data : Bytes) : Route :=
  ⟨origin, data, .checking, [], false⟩

/-- The clients of a fan-out loop over `pending` that the call sends to: all but its sender. -/
def Route.receivers (r : Route) (pending : List ConnId) : List ConnId :=
  pending.filter fun conn => r.origin != some conn

/-! ### The daemon -/

/-- What the daemon runs with: its configuration, SHA-256, Ed25519, and the width of Go's `int`.
`NewPacketBuffer` needs slots, and the daemon's `BufferSize` is 1000. -/
structure Setting where
  cfg : Config
  sha : Sha256
  ed : Ed25519
  width : IntWidth
  bufferSize_pos : 0 < cfg.bufferSize

/-- A setting for concrete instances of the general theorems: the default configuration on a
64-bit build, the stand-in Ed25519 and the given hash. -/
def Setting.standIn (sha : Sha256) : Setting :=
  ⟨defaultConfig, sha, Ed25519.acceptAll, .w64, by decide⟩

/-- The daemon's state: the connections accepted so far, `Router.clients`, the two stores, the
number of times the dedup map was cleared, every routing call made so far in call order, and
the mesh link `main` set up, if any. -/
structure Daemon where
  accepted : Nat
  conns : ConnId → Connection
  clients : List ConnId
  buffer : PacketBuffer
  dedup : DedupFilter
  resets : Nat
  calls : Nat
  routes : Nat → Route
  mesh : Option MeshLink

/-- One atomic step of some goroutine, or an event from the network that starts one. -/
inductive Action where
  /-- `Serve` accepts a connection. -/
  | accept
  /-- `PerformHandshake` on the bytes the client's writes deliver before the handshake deadline,
  with `GenerateChallenge`'s result. -/
  | handshake (conn : ConnId) (generated : Except String Bytes) (input : Bytes)
  /-- `AddClient` calls `buffer.GetAll()`. -/
  | getAll (conn : ConnId)
  /-- `AddClient` sends the next buffered packet. -/
  | replay (conn : ConnId)
  /-- `handleConn` starts `WriteLoop` and enters `ReadLoop`. -/
  | startServing (conn : ConnId)
  /-- `WriteLoop` receives a message and writes it. -/
  | write (conn : ConnId)
  /-- `WriteLoop` receives a message, the write fails, and it closes the client. -/
  | writeFail (conn : ConnId)
  /-- `ReadLoop` reads a DATA frame that both rate limiters allow, and calls `RouteFromClient`. -/
  | clientData (conn : ConnId) (data : Bytes)
  /-- `ReadLoop` reads a PING frame and sends PONG. -/
  | ping (conn : ConnId)
  /-- `ReadLoop`'s read fails: it returns and closes the client. -/
  | disconnect (conn : ConnId)
  /-- `ReadLoop`'s deferred `RemoveClient`. -/
  | remove (conn : ConnId)
  /-- `RecvLoop` reads a datagram. -/
  | meshDatagram (datagram : Bytes)
  /-- A routing call takes the read lock; Go visits the clients in any `order`. -/
  | readLock (call : Nat) (order : List ConnId)
  /-- A routing call runs its next locked section. -/
  | advance (call : Nat)

namespace Daemon

/-- The state `main` starts: nothing accepted or routed, empty stores. -/
def init (setting : Setting) (mesh : Option MeshLink) : Daemon where
  accepted := 0
  conns := fun _ => Connection.unaccepted
  clients := []
  buffer := PacketBuffer.new setting.cfg.bufferSize.toNat
    (by have := setting.bufferSize_pos; omega)
  dedup := DedupFilter.new setting.cfg.dedupMaxEntries
  resets := 0
  calls := 0
  routes := fun _ => Route.start none []
  mesh := mesh

/-- Whether some fan-out holds the router's read lock, so that `Lock` waits. -/
def reading (s : Daemon) : Bool :=
  (List.range s.calls).any fun i => (s.routes i).stage.reading

/-- The state with connection `conn` replaced. -/
def setConn (s : Daemon) (conn : ConnId) (value : Connection) : Daemon :=
  { s with conns := Function.update s.conns conn value }

/-- The state with routing call `call` replaced. -/
def setRoute (s : Daemon) (call : Nat) (route : Route) : Daemon :=
  { s with routes := Function.update s.routes call route }

/-- The state after a new routing call. -/
def startRoute (s : Daemon) (route : Route) : Daemon :=
  { s with routes := Function.update s.routes s.calls route, calls := s.calls + 1 }

/-- The replaced connection reads back. -/
@[simp] theorem setConn_self (s : Daemon) (conn : ConnId) (value : Connection) :
    (s.setConn conn value).conns conn = value :=
  Function.update_same _ _ _

/-- Replacing one connection leaves the others. -/
theorem setConn_of_ne (s : Daemon) {conn other : ConnId} (value : Connection) (ne : other ≠ conn) :
    (s.setConn conn value).conns other = s.conns other :=
  Function.update_noteq ne _ _

/-- A second replacement of a connection overrides the first. -/
@[simp] theorem setConn_setConn (s : Daemon) (conn : ConnId) (first second : Connection) :
    (s.setConn conn first).setConn conn second = s.setConn conn second := by
  simp [setConn]

/-- Replacing a connection by itself changes nothing. -/
theorem setConn_same (s : Daemon) (conn : ConnId) : s.setConn conn (s.conns conn) = s := by
  simp [setConn]

/-- Whether a fan-out holds the read lock depends only on the calls. -/
theorem reading_of_idle {s : Daemon} (idle : s.calls = 0) : s.reading = false := by
  simp [reading, idle]

/-- `Serve`: reject the connection when `ClientCount() >= MaxClients`, else start `handleConn`. -/
def accept (setting : Setting) (s : Daemon) : Daemon :=
  if (s.clients.length : Int) ≥ setting.cfg.maxClients then s
  else { s.setConn s.accepted { Connection.unaccepted with stage := .handshaking } with
    accepted := s.accepted + 1 }

/-- `handleConn`'s handshake: on success `NewClient` and `AddClient`'s insertion under the
write lock, which waits for the readers; on failure the connection is closed. -/
def handshake (setting : Setting) (s : Daemon) (conn : ConnId) (generated : Except String Bytes)
    (input : Bytes) : Option Daemon :=
  if (s.conns conn).stage ≠ .handshaking then none
  else
    match (performHandshake setting.sha setting.cfg setting.width generated input).result with
    | .ok _ =>
      if s.reading then none
      else some { s.setConn conn { s.conns conn with stage := .registered } with
        clients := s.clients.insert conn }
    | _ => some (s.setConn conn { s.conns conn with stage := .failed })

/-- `AddClient`'s `buffer.GetAll()`. -/
def getAll (s : Daemon) (conn : ConnId) : Option Daemon :=
  if (s.conns conn).stage = .registered then
    some (s.setConn conn { s.conns conn with stage := .replaying s.buffer.getAll })
  else none

/-- `AddClient`'s `c.SendData(pkt)` for the next buffered packet. -/
def replay (s : Daemon) (conn : ConnId) : Option Daemon :=
  match (s.conns conn).stage with
  | .replaying (data :: rest) =>
    some (s.setConn conn { (s.conns conn).send ⟨frameData, data⟩ with stage := .replaying rest })
  | _ => none

/-- `go client.WriteLoop()` once `AddClient` returns, then `ReadLoop`. -/
def startServing (s : Daemon) (conn : ConnId) : Option Daemon :=
  if (s.conns conn).stage = .replaying [] then
    some (s.setConn conn { s.conns conn with stage := .serving })
  else none

/-- `WriteLoop` receives the oldest message of an open client; the write succeeds, or fails and
closes the client. -/
def writeLoop (s : Daemon) (conn : ConnId) (succeeds : Bool) : Option Daemon :=
  let c := s.conns conn
  match c.stage, c.closed, c.queue with
  | .serving, false, frame :: rest =>
    if succeeds then some (s.setConn conn { c with queue := rest, written := c.written ++ [frame] })
    else some (s.setConn conn { c with queue := rest, closed := true })
  | _, _, _ => none

/-- `ReadLoop` hands a DATA payload that `ReadFrame` accepted to `RouteFromClient`. -/
def clientData (setting : Setting) (s : Daemon) (conn : ConnId) (data : Bytes) : Option Daemon :=
  if (s.conns conn).stage = .serving ∧ (data.length : Int) ≤ setting.cfg.maxPacketSize then
    some (s.startRoute (Route.start (some conn) data))
  else none

/-- `ReadLoop` answers PING with PONG. -/
def ping (s : Daemon) (conn : ConnId) : Option Daemon :=
  if (s.conns conn).stage = .serving then
    some (s.setConn conn ((s.conns conn).send ⟨framePong, []⟩))
  else none

/-- `ReadLoop` returns; its deferred `c.Close()`. -/
def disconnect (s : Daemon) (conn : ConnId) : Option Daemon :=
  if (s.conns conn).stage = .serving then
    some (s.setConn conn { s.conns conn with stage := .closing, closed := true })
  else none

/-- The deferred `router.RemoveClient(c)`, under the write lock. -/
def remove (s : Daemon) (conn : ConnId) : Option Daemon :=
  if (s.conns conn).stage = .closing ∧ !s.reading then
    some { s.setConn conn { s.conns conn with stage := .gone } with clients := s.clients.erase conn }
  else none

/-- `RecvLoop` reads a datagram and calls `RouteFromMesh` with what it delivers. -/
def meshDatagram (setting : Setting) (s : Daemon) (datagram : Bytes) : Option Daemon :=
  match s.mesh with
  | none => none
  | some link =>
    let pass := link.recvDatagram setting.ed (datagram.take link.bufferLen)
    some ((pass.1.filterMap MeshEvent.routed).foldl
      (fun state data => state.startRoute (Route.start none data)) { s with mesh := some pass.2 })

/-- A routing call takes the read lock and starts the fan-out loop over the clients, visited in
`order`. -/
def readLock (s : Daemon) (call : Nat) (order : List ConnId) : Option Daemon :=
  let r := s.routes call
  if call < s.calls ∧ r.stage = .locking ∧ order.Perm s.clients then
    some (s.setRoute call { r with stage := .fanningOut order })
  else none

/-- The next locked section of a routing call: `IsDuplicate`, `buffer.Add`, one pass of the
fan-out loop, `RUnlock`, or `mesh.Send`. -/
def advance (setting : Setting) (s : Daemon) (call : Nat) : Option Daemon :=
  let r := s.routes call
  if call ≥ s.calls then none
  else
    match r.stage with
    | .checking =>
      let hash := packetHash setting.sha r.data
      match s.dedup.isDuplicate hash with
      | (duplicate, dedup) =>
        some { s.setRoute call { r with stage := if duplicate then .duplicate else .buffering } with
          dedup := dedup, resets := if s.dedup.clears hash then s.resets + 1 else s.resets }
    | .buffering => some { s.setRoute call { r with stage := .locking } with
        buffer := s.buffer.add r.data }
    | .fanningOut (conn :: rest) =>
      if r.origin = some conn then some (s.setRoute call { r with stage := .fanningOut rest })
      else some ((s.setRoute call { r with stage := .fanningOut rest, sentTo := r.sentTo ++ [conn] }).setConn
        conn ((s.conns conn).send ⟨frameData, r.data⟩))
    | .fanningOut [] =>
      some (s.setRoute call { r with stage := if r.origin.isSome then .meshSending else .done })
    | .meshSending => some (s.setRoute call { r with stage := .done, meshSent := s.mesh.isSome })
    | _ => none

/-- One step of the daemon; `none` when the step cannot happen in this state. -/
def step (setting : Setting) (s : Daemon) : Action → Option Daemon
  | .accept => some (s.accept setting)
  | .handshake conn generated input => s.handshake setting conn generated input
  | .getAll conn => s.getAll conn
  | .replay conn => s.replay conn
  | .startServing conn => s.startServing conn
  | .write conn => s.writeLoop conn true
  | .writeFail conn => s.writeLoop conn false
  | .clientData conn data => s.clientData setting conn data
  | .ping conn => s.ping conn
  | .disconnect conn => s.disconnect conn
  | .remove conn => s.remove conn
  | .meshDatagram datagram => s.meshDatagram setting datagram
  | .readLock call order => s.readLock call order
  | .advance call => s.advance setting call

/-- The state after a sequence of steps, if each can happen. -/
def run (setting : Setting) : Daemon → List Action → Option Daemon
  | s, [] => some s
  | s, action :: rest => (s.step setting action).bind fun next => run setting next rest

/-- No step leaves the state as it is. -/
@[simp] theorem run_nil (setting : Setting) (s : Daemon) : run setting s [] = some s := rfl

/-- A run is its first step, then the rest from where it leaves the state. -/
@[simp] theorem run_cons (setting : Setting) (s : Daemon) (action : Action) (rest : List Action) :
    run setting s (action :: rest) = (s.step setting action).bind fun next => run setting next rest :=
  rfl

/-- A run in two parts. -/
theorem run_append (setting : Setting) (s : Daemon) (first second : List Action) :
    run setting s (first ++ second) = (run setting s first).bind fun middle => run setting middle second := by
  induction first generalizing s with
  | nil => rfl
  | cons action rest ih =>
    simp only [List.cons_append, run_cons, ih]
    cases s.step setting action <;> rfl

/-- A run followed by another. -/
theorem run_trans {setting : Setting} {s middle next : Daemon} {first second : List Action}
    (ran : run setting s first = some middle) (continued : run setting middle second = some next) :
    run setting s (first ++ second) = some next := by
  rw [run_append, ran]
  exact continued

/-- The states some run of the daemon reaches from its start. -/
def Reachable (setting : Setting) (mesh : Option MeshLink) (s : Daemon) : Prop :=
  ∃ actions, run setting (init setting mesh) actions = some s

/-- A state a run reaches from a reachable state is reachable. -/
theorem Reachable.run {setting : Setting} {mesh : Option MeshLink} {s next : Daemon}
    (reachable : s.Reachable setting mesh) {actions : List Action}
    (ran : Daemon.run setting s actions = some next) : next.Reachable setting mesh := by
  obtain ⟨before, start⟩ := reachable
  exact ⟨before ++ actions, by rw [run_append, start]; exact ran⟩

end Daemon

end MeshRelay
