import MeshRelay.Router.Runs

/-! A client's write queue as Go runs it: `writeCh` is a channel that `close` shuts and on which a
send panics once shut, and `Client.Send` and `Client.Close` guard it with `mu` and `closed`. -/

namespace MeshRelay

/-! ### Go channels -/

/-- A buffered Go channel: the messages it holds, its capacity, whether it is closed, and how
many times `close` ran on it. -/
structure GoChannel (α : Type) where
  buffer : List α
  capacity : Nat
  isClosed : Bool
  closeCalls : Nat
  deriving DecidableEq, Repr

namespace GoChannel

variable {α : Type}

/-- `select { case ch <- msg: default: }`: a send on a closed channel panics; otherwise the message
is buffered, or `default` drops it when the buffer is full. -/
def trySend (ch : GoChannel α) (msg : α) : GoResult Empty (GoChannel α) :=
  if ch.isClosed then .panicked "send on closed channel"
  else if ch.buffer.length < ch.capacity then .ok { ch with buffer := ch.buffer ++ [msg] }
  else .ok ch

/-- `close(ch)`: closing a closed channel panics. -/
def close (ch : GoChannel α) : GoResult Empty (GoChannel α) :=
  if ch.isClosed then .panicked "close of closed channel"
  else .ok { ch with isClosed := true, closeCalls := ch.closeCalls + 1 }

/-- One iteration of `for msg := range ch`: the oldest message, or `none` once the channel is
closed and drained and the loop ends; on an open, empty channel the receive blocks. -/
def receive (ch : GoChannel α) : Option (Option α × GoChannel α) :=
  match ch.buffer with
  | msg :: rest => some (some msg, { ch with buffer := rest })
  | [] => if ch.isClosed then some (none, ch) else none

/-- A send on an open channel succeeds and leaves it open. -/
theorem trySend_of_open {ch : GoChannel α} (isOpen : ch.isClosed = false) (msg : α) :
    ∃ sent : GoChannel α, ch.trySend msg = .ok sent ∧ sent.isClosed = ch.isClosed ∧
      sent.closeCalls = ch.closeCalls := by
  unfold trySend
  rw [if_neg (by rw [isOpen]; exact Bool.false_ne_true)]
  split
  · exact ⟨_, rfl, rfl, rfl⟩
  · exact ⟨_, rfl, rfl, rfl⟩

/-- A receive moves only the buffer. -/
theorem receive_keeps {ch : GoChannel α} {received : Option α × GoChannel α}
    (got : ch.receive = some received) :
    received.2.isClosed = ch.isClosed ∧ received.2.closeCalls = ch.closeCalls := by
  unfold receive at got
  split at got
  · cases got
    exact ⟨rfl, rfl⟩
  · split at got
    · cases got
      exact ⟨rfl, rfl⟩
    · cases got

end GoChannel

/-! ### The client's queue -/

/-- The fields of `Client` that `Send`, `Close` and `WriteLoop` share: `closed` and `writeCh`. -/
structure ClientQueue where
  closed : Bool
  writeCh : GoChannel Frame
  deriving DecidableEq, Repr

/-- An operation of one of a client's goroutines on its queue, each atomic: `Send` (from a
fan-out, `AddClient`'s replay or the PONG reply), `Close` (from `ReadLoop`'s deferred cleanup or
from `WriteLoop` after a failed write), or one receive of `WriteLoop`'s `range`. -/
inductive QueueOp where
  | send (frame : Frame)
  | close
  | receive
  deriving DecidableEq, Repr

namespace ClientQueue

/-- `NewClient`: not closed, with `make(chan writeMsg, 64)`. -/
def new : ClientQueue :=
  ⟨false, ⟨[], writeChCapacity, false, 0⟩⟩

/-- `Client.Send(frameType, payload)` holding `mu`: nothing once `closed`, else the `select`. -/
def send (q : ClientQueue) (frame : Frame) : GoResult Empty ClientQueue :=
  if q.closed then .ok q
  else match q.writeCh.trySend frame with
    | .ok ch => .ok { q with writeCh := ch }
    | .error impossible => impossible.elim
    | .panicked reason => .panicked reason

/-- `Client.Close()` holding `mu`: nothing once `closed`, else set `closed` and `close(writeCh)`. -/
def close (q : ClientQueue) : GoResult Empty ClientQueue :=
  if q.closed then .ok q
  else match q.writeCh.close with
    | .ok ch => .ok ⟨true, ch⟩
    | .error impossible => impossible.elim
    | .panicked reason => .panicked reason

/-- One operation; `none` when it cannot happen, as a receive that blocks. -/
def step (q : ClientQueue) : QueueOp → Option (GoResult Empty ClientQueue)
  | .send frame => some (q.send frame)
  | .close => some q.close
  | .receive => q.writeCh.receive.map fun received => .ok { q with writeCh := received.2 }

/-- The operations in order, ending at the first panic; `none` if one cannot happen. -/
def run (q : ClientQueue) : List QueueOp → Option (GoResult Empty ClientQueue)
  | [] => some (.ok q)
  | op :: rest =>
    match q.step op with
    | some (.ok next) => next.run rest
    | other => other

/-- A run is its first operation, then the rest from the queue it leaves, unless it panicked or
could not happen. -/
theorem run_cons (q : ClientQueue) (op : QueueOp) (rest : List QueueOp) :
    q.run (op :: rest) = match q.step op with
      | some (.ok next) => next.run rest
      | other => other :=
  rfl

/-- A run in two parts. -/
theorem run_append {q middle : ClientQueue} {first : List QueueOp} (ran : q.run first = some (.ok middle))
    (second : List QueueOp) : q.run (first ++ second) = middle.run second := by
  induction first generalizing q with
  | nil => cases ran; rfl
  | cons op rest ih =>
    rw [List.cons_append, run_cons]
    rw [run_cons] at ran
    -- The first operation went through, or the run would have stopped there.
    rcases stepped : q.step op with _ | ⟨next⟩ | ⟨impossible⟩ | ⟨reason⟩
    · rw [stepped] at ran; cases ran
    · rw [stepped] at ran; exact ih ran
    · exact impossible.elim
    · rw [stepped] at ran; cases ran

/-- What `mu` and the `closed` flag keep: `writeCh` is closed exactly when `closed` is set, and
`close` ran on it once if so and never otherwise. -/
structure Consistent (q : ClientQueue) : Prop where
  isClosed_eq : q.writeCh.isClosed = q.closed
  closeCalls_eq : q.writeCh.closeCalls = if q.closed then 1 else 0

/-- A new queue is consistent. -/
theorem new_consistent : new.Consistent :=
  ⟨rfl, rfl⟩

/-- From a consistent queue no operation panics, and each keeps it consistent: `Send` sees
`closed` before it touches `writeCh`, and `Close` closes `writeCh` only when it sets `closed`. -/
theorem Consistent.step {q : ClientQueue} (consistent : q.Consistent) {op : QueueOp}
    {result : GoResult Empty ClientQueue} (stepped : q.step op = some result) :
    ∃ next, result = .ok next ∧ next.Consistent := by
  obtain ⟨isClosed_eq, closeCalls_eq⟩ := consistent
  cases op with
  | send frame =>
    cases stepped
    unfold send
    by_cases closed : q.closed
    · exact ⟨q, by rw [if_pos closed], isClosed_eq, closeCalls_eq⟩
    · have isOpen : q.writeCh.isClosed = false := by rw [isClosed_eq]; simpa using closed
      obtain ⟨sent, trySent, sameClosed, sameCalls⟩ := GoChannel.trySend_of_open isOpen frame
      rw [if_neg closed, trySent]
      exact ⟨_, rfl, sameClosed.trans isClosed_eq, sameCalls.trans closeCalls_eq⟩
  | close =>
    cases stepped
    unfold close
    by_cases closed : q.closed
    · exact ⟨q, by rw [if_pos closed], isClosed_eq, closeCalls_eq⟩
    · have isOpen : q.writeCh.isClosed = false := by rw [isClosed_eq]; simpa using closed
      rw [if_neg closed, GoChannel.close, if_neg (by rw [isOpen]; exact Bool.false_ne_true)]
      exact ⟨_, rfl, rfl, by simp [closeCalls_eq, closed]⟩
  | receive =>
    obtain ⟨received, got, rfl⟩ := Option.map_eq_some'.mp stepped
    obtain ⟨sameClosed, sameCalls⟩ := GoChannel.receive_keeps got
    exact ⟨_, rfl, sameClosed.trans isClosed_eq, sameCalls.trans closeCalls_eq⟩

/-- Every run from a consistent queue ends without a panic, in a consistent queue. -/
theorem Consistent.run : ∀ {q : ClientQueue} (ops : List QueueOp) {result : GoResult Empty ClientQueue},
    q.Consistent → q.run ops = some result → ∃ next, result = .ok next ∧ next.Consistent
  | q, [], _, consistent, ran => by cases ran; exact ⟨q, rfl, consistent⟩
  | q, op :: rest, result, consistent, ran => by
    rw [run_cons] at ran
    rcases stepped : q.step op with _ | result'
    · rw [stepped] at ran; cases ran
    · obtain ⟨next, rfl, next'⟩ := consistent.step stepped
      rw [stepped] at ran
      exact Consistent.run rest next' ran

end ClientQueue

/-! ### The daemon's clients -/

/-- The queue of a daemon connection's client: its `closed` flag, and `writeCh` holding the queued
frames, closed exactly when the client is. -/
def Connection.queueState (conn : Connection) : ClientQueue :=
  ⟨conn.closed, ⟨conn.queue, writeChCapacity, conn.closed, if conn.closed then 1 else 0⟩⟩

/-- `Connection.send` is `Client.Send` on the connection's queue. -/
theorem Connection.queueState_send (conn : Connection) (frame : Frame) :
    conn.queueState.run [.send frame] = some (.ok (conn.send frame).queueState) := by
  by_cases closed : conn.closed
  · simp [ClientQueue.run, ClientQueue.step, ClientQueue.send, queueState, Connection.send, closed]
  · by_cases room : conn.queue.length < writeChCapacity
    · simp [ClientQueue.run, ClientQueue.step, ClientQueue.send, GoChannel.trySend, queueState,
        Connection.send, closed, room]
    · simp [ClientQueue.run, ClientQueue.step, ClientQueue.send, GoChannel.trySend, queueState,
        Connection.send, closed, room]

/-- Each way a daemon step changes a connection is an interleaving of its client's operations:
none for a change of stage, `Send`, `WriteLoop`'s receive alone or followed by its `Close`, or
`ReadLoop`'s `Close`. -/
theorem Daemon.ConnChange.queueState {before after : Connection} (change : Daemon.ConnChange before after) :
    ∃ ops, before.queueState.run ops = some (.ok after.queueState) := by
  cases change with
  | stage stage eq => exact ⟨[], by rw [eq]; rfl⟩
  | send frame stage eq => exact ⟨[.send frame], by rw [eq]; exact before.queueState_send frame⟩
  | write frame rest isOpen queued eq =>
    refine ⟨[.receive], ?_⟩
    rw [eq]
    simp [ClientQueue.run, ClientQueue.step, GoChannel.receive, Connection.queueState, queued, isOpen]
  | writeFail frame rest isOpen queued eq =>
    refine ⟨[.receive, .close], ?_⟩
    rw [eq]
    simp [ClientQueue.run, ClientQueue.step, ClientQueue.close, GoChannel.receive, GoChannel.close,
      Connection.queueState, queued, isOpen]
  | close stage eq =>
    refine ⟨[.close], ?_⟩
    rw [eq]
    by_cases closed : before.closed
    · simp [ClientQueue.run, ClientQueue.step, ClientQueue.close, Connection.queueState, closed]
    · simp [ClientQueue.run, ClientQueue.step, ClientQueue.close, GoChannel.close, Connection.queueState,
        closed]

/-- A queue some interleaving reaches from `NewClient`. -/
def ClientQueue.Reached (q : ClientQueue) : Prop :=
  ∃ ops, ClientQueue.new.run ops = some (.ok q)

/-- Every step of the daemon keeps each connection's queue one its client's operations reach. -/
theorem Daemon.step_queueState {setting : Setting} {s next : Daemon} {action : Action}
    (stepped : s.step setting action = some next)
    (reached : ∀ conn, (s.conns conn).queueState.Reached) (conn : ConnId) :
    (next.conns conn).queueState.Reached := by
  rcases (Daemon.step_conn stepped).2 conn with change | ⟨-, accepted⟩
  · obtain ⟨before, ran⟩ := reached conn
    obtain ⟨more, continued⟩ := change.queueState
    exact ⟨before ++ more, by rw [ClientQueue.run_append ran, continued]⟩
  · exact ⟨[], by rw [accepted]; rfl⟩

/-- Every run of the daemon keeps each connection's queue one its client's operations reach. -/
theorem Daemon.run_queueState {setting : Setting} : ∀ {actions : List Action} {s next : Daemon},
    Daemon.run setting s actions = some next → (∀ conn, (s.conns conn).queueState.Reached) →
      ∀ conn, (next.conns conn).queueState.Reached
  | [], _, _, ran, reached => by cases ran; exact reached
  | _ :: _, _, _, ran, reached => by
    obtain ⟨middle, stepped, continued⟩ := Option.bind_eq_some.mp ran
    exact Daemon.run_queueState continued (Daemon.step_queueState stepped reached)

/-- A client's `writeCh` is never sent to after it is closed and never closed twice. In every
interleaving of `Send`, `Close` and `WriteLoop`'s receives from `NewClient`, each a locked section
or a channel operation, no operation panics (a send on a closed channel and a second `close` both
would), `writeCh` is closed exactly when `closed` is set, and `close(writeCh)` has run at most
once. The daemon's own steps are such interleavings: in every reachable state, each connection's
queue is one they reach. -/
theorem writeCh_never_misused :
    (∀ (ops : List QueueOp) (result : GoResult Empty ClientQueue), ClientQueue.new.run ops = some result →
      ∃ q, result = .ok q ∧ q.writeCh.isClosed = q.closed ∧ q.writeCh.closeCalls ≤ 1) ∧
    ∀ (setting : Setting) (mesh : Option MeshLink) (s : Daemon), s.Reachable setting mesh →
      ∀ conn, ∃ ops, ClientQueue.new.run ops = some (.ok (s.conns conn).queueState) := by
  refine ⟨fun ops result ran => ?_, fun setting mesh s ⟨actions, ran⟩ =>
    Daemon.run_queueState ran fun _ => ⟨[], rfl⟩⟩
  -- The invariant holds at `NewClient` and every operation keeps it.
  obtain ⟨q, rfl, isClosed_eq, closeCalls_eq⟩ := ClientQueue.new_consistent.run ops ran
  refine ⟨q, rfl, isClosed_eq, ?_⟩
  rw [closeCalls_eq]
  split <;> omega

end MeshRelay
