import MeshRelay.Router.Runs

/-! Where the frames the relay sends a client come from: in every run, each frame in a client's
`writeCh` or already written is PONG, or the packet of a routing call from another sender that
passed the dedup check and reached `buffer.Add`. -/

namespace MeshRelay

/-! ### The ring buffer returns only what was added -/

namespace PacketBuffer

/-- A slot read as `packets[i]` with nil past the end holds one of the slots' values. -/
private theorem mem_of_getD {slots : List (Option Bytes)} {i : Nat} {data : Bytes}
    (slot : slots.getD i none = some data) : some data ∈ slots := by
  rw [List.getD_eq_getElem?_getD] at slot
  rcases stored : slots[i]? with _ | value
  · rw [stored] at slot
    cases slot
  · rw [stored, Option.getD_some] at slot
    exact List.getElem?_mem (slot ▸ stored)

/-- `GetAll` returns only packets that sit in some slot. -/
theorem mem_getAll {pb : PacketBuffer} {data : Bytes} (member : data ∈ pb.getAll) :
    some data ∈ pb.packets := by
  obtain ⟨_, -, slot⟩ := List.mem_filterMap.mp member
  exact mem_of_getD slot

/-- After `Add(data)` a slot holds `data` or what it held before. -/
theorem mem_add {pb : PacketBuffer} {data stored : Bytes} (member : some stored ∈ (pb.add data).packets) :
    some stored ∈ pb.packets ∨ stored = data :=
  (List.mem_or_eq_of_mem_set member).imp_right Option.some.inj

end PacketBuffer

/-! ### Connections -/

/-- Whether `ReadLoop` has started on the connection, so that it may have routed packets. -/
def ConnStage.served : ConnStage → Bool
  | .serving | .closing | .gone => true
  | _ => false

namespace Connection

/-- The frames queued for a connection or written to it. -/
def frames (conn : Connection) : List Frame :=
  conn.queue ++ conn.written

/-- `Send` adds at most the frame it is given. -/
theorem mem_frames_send {conn : Connection} {frame other : Frame} (member : other ∈ (conn.send frame).frames) :
    other ∈ conn.frames ∨ other = frame := by
  unfold send at member
  split_ifs at member
  · exact .inl member
  · simp only [frames, List.mem_append, List.mem_singleton] at member ⊢
    tauto
  · exact .inl member

end Connection

namespace Daemon

variable {setting : Setting} {s next : Daemon}

/-! ### The invariant -/

/-- Routing call `i` of `s` is one `conn` did not make, and it has passed the packet `data` to
`buffer.Add`. -/
def Sourced (s : Daemon) (conn : ConnId) (data : Bytes) : Prop :=
  ∃ i < s.calls, (s.routes i).data = data ∧ (s.routes i).stage.buffered = true ∧
    (s.routes i).origin ≠ some conn

/-- A frame the relay may send `conn`: PONG, or DATA with a packet sourced for it. -/
def SentFrame (s : Daemon) (conn : ConnId) (frame : Frame) : Prop :=
  frame = ⟨framePong, []⟩ ∨ ∃ data, frame = ⟨frameData, data⟩ ∧ s.Sourced conn data

/-- What a reachable state keeps about the frames it sends: every frame queued for or written to
a connection is one sent for it, so are the packets `AddClient` has still to replay, the ring
buffer holds only packets of calls that stored them, a connection makes calls only once its
`ReadLoop` runs, and no connection past the last accepted one has started. -/
structure Provenance (s : Daemon) : Prop where
  frames : ∀ conn, ∀ frame ∈ (s.conns conn).frames, s.SentFrame conn frame
  pending : ∀ conn pending, (s.conns conn).stage = .replaying pending → ∀ data ∈ pending, s.Sourced conn data
  buffer : ∀ data, some data ∈ s.buffer.packets →
    ∃ i < s.calls, (s.routes i).data = data ∧ (s.routes i).stage.buffered = true
  origins : ∀ i < s.calls, ∀ conn, (s.routes i).origin = some conn → (s.conns conn).stage.served = true
  fresh : ∀ conn, s.accepted ≤ conn → (s.conns conn).stage = .unaccepted

/-- `next` keeps every routing call of `s` with its packet and sender, and a call that stored its
packet stays past `buffer.Add`. -/
def RoutesGrow (s next : Daemon) : Prop :=
  s.calls ≤ next.calls ∧ ∀ i < s.calls, (next.routes i).data = (s.routes i).data ∧
    (next.routes i).origin = (s.routes i).origin ∧
    ((s.routes i).stage.buffered = true → (next.routes i).stage.buffered = true)

/-- A state keeps its own calls. -/
theorem RoutesGrow.rfl (s : Daemon) : RoutesGrow s s :=
  ⟨le_refl _, fun _ _ => ⟨Eq.refl _, Eq.refl _, id⟩⟩

/-- A new call keeps the others. -/
theorem RoutesGrow.startRoute (s : Daemon) (route : Route) : RoutesGrow s (s.startRoute route) :=
  ⟨Nat.le_succ _, fun _ lt => by
    rw [show (s.startRoute route).routes _ = _ from Function.update_noteq lt.ne _ _]
    exact ⟨Eq.refl _, Eq.refl _, id⟩⟩

/-- A call that moves on keeps its packet and sender, and stays past `buffer.Add` once there. -/
theorem RoutesGrow.setRoute {call : Nat} {route : Route} (data : route.data = (s.routes call).data)
    (origin : route.origin = (s.routes call).origin)
    (buffered : (s.routes call).stage.buffered = true → route.stage.buffered = true) :
    RoutesGrow s (s.setRoute call route) := by
  refine ⟨le_refl _, fun i _ => ?_⟩
  by_cases same : i = call
  · subst same
    rw [show (s.setRoute i route).routes i = route from Function.update_same _ _ _]
    exact ⟨data, origin, buffered⟩
  · rw [show (s.setRoute call route).routes i = _ from Function.update_noteq same _ _]
    exact ⟨Eq.refl _, Eq.refl _, id⟩

/-- A packet sourced for a client stays sourced as the calls grow. -/
theorem Sourced.grow {conn : ConnId} {data : Bytes} (sourced : s.Sourced conn data)
    (grows : RoutesGrow s next) : next.Sourced conn data := by
  obtain ⟨i, lt, same, buffered, other⟩ := sourced
  obtain ⟨data', origin', buffered'⟩ := grows.2 i lt
  exact ⟨i, lt_of_lt_of_le lt grows.1, data'.trans same, buffered' buffered, origin' ▸ other⟩

/-- A frame sent for a client stays one as the calls grow. -/
theorem SentFrame.grow {conn : ConnId} {frame : Frame} (sent : s.SentFrame conn frame)
    (grows : RoutesGrow s next) : next.SentFrame conn frame :=
  sent.imp_right fun ⟨data, eq, sourced⟩ => ⟨data, eq, sourced.grow grows⟩

/-- The invariant survives a step that leaves the connections and the ring buffer alone and
only adds calls, from served clients or from the mesh, or moves calls on. -/
theorem Provenance.grow (inv : s.Provenance) (grows : RoutesGrow s next)
    (accepted : next.accepted = s.accepted) (conns : next.conns = s.conns) (buffer : next.buffer = s.buffer)
    (origins : ∀ i, s.calls ≤ i → i < next.calls → ∀ conn, (next.routes i).origin = some conn →
      (s.conns conn).stage.served = true) :
    next.Provenance := by
  refine ⟨fun conn frame member => ?_, fun conn pending staged data member => ?_, fun data stored => ?_,
    fun i lt conn origin => ?_, fun conn beyond => ?_⟩ <;> rw [conns] at *
  · exact (inv.frames conn frame member).grow grows
  · exact (inv.pending conn pending staged data member).grow grows
  · rw [buffer] at stored
    obtain ⟨i, lt, same, buffered⟩ := inv.buffer data stored
    obtain ⟨data', -, buffered'⟩ := grows.2 i lt
    exact ⟨i, lt_of_lt_of_le lt grows.1, data'.trans same, buffered' buffered⟩
  · by_cases old : i < s.calls
    · exact inv.origins i old conn ((grows.2 i old).2.1 ▸ origin)
    · exact origins i (not_lt.mp old) lt conn origin
  · exact inv.fresh conn (accepted ▸ beyond)

/-- The invariant survives a step of one connection that sends it only frames sent for it,
replays only packets sourced for it, never takes it back from serving, and starts nothing
`Serve` has not accepted. -/
theorem Provenance.setConn (inv : s.Provenance) {conn : ConnId} {value : Connection}
    (frames : ∀ frame ∈ value.frames, frame ∈ (s.conns conn).frames ∨ s.SentFrame conn frame)
    (pending : ∀ pending, value.stage = .replaying pending → ∀ data ∈ pending, s.Sourced conn data)
    (served : (s.conns conn).stage.served = true → value.stage.served = true)
    (unaccepted : (s.conns conn).stage = .unaccepted → value.stage = .unaccepted) :
    (s.setConn conn value).Provenance := by
  refine ⟨fun c frame member => ?_, fun c pending' staged data member => ?_, inv.buffer,
    fun i lt c origin => ?_, fun c beyond => ?_⟩
  all_goals by_cases same : c = conn
  all_goals first
    | (subst same; simp only [setConn_self] at *)
    | rw [setConn_of_ne _ _ same] at *
  · exact (frames frame member).elim (inv.frames c frame) id
  · exact inv.frames c frame member
  · exact pending pending' staged data member
  · exact inv.pending c pending' staged data member
  · exact served (inv.origins i lt c origin)
  · exact inv.origins i lt c origin
  · exact unaccepted (inv.fresh c beyond)
  · exact inv.fresh c beyond

/-- `Send` on a connection: the frame is one sent for it. -/
theorem Provenance.send (inv : s.Provenance) {conn : ConnId} {frame : Frame} (sent : s.SentFrame conn frame) :
    (s.setConn conn ((s.conns conn).send frame)).Provenance :=
  inv.setConn (fun _ member => (Connection.mem_frames_send member).imp_right fun same => by rw [same]; exact sent)
    (fun pending staged => inv.pending conn pending (by rwa [Connection.send_stage] at staged))
    (by rw [Connection.send_stage]; exact id) (by rw [Connection.send_stage]; exact id)

/-- A connection's goroutines move on from a stage past `Serve`'s, sending nothing. -/
theorem Provenance.restage (inv : s.Provenance) {conn : ConnId} {stage : ConnStage}
    (started : (s.conns conn).stage ≠ .unaccepted)
    (pending : ∀ pending, stage = .replaying pending → ∀ data ∈ pending, s.Sourced conn data)
    (served : (s.conns conn).stage.served = true → stage.served = true) (clients : List ConnId) :
    { s.setConn conn { s.conns conn with stage := stage } with clients := clients }.Provenance := by
  have moved : (s.setConn conn { s.conns conn with stage := stage }).Provenance :=
    inv.setConn (fun _ member => .inl member) pending served (absurd · started)
  exact moved.grow (RoutesGrow.rfl _) rfl rfl rfl fun _ low high => absurd high (not_lt.mpr low)

/-- `Serve` starts the handshake of a fresh connection, which has made no calls and is sent
nothing yet. -/
theorem Provenance.accept (inv : s.Provenance) (setting : Setting) : (s.accept setting).Provenance := by
  unfold Daemon.accept
  split
  · exact inv
  · have unserved : (s.conns s.accepted).stage.served = false := by rw [inv.fresh _ (le_refl _)]; rfl
    refine ⟨fun c frame member => ?_, fun c pending staged data member => ?_, inv.buffer,
      fun i lt c origin => ?_, fun c beyond => ?_⟩ <;> dsimp only at *
    all_goals by_cases same : c = s.accepted
    all_goals first
      | (subst same; simp only [setConn_self] at *)
      | rw [setConn_of_ne _ _ same] at *
    · cases member
    · exact inv.frames c frame member
    · cases staged
    · exact inv.pending c pending staged data member
    · exact absurd (inv.origins i lt _ origin) (by rw [unserved]; exact Bool.false_ne_true)
    · exact inv.origins i lt c origin
    · omega
    · exact inv.fresh c (by omega)

/-- A new call from a served client or from the mesh. -/
theorem Provenance.startRoute (inv : s.Provenance) {origin : Option ConnId} (data : Bytes)
    (served : ∀ conn, origin = some conn → (s.conns conn).stage.served = true) :
    (s.startRoute (Route.start origin data)).Provenance :=
  inv.grow (RoutesGrow.startRoute _ _) rfl rfl rfl fun i low high conn started => by
    rw [show i = s.calls by simp only [Daemon.startRoute] at high; omega] at started
    rw [show (s.startRoute _).routes s.calls = _ from Function.update_same _ _ _] at started
    exact served conn started

/-- The calls `RecvLoop` starts for the packets of one datagram. -/
theorem Provenance.startRoutes (payloads : List Bytes) : ∀ {s : Daemon}, s.Provenance →
    (payloads.foldl (fun state data => state.startRoute (Route.start none data)) s).Provenance := by
  induction payloads with
  | nil => exact id
  | cons data rest ih => exact fun inv => ih (inv.startRoute data fun _ fromMesh => by cases fromMesh)

/-- A routing call that moves on, keeping its packet and sender. -/
theorem Provenance.setRoute (inv : s.Provenance) {call : Nat} {route : Route}
    (data : route.data = (s.routes call).data) (origin : route.origin = (s.routes call).origin)
    (buffered : (s.routes call).stage.buffered = true → route.stage.buffered = true) :
    (s.setRoute call route).Provenance :=
  inv.grow (RoutesGrow.setRoute data origin buffered) rfl rfl rfl fun _ low high => absurd high (not_lt.mpr low)

/-- `buffer.Add` of a packet some call has stored. -/
theorem Provenance.add (inv : s.Provenance) {data : Bytes}
    (stored : ∃ i < s.calls, (s.routes i).data = data ∧ (s.routes i).stage.buffered = true) :
    { s with buffer := s.buffer.add data }.Provenance :=
  ⟨inv.frames, inv.pending, fun _ member => (PacketBuffer.mem_add member).elim (inv.buffer _) fun same => same ▸ stored,
    inv.origins, inv.fresh⟩

/-- Each locked section of a routing call keeps the invariant: the call stores its own packet,
and its fan-out sends that packet to a client other than its sender. -/
theorem advance_provenance (inv : s.Provenance) {call : Nat} (stepped : s.advance setting call = some next) :
    next.Provenance := by
  simp only [advance] at stepped
  split at stepped
  · cases stepped
  rename_i inRange
  have lt : call < s.calls := not_le.mp inRange
  split at stepped
  · -- `IsDuplicate`: the call has stored nothing yet.
    rename_i checking
    generalize s.dedup.isDuplicate _ = outcome at stepped
    cases stepped
    exact (inv.setRoute (by rfl) (by rfl) (by rw [checking]; exact fun h => nomatch h)).grow (RoutesGrow.rfl _) rfl
      rfl rfl fun _ low high => absurd high (not_lt.mpr low)
  · -- `buffer.Add` of the call's own packet.
    cases stepped
    exact (inv.setRoute (by rfl) (by rfl) fun _ => by rfl).add
      ⟨call, lt, by rw [show (s.setRoute _ _).routes call = _ from Function.update_same _ _ _]; exact ⟨rfl, rfl⟩⟩
  · -- One pass of the fan-out loop.
    rename_i conn rest fanning
    split at stepped
    · cases stepped
      exact inv.setRoute (by rfl) (by rfl) fun _ => by rfl
    · rename_i other
      cases stepped
      refine (inv.setRoute (by rfl) (by rfl) fun _ => by rfl).send (.inr ⟨_, rfl, call, lt, ?_⟩)
      rw [show (s.setRoute _ _).routes call = _ from Function.update_same _ _ _]
      exact ⟨rfl, rfl, other⟩
  · -- `RUnlock`.
    cases stepped
    exact inv.setRoute (by rfl) (by rfl) fun _ => by split <;> rfl
  · -- `mesh.Send`.
    cases stepped
    exact inv.setRoute (by rfl) (by rfl) fun _ => by rfl
  · cases stepped

/-- Every step keeps the invariant. -/
theorem step_provenance (inv : s.Provenance) {action : Action} (stepped : s.step setting action = some next) :
    next.Provenance := by
  cases action with
  | accept =>
    cases stepped
    exact inv.accept setting
  | handshake conn generated input =>
    simp only [step, handshake] at stepped
    split at stepped
    · cases stepped
    rename_i handshaking
    rw [not_not] at handshaking
    have started : (s.conns conn).stage ≠ .unaccepted := by rw [handshaking]; nofun
    have unserved : (s.conns conn).stage.served = false := by rw [handshaking]; rfl
    split at stepped
    · split at stepped
      · cases stepped
      · cases stepped
        exact inv.restage started (by nofun) (by rw [unserved]; nofun) _
    · cases stepped
      exact inv.restage started (by nofun) (by rw [unserved]; nofun) s.clients
  | getAll conn =>
    simp only [step, getAll] at stepped
    split_ifs at stepped with registered
    cases stepped
    -- No call comes from a client `ReadLoop` has not started on.
    refine inv.restage (by rw [registered]; nofun) (fun _ same data member => ?_) (by rw [registered]; nofun)
      s.clients
    cases same
    obtain ⟨i, lt, eq, buffered⟩ := inv.buffer data (PacketBuffer.mem_getAll member)
    exact ⟨i, lt, eq, buffered, fun origin => absurd (inv.origins i lt conn origin) (by rw [registered]; nofun)⟩
  | replay conn =>
    simp only [step, replay] at stepped
    split at stepped
    · rename_i data rest replaying
      cases stepped
      have sourced := inv.pending conn _ replaying
      exact inv.setConn
        (fun _ member => (Connection.mem_frames_send member).imp_right fun same =>
          .inr ⟨data, same, sourced data (List.mem_cons_self _ _)⟩)
        (fun _ same _ member => sourced _ (by cases same; exact List.mem_cons_of_mem _ member))
        (by rw [replaying]; nofun) (by rw [replaying]; nofun)
    · cases stepped
  | startServing conn =>
    simp only [step, startServing] at stepped
    split_ifs at stepped with replayed
    cases stepped
    exact inv.restage (by rw [replayed]; nofun) (by nofun) (fun _ => by rfl) s.clients
  | write conn | writeFail conn =>
    simp only [step, writeLoop] at stepped
    split at stepped
    · rename_i frame rest staged isOpen queued
      first | rw [if_pos trivial] at stepped | rw [if_neg Bool.false_ne_true] at stepped
      cases stepped
      -- `WriteLoop` takes the oldest queued frame, and writes it or drops it.
      refine inv.setConn (fun _ member => .inl ?_) (inv.pending conn) id id
      simp only [Connection.frames, queued, List.mem_append, List.mem_cons, List.mem_singleton] at member ⊢
      tauto
    · cases stepped
  | clientData conn data =>
    simp only [step, clientData] at stepped
    split_ifs at stepped with enabled
    cases stepped
    exact inv.startRoute data fun _ same => by cases same; rw [enabled.1]; rfl
  | ping conn =>
    simp only [step, ping] at stepped
    split_ifs at stepped
    cases stepped
    exact inv.send (.inl rfl)
  | disconnect conn =>
    simp only [step, disconnect] at stepped
    split_ifs at stepped with serving
    cases stepped
    exact inv.setConn (fun _ member => .inl member) (fun _ => nofun) (fun _ => rfl) (by rw [serving]; nofun)
  | remove conn =>
    simp only [step, remove] at stepped
    split_ifs at stepped with enabled
    cases stepped
    exact inv.restage (by rw [enabled.1]; nofun) (by nofun) (fun _ => by rfl) _
  | meshDatagram datagram =>
    simp only [step, meshDatagram] at stepped
    split at stepped
    · cases stepped
    · cases stepped
      exact Provenance.startRoutes _
        (inv.grow (RoutesGrow.rfl _) rfl rfl rfl fun _ low high => absurd high (not_lt.mpr low))
  | readLock call order =>
    simp only [step, readLock] at stepped
    split_ifs at stepped
    cases stepped
    exact inv.setRoute (by rfl) (by rfl) fun _ => by rfl
  | advance call => exact advance_provenance inv stepped

/-- Every run keeps the invariant. -/
theorem run_provenance : ∀ {actions : List Action} {s next : Daemon}, s.Provenance →
    run setting s actions = some next → next.Provenance
  | [], _, _, inv, ran => by
    cases ran
    exact inv
  | _ :: _, _, _, inv, ran => by
    obtain ⟨_, stepped, continued⟩ := Option.bind_eq_some.mp ran
    exact run_provenance (step_provenance inv stepped) continued

/-- The daemon starts with the invariant: nothing queued, nothing stored, nothing accepted. -/
theorem init_provenance (setting : Setting) (mesh : Option MeshLink) : (init setting mesh).Provenance :=
  ⟨fun _ _ member => (by cases member), fun _ _ staged => (by cases staged),
    fun _ stored => absurd (List.eq_of_mem_replicate stored) (Option.some_ne_none _),
    fun _ lt => absurd lt (Nat.not_lt_zero _), fun _ _ => rfl⟩

end Daemon

/-! ### What the relay sends a client -/

/-- The relay sends a client nothing but PONG and routed packets, and never a packet that client
sent: in every reachable state, each frame queued in a connection's `writeCh` or written to it
is PONG, or a DATA frame carrying the packet of a routing call from another client or from the
mesh that passed the dedup check and reached `buffer.Add`, whether the fan-out or `AddClient`'s
replay of the ring buffer queued it. -/
theorem relay_sends_only_routed (setting : Setting) (mesh : Option MeshLink) (s : Daemon)
    (reachable : s.Reachable setting mesh) (conn : ConnId) :
    ∀ frame ∈ (s.conns conn).queue ++ (s.conns conn).written, frame = ⟨framePong, []⟩ ∨
      ∃ i < s.calls, frame = ⟨frameData, (s.routes i).data⟩ ∧ (s.routes i).stage.buffered = true ∧
        (s.routes i).origin ≠ some conn := by
  obtain ⟨actions, ran⟩ := reachable
  intro frame member
  rcases (Daemon.run_provenance (Daemon.init_provenance setting mesh) ran).frames conn frame member with
    pong | ⟨data, rfl, i, lt, same, buffered, other⟩
  · exact .inl pong
  · exact .inr ⟨i, lt, by rw [same], buffered, other⟩

/-- On the stand-in relay the first client sends the packet `[7]`, the second client's `WriteLoop`
writes the DATA frame fanned out to it, and it pings: what the relay wrote and queued for the
second client is the first client's routed packet and PONG. -/
theorem relay_sends_only_routed_fanned_out :
    let setting := Setting.standIn Sha256.truncate
    let input := writeFrame frameHello [0, 1, 0] ++ writeFrame frameSolution (List.replicate 8 0)
    let s := (Daemon.run setting (Daemon.init setting none) [.accept,
      .handshake 0 (.ok (List.replicate 32 0)) input, .getAll 0, .startServing 0, .accept,
      .handshake 1 (.ok (List.replicate 32 0)) input, .getAll 1, .startServing 1, .clientData 0 [7],
      .advance 0, .advance 0, .readLock 0 [0, 1], .advance 0, .advance 0, .advance 0, .advance 0,
      .write 1, .ping 1]).getD (Daemon.init setting none)
    s.Reachable setting none ∧
    (s.conns 1).written = [⟨frameData, [7]⟩] ∧ (s.conns 1).queue = [⟨framePong, []⟩] ∧
    ∀ frame ∈ (s.conns 1).queue ++ (s.conns 1).written, frame = ⟨framePong, []⟩ ∨
      ∃ i < s.calls, frame = ⟨frameData, (s.routes i).data⟩ ∧ (s.routes i).stage.buffered = true ∧
        (s.routes i).origin ≠ some 1 := by
  intro setting input s
  -- the run is evaluated once for its end state and once for each fact about it
  have reachable : s.Reachable setting none :=
    ⟨_, (Option.getD_of_ne_none (Option.ne_none_iff_isSome.mpr (by decide)) _).symm⟩
  exact ⟨reachable, by decide, by decide, relay_sends_only_routed setting none s reachable 1⟩

end MeshRelay
