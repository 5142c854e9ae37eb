import MeshRelay.Router.Provenance
import MeshRelay.Mesh.LinkLaws
import Mathlib.Data.List.Nodup

/-! Runs of `Serve`, `handleConn`, `RecvLoop` and the routing calls that the daemon allows and its
contracts rule out: sessions beyond `MaxClients`, a replay that overflows `writeCh`, a packet
delivered both live and from the ring buffer, and a mesh packet larger than `MaxPacketSize`. -/

namespace MeshRelay

namespace Daemon

variable {setting : Setting} {s : Daemon}

/-! ### More sessions than `MaxClients` -/

/-- `Serve` checks `ClientCount()` when it accepts, but a client is added only after its
handshake: `MaxClients + 1` connections accepted before any handshake ends all become sessions,
one more than `MaxClients`. -/
theorem maxClients_exceeded (setting : Setting) (mesh : Option MeshLink)
    {generated : Except String Bytes} {input peerID : Bytes}
    (admitted : (performHandshake setting.sha setting.cfg setting.width generated input).result = .ok peerID)
    (positive : 0 < setting.cfg.maxClients) :
    ∃ s : Daemon, s.Reachable setting mesh ∧ setting.cfg.maxClients < s.clients.length := by
  -- Accept `MaxClients + 1` connections while nobody is registered, then complete their handshakes.
  obtain ⟨accepted, ran, clients, calls, count, -, waiting⟩ :=
    @run_accepts setting (init setting mesh) positive (setting.cfg.maxClients.toNat + 1)
  obtain ⟨registered, ran', length⟩ := run_handshakes admitted (List.range (setting.cfg.maxClients.toNat + 1))
    accepted (List.nodup_range _) calls fun conn member =>
      ⟨waiting conn (Nat.zero_le _) (Nat.lt_of_lt_of_le (List.mem_range.mp member) (Nat.le_add_left _ _)),
        by rw [clients]; exact List.not_mem_nil _⟩
  refine ⟨registered, ⟨_, run_trans ran ran'⟩, ?_⟩
  rw [length, clients, List.length_range]
  simp only [init, List.length_nil]
  omega

/-- Twenty-one phones connecting at once to the default relay, each completing the handshake. -/
theorem maxClients_exceeded_default_config :
    (performHandshake Sha256.allZero defaultConfig .w64 (.ok (List.replicate 32 0))
        (writeFrame frameHello [0, 1, 0] ++ writeFrame frameSolution (List.replicate 8 0))).result =
      .ok [] ∧
    0 < defaultConfig.maxClients ∧
    ∃ s : Daemon, s.Reachable (Setting.standIn Sha256.allZero) none ∧ defaultConfig.maxClients < s.clients.length :=
  ⟨rfl, by decide, @maxClients_exceeded (Setting.standIn Sha256.allZero) none (.ok (List.replicate 32 0))
    (writeFrame frameHello [0, 1, 0] ++ writeFrame frameSolution (List.replicate 8 0)) [] rfl (by decide)⟩

/-! ### A packet delivered live and again from the buffer -/

/-- `AddClient` inserts the client under the write lock but takes `buffer.GetAll()` after
releasing it. A `RouteFromClient` call that runs in between sends its packet to the new client
live and has already stored it in the buffer, so the client's replay queues it a second time:
its first DATA frame is the live packet and its second the same packet from the buffer. -/
theorem registration_races_fanout (setting : Setting) (mesh : Option MeshLink)
    {generated : Except String Bytes} {input peerID : Bytes}
    (admitted : (performHandshake setting.sha setting.cfg setting.width generated input).result = .ok peerID)
    (room : 2 ≤ setting.cfg.maxClients) (data : Bytes)
    (fits : (data.length : Int) ≤ setting.cfg.maxPacketSize) :
    ∃ s : Daemon, s.Reachable setting mesh ∧ (s.routes 0).sentTo = [1] ∧ s.buffer.getAll = [data] ∧
      (s.conns 1).queue = [⟨frameData, data⟩, ⟨frameData, data⟩] := by
  have empty := PacketBuffer.new_holds setting.cfg.bufferSize.toNat
    (by have := setting.bufferSize_pos; omega)
  have stored := empty.add (by have := setting.bufferSize_pos; simp [PacketBuffer.new]; omega) data
  -- The sender (connection 0) connects and serves, the new client (connection 1) is inserted, the
  -- call runs to the end, and then the new client's `AddClient` takes the snapshot and replays it.
  refine ⟨_, ⟨_, run_trans (run_connect admitted (by simp [init]; omega) (reading_of_idle rfl))
    (run_trans (@run_serve _ _ 0 (by simp [init]) empty.getAll)
    (run_trans (run_connect admitted (by simp [init, setConn]; omega) (reading_of_idle rfl))
    (run_trans (@run_routeFromClient _ _ 0 data [1, 0] (by simp [setConn]) fits
        (by simp [init, setConn, DedupFilter.new]) (by simp [init, setConn]) (by decide))
      (@run_addClient_replay _ _ 1 (by simp [setConn, init, routedAlone, Route.receivers, Route.start])))))⟩,
    ?_, ?_, ?_⟩
  · simp [setConn, init, routedAlone, Route.receivers, Route.start]
  · simp [setConn, init, routedAlone, stored.getAll]
  · simp [setConn, init, routedAlone, stored.getAll, Route.receivers, Route.start, Connection.send,
      writeChCapacity]

/-- A one-byte packet on the default relay. -/
theorem registration_races_fanout_default_config :
    (performHandshake Sha256.allZero defaultConfig .w64 (.ok (List.replicate 32 0))
        (writeFrame frameHello [0, 1, 0] ++ writeFrame frameSolution (List.replicate 8 0))).result =
      .ok [] ∧
    2 ≤ defaultConfig.maxClients ∧ (([7] : Bytes).length : Int) ≤ defaultConfig.maxPacketSize ∧
    ∃ s : Daemon, s.Reachable (Setting.standIn Sha256.allZero) none ∧ (s.routes 0).sentTo = [1] ∧
      s.buffer.getAll = [[7]] ∧ (s.conns 1).queue = [⟨frameData, [7]⟩, ⟨frameData, [7]⟩] :=
  ⟨rfl, by decide, by decide, @registration_races_fanout (Setting.standIn Sha256.allZero) none
    (.ok (List.replicate 32 0)) (writeFrame frameHello [0, 1, 0] ++ writeFrame frameSolution (List.replicate 8 0))
    [] rfl (by decide) [7] (by decide)⟩

/-! ### A replay larger than `writeCh` -/

/-- The steps of `RouteFromClient` calls from `sender` for `packets`, made as calls `call`,
`call + 1`, ... one after another, while `sender` is the only client. -/
def routeAloneSteps (sender : ConnId) : Nat → List Bytes → List Action
  | _, [] => []
  | call, data :: rest => routeSteps sender data call [sender] ++ routeAloneSteps sender (call + 1) rest

/-- No fan-out holds the read lock once every call has returned. -/
theorem reading_of_done (done : ∀ i < s.calls, (s.routes i).stage = .done) : s.reading = false := by
  simp only [reading, List.any_eq_false, List.mem_range]
  intro i lt
  rw [done i lt]
  exact Bool.false_ne_true

/-- Packets with new hashes routed by the only client, one call after another: each is stored
in the ring buffer and sent to nobody, and every call returns. -/
theorem run_routeAlone {sender : ConnId} : ∀ (packets : List Bytes) (s : Daemon) (stored : List Bytes),
    (s.conns sender).stage = .serving → s.clients = [sender] →
    (∀ data ∈ packets, (data.length : Int) ≤ setting.cfg.maxPacketSize) →
    (∀ hash ∈ s.dedup.seen, hash ∈ stored.map (packetHash setting.sha)) →
    ((stored ++ packets).map (packetHash setting.sha)).Nodup →
    s.buffer.Holds stored → stored.length + packets.length ≤ s.buffer.size →
    (∀ i < s.calls, (s.routes i).stage = .done) →
    ∃ next, run setting s (routeAloneSteps sender s.calls packets) = some next ∧
      next.conns = s.conns ∧ next.clients = s.clients ∧ next.accepted = s.accepted ∧
      next.buffer.Holds (stored ++ packets) ∧ ∀ i < next.calls, (next.routes i).stage = .done
  | [], s, stored, _, _, _, _, _, holds, _, done =>
    ⟨s, rfl, rfl, rfl, rfl, by rw [List.append_nil]; exact holds, done⟩
  | data :: rest, s, stored, serving, alone, fit, recorded, distinct, holds, room, done => by
    -- The packet's hash is new: every hash in the map is one of an earlier packet.
    have apart := (List.nodup_append.mp (List.map_append (packetHash setting.sha) stored _ ▸ distinct)).2.2
    have fresh : packetHash setting.sha data ∉ s.dedup.seen := fun seen =>
      apart (recorded _ seen) (List.mem_map_of_mem _ (List.mem_cons_self _ _))
    have ran := run_routeFromClient serving (fit data (List.mem_cons_self _ _)) fresh
      (by rw [alone]) (List.nodup_singleton sender)
    -- The call sends to nobody, so the connections are as they were.
    have nobody : (Route.start (some sender) data).receivers [sender] = [] := by
      simp [Route.receivers, Route.start]
    obtain ⟨next, continued, conns, clients, accepted, stored', returned⟩ := run_routeAlone rest
      (s.routedAlone setting sender data [sender]) (stored ++ [data])
      (by simp [routedAlone, nobody, serving]) alone (fun other member => fit other (List.mem_cons_of_mem _ member))
      (fun hash member => by
        rcases List.mem_cons.mp ((DedupFilter.isDuplicate_of_not_mem fresh).2 member) with rfl | old
        · simp
        · exact List.mem_map.mpr (by
            obtain ⟨packet, member, same⟩ := List.mem_map.mp (recorded hash old)
            exact ⟨packet, List.mem_append_left _ member, same⟩))
      (by rw [List.append_assoc, List.singleton_append]; exact distinct)
      (holds.add (by simp at room; omega) data) (by simp [routedAlone] at room ⊢; omega)
      (fun i lt => by
        by_cases here : i = s.calls
        · subst here
          simp [routedAlone]
        · show (Function.update s.routes s.calls _ i).stage = _
          rw [Function.update_noteq here]
          exact done i (by simp [routedAlone] at lt; omega))
    refine ⟨next, run_trans ran continued, ?_, clients, accepted, by simpa using stored', returned⟩
    rw [conns]
    funext conn
    simp [routedAlone, nobody]

/-- The calls `RecvLoop` starts add one call per packet. -/
theorem startRoutes_calls (payloads : List Bytes) : ∀ s : Daemon,
    (payloads.foldl (fun state data => state.startRoute (Route.start none data)) s).calls =
      s.calls + payloads.length := by
  induction payloads with
  | nil => exact fun _ => rfl
  | cons data rest ih =>
    intro s
    rw [List.foldl_cons, ih, List.length_cons]
    simp only [startRoute]
    omega

/-- No step removes a routing call. -/
theorem step_calls_le {action : Action} {next : Daemon} (stepped : s.step setting action = some next) :
    s.calls ≤ next.calls := by
  cases action with
  | clientData conn data =>
    simp only [step, clientData] at stepped
    split_ifs at stepped
    cases stepped
    exact Nat.le_succ _
  | meshDatagram datagram =>
    simp only [step, meshDatagram] at stepped
    split at stepped
    · cases stepped
    · cases stepped
      rw [startRoutes_calls]
      exact Nat.le_add_right _ _
  | accept =>
    cases stepped
    unfold accept
    split <;> exact le_refl _
  | _ =>
    simp only [step, handshake, getAll, replay, startServing, writeLoop, ping, disconnect, remove,
      readLock, advance] at stepped
    (repeat' split at stepped) <;> cases stepped <;> exact le_refl _

/-- No run removes a routing call. -/
theorem run_calls_le : ∀ {actions : List Action} {s next : Daemon},
    run setting s actions = some next → s.calls ≤ next.calls
  | [], _, _, ran => by cases ran; exact le_refl _
  | _ :: _, _, _, ran => by
    obtain ⟨_, stepped, continued⟩ := Option.bind_eq_some.mp ran
    exact (step_calls_le stepped).trans (run_calls_le continued)

/-- Once every routing call has returned, a step that starts no call leaves the calls alone and
sends a client whose `AddClient` has returned at most PONG: no fan-out or replay is left to queue
a packet for it, and `WriteLoop` only moves or drops what is queued. -/
theorem step_quiet {action : Action} {next : Daemon} (stepped : s.step setting action = some next)
    (same : next.calls = s.calls) (returned : ∀ i < s.calls, (s.routes i).stage = .done)
    {conn : ConnId} (accepted : conn < s.accepted) (served : (s.conns conn).stage.served = true) :
    next.routes = s.routes ∧ conn < next.accepted ∧ (next.conns conn).stage.served = true ∧
      ∀ frame ∈ (next.conns conn).frames, frame ∈ (s.conns conn).frames ∨ frame = ⟨framePong, []⟩ := by
  -- a step that leaves this connection as it is
  have untouched : ∀ {next : Daemon}, next.routes = s.routes → s.accepted ≤ next.accepted →
      next.conns conn = s.conns conn → next.routes = s.routes ∧ conn < next.accepted ∧
        (next.conns conn).stage.served = true ∧
        ∀ frame ∈ (next.conns conn).frames, frame ∈ (s.conns conn).frames ∨ frame = ⟨framePong, []⟩ :=
    fun routes grown conns => ⟨routes, lt_of_lt_of_le accepted grown, conns ▸ served,
      fun _ member => .inl (conns ▸ member)⟩
  -- a step of a connection whose goroutines are not where this one's are
  have apart : ∀ {target : ConnId} {stage : ConnStage}, (s.conns target).stage = stage →
      stage.served = false → conn ≠ target := fun staged unserved same => by
    subst same
    rw [staged, unserved] at served
    cases served
  cases action with
  | accept =>
    cases stepped
    unfold accept
    split
    · exact untouched rfl (le_refl _) rfl
    · exact untouched rfl (Nat.le_succ _) (setConn_of_ne _ _ accepted.ne)
  | handshake target generated input =>
    simp only [step, handshake] at stepped
    split at stepped
    · cases stepped
    rename_i handshaking
    have other := apart (not_not.mp handshaking) rfl
    split at stepped
    · split at stepped
      · cases stepped
      · cases stepped
        exact untouched rfl (le_refl _) (setConn_of_ne _ _ other)
    · cases stepped
      exact untouched rfl (le_refl _) (setConn_of_ne _ _ other)
  | getAll target | startServing target =>
    simp only [step, getAll, startServing] at stepped
    split_ifs at stepped with staged
    cases stepped
    exact untouched rfl (le_refl _) (setConn_of_ne _ _ (apart staged rfl))
  | replay target =>
    simp only [step, replay] at stepped
    split at stepped
    · rename_i data rest replaying
      cases stepped
      exact untouched rfl (le_refl _) (setConn_of_ne _ _ (apart replaying rfl))
    · cases stepped
  | write target | writeFail target =>
    simp only [step, writeLoop] at stepped
    split at stepped
    · rename_i frame rest staged isOpen queued
      first | rw [if_pos trivial] at stepped | rw [if_neg Bool.false_ne_true] at stepped
      cases stepped
      by_cases mine : conn = target
      · -- `WriteLoop` takes the oldest queued frame, and writes it or drops it.
        subst mine
        refine ⟨rfl, accepted, by rw [setConn_self]; exact served, fun _ member => .inl ?_⟩
        simp only [setConn_self, Connection.frames, queued, List.mem_append, List.mem_cons,
          List.mem_singleton] at member ⊢
        tauto
      · exact untouched rfl (le_refl _) (setConn_of_ne _ _ mine)
    · cases stepped
  | clientData target data =>
    simp only [step, clientData] at stepped
    split_ifs at stepped
    cases stepped
    simp [startRoute] at same
  | ping target =>
    simp only [step, ping] at stepped
    split_ifs at stepped
    cases stepped
    by_cases mine : conn = target
    · subst mine
      refine ⟨rfl, accepted, by rw [setConn_self, Connection.send_stage]; exact served, fun _ member => ?_⟩
      rw [setConn_self] at member
      exact Connection.mem_frames_send member
    · exact untouched rfl (le_refl _) (setConn_of_ne _ _ mine)
  | disconnect target | remove target =>
    simp only [step, disconnect, remove] at stepped
    split_ifs at stepped
    cases stepped
    by_cases mine : conn = target
    · subst mine
      exact ⟨rfl, accepted, by simp [ConnStage.served], fun _ member => .inl (by simpa using member)⟩
    · exact untouched rfl (le_refl _) (setConn_of_ne _ _ mine)
  | meshDatagram datagram =>
    simp only [step, meshDatagram] at stepped
    split at stepped
    · cases stepped
    · cases stepped
      rw [startRoutes_calls] at same
      rw [List.eq_nil_of_length_eq_zero (Nat.add_left_cancel (same.trans (Nat.add_zero _).symm))]
      exact untouched rfl (le_refl _) rfl
  | readLock call order =>
    simp only [step, readLock] at stepped
    split_ifs at stepped with enabled
    rw [returned call enabled.1] at enabled
    cases enabled.2.1
  | advance call =>
    simp only [step, advance] at stepped
    split at stepped
    · cases stepped
    rename_i inRange
    rw [returned call (not_le.mp inRange)] at stepped
    cases stepped

/-- Over a run that starts no routing call, once every call has returned, a client whose
`AddClient` has returned is sent nothing but PONG beyond the frames it already has. -/
theorem run_quiet {conn : ConnId} : ∀ {actions : List Action} {s next : Daemon},
    run setting s actions = some next → next.calls = s.calls → (∀ i < s.calls, (s.routes i).stage = .done) →
    conn < s.accepted → (s.conns conn).stage.served = true →
    ∀ frame ∈ (next.conns conn).frames, frame ∈ (s.conns conn).frames ∨ frame = ⟨framePong, []⟩
  | [], _, _, ran, _, _, _, _ => by
    cases ran
    exact fun _ member => .inl member
  | _ :: _, s, next, ran, same, returned, accepted, served => by
    obtain ⟨middle, stepped, continued⟩ := Option.bind_eq_some.mp ran
    -- the first step starts no call either, as no run removes one
    have first : middle.calls = s.calls :=
      le_antisymm (same ▸ run_calls_le continued) (step_calls_le stepped)
    obtain ⟨routes, accepted', served', sent⟩ := step_quiet stepped first returned accepted served
    intro frame member
    rcases run_quiet continued (same.trans first.symm) (by rw [routes, first]; exact returned) accepted'
      served' frame member with earlier | pong
    · exact sent frame earlier
    · exact .inr pong

/-- A client that connects, is replayed the ring buffer by `AddClient` and starts `WriteLoop` and
`ReadLoop` with nothing else running: its `writeCh` holds the first 64 buffered packets, and the
calls and the ring buffer stay as they were. -/
theorem run_join {generated : Except String Bytes} {input peerID : Bytes}
    (admitted : (performHandshake setting.sha setting.cfg setting.width generated input).result = .ok peerID)
    (room : (s.clients.length : Int) < setting.cfg.maxClients) (quiet : s.reading = false) :
    ∃ next, run setting s ([.accept, .handshake s.accepted generated input] ++
        ((.getAll s.accepted :: List.replicate s.buffer.getAll.length (.replay s.accepted)) ++
          [.startServing s.accepted])) = some next ∧
      next.conns s.accepted =
        ⟨.serving, (s.buffer.getAll.map fun data => ⟨frameData, data⟩).take writeChCapacity, false, []⟩ ∧
      next.clients = s.clients.insert s.accepted ∧ next.buffer = s.buffer ∧
      next.accepted = s.accepted + 1 ∧ next.calls = s.calls ∧ next.routes = s.routes := by
  refine ⟨_, run_trans (run_connect admitted room quiet)
    (run_trans (run_addClient_replay (by simp)) (run_startServing (by simp [setConn]))), ?_⟩
  simp [setConn, Connection.queue_foldl_send]

/-- `AddClient` replays the whole ring buffer through the non-blocking `Send` before
`handleConn` starts `WriteLoop`, so nothing drains the 64 slots of `writeCh` meanwhile: of `k`
buffered packets only the first 64 are queued and the others are dropped. After `k` packets
with distinct hashes from one client and a second client registered with no routing alongside,
once `AddClient` has returned and the second client serves, still open, its `writeCh` holds
exactly the first `min k 64` packets, and in every continuation that routes no new packet it is
sent nothing else but PONG: the later packets are never queued for it. -/
theorem replay_overflows_writeCh (setting : Setting) (mesh : Option MeshLink)
    {generated : Except String Bytes} {input peerID : Bytes}
    (admitted : (performHandshake setting.sha setting.cfg setting.width generated input).result = .ok peerID)
    (room : 2 ≤ setting.cfg.maxClients) (packets : List Bytes)
    (fit : ∀ data ∈ packets, (data.length : Int) ≤ setting.cfg.maxPacketSize)
    (distinct : (packets.map (packetHash setting.sha)).Nodup)
    (buffered : packets.length ≤ setting.cfg.bufferSize.toNat) :
    ∃ s : Daemon, s.Reachable setting mesh ∧ s.buffer.getAll = packets ∧ 1 ∈ s.clients ∧
      (s.conns 1).stage = .serving ∧ (s.conns 1).closed = false ∧ (s.conns 1).written = [] ∧
      (s.conns 1).queue = (packets.map fun data => ⟨frameData, data⟩).take writeChCapacity ∧
      ∀ (actions : List Action) (next : Daemon), run setting s actions = some next →
        next.calls = s.calls → ∀ frame ∈ (next.conns 1).queue ++ (next.conns 1).written,
          frame ∈ (packets.map fun data => ⟨frameData, data⟩).take writeChCapacity ∨
            frame = ⟨framePong, []⟩ := by
  have empty := PacketBuffer.new_holds setting.cfg.bufferSize.toNat
    (by have := setting.bufferSize_pos; omega)
  -- The sender (connection 0) connects and serves.
  have connected := run_trans
    (@run_connect setting (init setting mesh) _ _ _ admitted (by simp [init]; omega) (reading_of_idle rfl))
    (@run_serve _ _ 0 (by simp [init]) empty.getAll)
  obtain ⟨serving, ran⟩ : ∃ serving, run setting (init setting mesh) ([.accept,
      .handshake (init setting mesh).accepted generated input] ++ [.getAll 0, .startServing 0]) =
        some serving := ⟨_, connected⟩
  obtain ⟨served, alone, unseen, buffer, idle, accepted⟩ : (serving.conns 0).stage = .serving ∧
      serving.clients = [0] ∧ serving.dedup.seen = [] ∧ serving.buffer = (init setting mesh).buffer ∧
      serving.calls = 0 ∧ serving.accepted = 1 := by
    rw [connected] at ran
    cases ran
    simp [setConn, init, DedupFilter.new]
  -- It routes every packet while it is the only client, and every call returns.
  obtain ⟨routed, routing, -, clients, accepted', holds, returned⟩ := run_routeAlone packets serving []
    served alone fit (by simp [unseen]) (by simpa using distinct) (by rw [buffer]; exact empty)
    (by rw [buffer]; simpa [init, PacketBuffer.new] using buffered) (by simp [idle])
  rw [List.nil_append] at holds
  -- The new client (connection 1) connects, `AddClient` replays the buffer, and `WriteLoop` and
  -- `ReadLoop` start.
  obtain ⟨final, replayed, joined, clients', buffer', accepted'', calls, routes⟩ :=
    run_join admitted (by rw [clients, alone]; simp; omega) (reading_of_done returned)
  rw [accepted', accepted] at joined clients' accepted''
  refine ⟨final, ⟨_, run_trans ran (run_trans routing replayed)⟩, by rw [buffer']; exact holds.getAll,
    by simp [clients', clients, alone], by simp [joined], by simp [joined], by simp [joined],
    by simp [joined, holds.getAll], fun actions next continued same frame member => ?_⟩
  -- No call is left to fan out and no replay to send: only PONG can follow.
  refine (run_quiet continued same (by rw [routes, calls]; exact returned) (by simp [accepted''])
    (by simp [joined, ConnStage.served]) frame member).imp_left fun queued => ?_
  simpa [Connection.frames, joined, holds.getAll] using queued

/-- Sixty-five one-byte packets on the default relay: the second client's `writeCh` holds the
first sixty-four, and the sixty-fifth is never queued for it. -/
theorem replay_overflows_writeCh_65_packets :
    (performHandshake Sha256.truncate defaultConfig .w64 (.ok (List.replicate 32 0))
        (writeFrame frameHello [0, 1, 0] ++ writeFrame frameSolution (List.replicate 8 0))).result =
      .ok [] ∧
    2 ≤ defaultConfig.maxClients ∧
    (∀ data ∈ (List.range 65).map (fun i => [UInt8.ofNat i]),
      (data.length : Int) ≤ defaultConfig.maxPacketSize) ∧
    (((List.range 65).map (fun i => [UInt8.ofNat i])).map (packetHash Sha256.truncate)).Nodup ∧
    ((List.range 65).map (fun i => [UInt8.ofNat i])).length ≤ defaultConfig.bufferSize.toNat ∧
    ∃ s : Daemon, s.Reachable (Setting.standIn Sha256.truncate) none ∧
      s.buffer.getAll = (List.range 65).map (fun i => [UInt8.ofNat i]) ∧ 1 ∈ s.clients ∧
      (s.conns 1).stage = .serving ∧ (s.conns 1).closed = false ∧ (s.conns 1).written = [] ∧
      (s.conns 1).queue = (((List.range 65).map (fun i => [UInt8.ofNat i])).map
        fun data => ⟨frameData, data⟩).take writeChCapacity ∧
      ∀ (actions : List Action) (next : Daemon), run (Setting.standIn Sha256.truncate) s actions = some next →
        next.calls = s.calls → ∀ frame ∈ (next.conns 1).queue ++ (next.conns 1).written,
          frame ∈ (((List.range 65).map (fun i => [UInt8.ofNat i])).map
            fun data => ⟨frameData, data⟩).take writeChCapacity ∨ frame = ⟨framePong, []⟩ :=
  have distinct : (((List.range 65).map fun i => [UInt8.ofNat i]).map (packetHash Sha256.truncate)).Nodup := by
    -- Each packet's hash starts with its byte.
    rw [List.map_map]
    refine (List.nodup_range 65).map_on fun x xin y yin same => ?_
    have heads := congrArg (fun hash : Bytes => (hash.headD 0).toNat) same
    simp [packetHash, Sha256.truncate, copyInto] at heads
    simp at xin yin
    omega
  ⟨rfl, by decide, by simp [defaultConfig], distinct, by simp [defaultConfig],
    @replay_overflows_writeCh (Setting.standIn Sha256.truncate) none (.ok (List.replicate 32 0))
      (writeFrame frameHello [0, 1, 0] ++ writeFrame frameSolution (List.replicate 8 0)) [] rfl (by decide)
      _ (by simp [Setting.standIn, defaultConfig]) distinct (by simp [Setting.standIn, defaultConfig])⟩

/-! ### A mesh packet larger than `MaxPacketSize` -/

/-- `RecvLoop` sizes `buf` for the 160-byte CA header, `MaxPacketSize + caHeaderLen` bytes, but
open mode strips only the 96-byte header. In CA mode every payload it hands to `RouteFromMesh`
has at most `MaxPacketSize` bytes. In open mode a datagram that fills `buf`, from another,
unrevoked relay whose signature over the payload verifies, hands on `MaxPacketSize + 64` bytes,
and `RouteFromMesh` stores them in the ring buffer. -/
theorem mesh_payload_exceeds_maxPacketSize (setting : Setting)
    (nonneg : 0 ≤ setting.cfg.maxPacketSize) {auth : RelayAuth} {pubKey sig data : Bytes}
    (noCA : auth.caPubKey = none) (keySize : pubKey.length = pubKeyLen) (sigSize : sig.length = sigLen)
    (other : pubKey ≠ auth.publicKey) (unrevoked : hexEncode pubKey ∉ auth.revokedKeys)
    (signed : setting.ed.verify pubKey data sig = true)
    (oversized : (data.length : Int) = setting.cfg.maxPacketSize + 64) :
    (∀ (router : Bool) (certified : RelayAuth) (datagram payload : Bytes), certified.hasCA = true →
      .routeFromMesh payload ∈ ((⟨setting.cfg, router, some certified⟩ : MeshLink).recvDatagram
        setting.ed (datagram.take (⟨setting.cfg, router, some certified⟩ : MeshLink).bufferLen)).1 →
      (payload.length : Int) ≤ setting.cfg.maxPacketSize) ∧
    (pubKey ++ sig ++ data).length = (⟨setting.cfg, true, some auth⟩ : MeshLink).bufferLen ∧
    ∃ s, run setting (init setting (some ⟨setting.cfg, true, some auth⟩))
        [.meshDatagram (pubKey ++ sig ++ data), .advance 0, .advance 0] = some s ∧
      s.buffer.getAll = [data] ∧ setting.cfg.maxPacketSize < data.length := by
  have fills : (pubKey ++ sig ++ data).length = (⟨setting.cfg, true, some auth⟩ : MeshLink).bufferLen := by
    simp only [List.length_append, keySize, sigSize, MeshLink.bufferLen, caHeaderLen, pubKeyLen, certLen,
      sigLen]
    omega
  refine ⟨fun router certified datagram payload certifiedMode routed => ?_, fills, ?_⟩
  · -- CA mode: the payload is what follows the 160-byte header in at most `buf` bytes.
    obtain ⟨-, -, layout⟩ := MeshLink.recvDatagram_routed routed
    obtain ⟨ca, some⟩ := Option.isSome_iff_exists.mp certifiedMode
    rw [some] at layout
    obtain ⟨-, -, -, rfl⟩ := layout
    simp only [List.length_drop, List.length_take, MeshLink.bufferLen, caHeaderLen, pubKeyLen, certLen,
      sigLen]
    omega
  · -- Open mode: `RecvLoop` reads the datagram whole and starts `RouteFromMesh` on its payload.
    let link : MeshLink := ⟨setting.cfg, true, some auth⟩
    have whole : (pubKey ++ sig ++ data).take link.bufferLen = pubKey ++ sig ++ data :=
      List.take_of_length_le (le_of_eq fills)
    have delivered : (link.recvDatagram setting.ed (pubKey ++ sig ++ data)).1.filterMap MeshEvent.routed =
        [data] := by
      rw [MeshLink.recvDatagram_open_layout setting.ed setting.cfg true keySize sigSize (by omega) other
        unrevoked noCA signed]
      rfl
    let started := ({ init setting (some link) with
      mesh := some (link.recvDatagram setting.ed (pubKey ++ sig ++ data)).2 }).startRoute (Route.start none data)
    have first : (init setting (some link)).step setting (.meshDatagram (pubKey ++ sig ++ data)) =
        some started := by
      simp only [step, meshDatagram, init]
      rw [whole, delivered]
      rfl
    -- The dedup map is empty, so the call passes the check and adds the payload to the buffer.
    have lt : 0 < started.calls := Nat.one_pos
    have fresh := (@DedupFilter.isDuplicate_of_not_mem started.dedup (packetHash setting.sha data)
      (List.not_mem_nil _)).1
    have checked := @advance_checking setting started 0 lt rfl
    rw [show (started.routes 0).data = data from rfl, fresh] at checked
    obtain ⟨passed, checkedStep, passedStage, passedCalls, passedBuffer, passedData⟩ :
        ∃ passed : Daemon, started.advance setting 0 = some passed ∧
          (passed.routes 0).stage = .buffering ∧ passed.calls = 1 ∧ passed.buffer = started.buffer ∧
          (passed.routes 0).data = data :=
      ⟨_, checked, by simp [setRoute], rfl, rfl, by simp only [setRoute, Function.update_same]; rfl⟩
    have buffered := @advance_buffering setting passed 0 (by omega) passedStage
    refine ⟨{ passed.setRoute 0 { passed.routes 0 with stage := .locking } with
      buffer := passed.buffer.add (passed.routes 0).data }, ?_, ?_, by omega⟩
    · rw [run_cons, first, Option.some_bind, run_cons]
      show (started.advance setting 0).bind _ = _
      rw [checkedStep, Option.some_bind, run_cons]
      show (passed.advance setting 0).bind _ = _
      rw [buffered, Option.some_bind, run_nil]
    · -- The ring buffer was empty, so it holds the payload alone.
      have empty := PacketBuffer.new_holds setting.cfg.bufferSize.toNat
        (by have := setting.bufferSize_pos; omega)
      have room : ([] : List Bytes).length < (init setting (some link)).buffer.size := by
        have := setting.bufferSize_pos
        simp [init, PacketBuffer.new]
        omega
      simpa [passedBuffer, passedData] using (empty.add room data).getAll

/-- An open-mode relay configured with `MaxPacketSize = 1024` receives a 1184-byte datagram from
another relay: its 1088-byte payload reaches the ring buffer. -/
theorem mesh_payload_exceeds_maxPacketSize_at_1024 :
    let setting : Setting :=
      ⟨{ defaultConfig with maxPacketSize := 1024 }, Sha256.allZero, Ed25519.acceptAll, .w64, by decide⟩
    let auth := RelayAuth.openRelay 0
    (0 ≤ setting.cfg.maxPacketSize ∧ auth.caPubKey = none ∧
      (List.replicate 32 1 : Bytes).length = pubKeyLen ∧ (List.replicate 64 0 : Bytes).length = sigLen ∧
      (List.replicate 32 1 : Bytes) ≠ auth.publicKey ∧ hexEncode (List.replicate 32 1) ∉ auth.revokedKeys ∧
      setting.ed.verify (List.replicate 32 1) (List.replicate 1088 0) (List.replicate 64 0) = true ∧
      ((List.replicate 1088 0 : Bytes).length : Int) = setting.cfg.maxPacketSize + 64) ∧
    (∀ (router : Bool) (certified : RelayAuth) (datagram payload : Bytes), certified.hasCA = true →
      .routeFromMesh payload ∈ ((⟨setting.cfg, router, some certified⟩ : MeshLink).recvDatagram
        setting.ed (datagram.take (⟨setting.cfg, router, some certified⟩ : MeshLink).bufferLen)).1 →
      (payload.length : Int) ≤ setting.cfg.maxPacketSize) ∧
    (List.replicate 32 1 ++ List.replicate 64 0 ++ List.replicate 1088 0 : Bytes).length =
      (⟨setting.cfg, true, some auth⟩ : MeshLink).bufferLen ∧
    ∃ s, run setting (init setting (some ⟨setting.cfg, true, some auth⟩))
        [.meshDatagram (List.replicate 32 1 ++ List.replicate 64 0 ++ List.replicate 1088 0), .advance 0,
          .advance 0] = some s ∧
      s.buffer.getAll = [List.replicate 1088 0] ∧ setting.cfg.maxPacketSize < (List.replicate 1088 0 : Bytes).length :=
  ⟨⟨by decide, rfl, List.length_replicate 32 1, List.length_replicate 64 0, by decide, by simp [RelayAuth.openRelay],
      rfl, by rw [List.length_replicate]; decide⟩,
    mesh_payload_exceeds_maxPacketSize _ (by decide) rfl (List.length_replicate 32 1)
      (List.length_replicate 64 0) (by decide) (by simp [RelayAuth.openRelay]) rfl
      (by rw [List.length_replicate]; decide)⟩

end Daemon

end MeshRelay
