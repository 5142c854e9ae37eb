import MeshRelay.Client.Transport

/-! The transport over every interleaving of its threads: the `reconnecting` flag stands for
exactly one reconnect in flight, every delay is a back-off delay, and a transport left active
with no connection stays so, dropping what it is asked to send. -/

namespace MeshRelay

namespace Transport


variable {setting : ClientSetting} {t next : Transport} {outcome : Outcome} {pc pc' : Pc} {started : List Pc}

/-! ### Reconnects in flight -/

/-- Whether a thread holds the reconnect the flag stands for: it is between
`reconnecting.getAndSet(true)` and `schedule`, or a reconnect task before its
`reconnecting.set(false)`. -/
def Pc.holdsReconnect : Pc → Bool
  | .handleDisconnect _ .scheduleReconnect | .reconnect .clearFlag => true
  | _ => false

/-- No caller of `disconnect()` resumes holding a reconnect. -/
theorem resume_free (after : After) : after.resume.holdsReconnect = false := by
  cases after <;> rfl

/-- `readLoop` never goes anywhere holding a reconnect. -/
theorem dispatch_free (conn : Nat) (frame : Frame) : (dispatch setting conn frame).holdsReconnect = false := by
  unfold dispatch
  split
  · split
    · split <;> rfl
    · rfl
  · rfl

/-- A statement that leaves the reconnect machinery alone: the flag, the waiting tasks and the
delay stay as they were, and the thread neither takes nor starts one holding a reconnect. -/
structure KeepsReconnects (t next : Transport) (pc : Pc) (started : List Pc) : Prop where
  reconnecting : next.reconnecting = t.reconnecting
  scheduled : next.scheduled = t.scheduled
  reconnectDelay : next.reconnectDelay = t.reconnectDelay
  free : pc.holdsReconnect = false
  startsFree : ∀ thread ∈ started, thread.holdsReconnect = false

/-- `discoverAndConnect` leaves the reconnect machinery alone. -/
theorem discoverAndConnect_keeps {step : DiscoverStep} (stepped : t.discoverAndConnect outcome step = some (next, pc, started)) :
    KeepsReconnects t next pc started := by
  cases step <;> simp only [discoverAndConnect] at stepped <;> (repeat' split at stepped) <;> cases stepped <;>
    exact ⟨rfl, rfl, rfl, rfl, by decide⟩

/-- `connectAndRun` leaves the reconnect machinery alone. -/
theorem connectAndRun_keeps {conn : Nat} {step : ConnectStep}
    (stepped : t.connectAndRun setting outcome conn step = some (next, pc, started)) :
    KeepsReconnects t next pc started := by
  cases step <;> simp only [connectAndRun] at stepped <;> (repeat' split at stepped) <;> cases stepped <;>
    exact ⟨rfl, rfl, rfl, by first | rfl | exact dispatch_free _ _, by decide⟩

/-- `disconnect` leaves the reconnect machinery alone. -/
theorem disconnect_keeps {conn : Nat} {after : After} {step : DisconnectStep}
    (stepped : t.disconnect conn after step = (next, pc, started)) :
    KeepsReconnects t next pc started := by
  cases step <;> simp only [disconnect] at stepped <;> (repeat' split at stepped) <;> cases stepped <;>
    exact ⟨rfl, rfl, rfl, by first | rfl | exact resume_free _, by decide⟩

/-- `sendData` and `sendPing` leave the reconnect machinery alone. -/
theorem sendFrame_keeps {conn : Nat} {frame : Frame} {resume : Pc} {after : After}
    (stepped : t.sendFrame outcome conn frame resume after = some (next, pc, started)) (free : resume.holdsReconnect = false) :
    KeepsReconnects t next pc started := by
  unfold sendFrame at stepped
  (repeat' split at stepped) <;> cases stepped <;> exact ⟨rfl, rfl, rfl, by first | rfl | exact free, by decide⟩

/-- `keepaliveTask` leaves the reconnect machinery alone. -/
theorem keepaliveTask_keeps {step : KeepaliveStep} (stepped : t.keepaliveTask outcome step = some (next, pc, started)) :
    KeepsReconnects t next pc started := by
  cases step
  · simp only [keepaliveTask] at stepped
    split at stepped <;> cases stepped <;> exact ⟨rfl, rfl, rfl, rfl, by decide⟩
  · exact sendFrame_keeps stepped rfl

/-- `sendToPeer` leaves the reconnect machinery alone. -/
theorem sendToPeer_keeps {data : Bytes} {step : SendStep} (stepped : t.sendToPeer outcome data step = some (next, pc, started)) :
    KeepsReconnects t next pc started := by
  cases step
  · simp only [sendToPeer] at stepped
    split at stepped <;> cases stepped <;> exact ⟨rfl, rfl, rfl, rfl, by decide⟩
  · simp only [sendToPeer] at stepped
    split at stepped <;> cases stepped <;> exact ⟨rfl, rfl, rfl, rfl, by decide⟩
  · exact sendFrame_keeps stepped rfl

/-- `disconnectRelay` leaves the reconnect machinery alone. -/
theorem disconnectRelay_keeps {stopping : Bool} {step : RelayStep} (stepped : t.disconnectRelay stopping step = (next, pc, started)) :
    KeepsReconnects t next pc started := by
  cases step <;> simp only [disconnectRelay] at stepped <;> (repeat' split at stepped) <;> cases stepped <;>
    exact ⟨rfl, rfl, rfl, rfl, by decide⟩

/-- `stop` leaves the reconnect machinery alone. -/
theorem stop_keeps {step : StopStep} (stepped : t.stop step = (next, pc, started)) :
    KeepsReconnects t next pc started := by
  cases step <;> cases stepped <;> exact ⟨rfl, rfl, rfl, rfl, by decide⟩


/-- A delay the back-off can hold: the base delay doubled some number of times, capped at the
maximum. -/
def Backoff (delay : Nat) : Prop :=
  ∃ doublings, delay = min (WiFiMeshConfig.reconnectBaseDelayMs * 2 ^ doublings) WiFiMeshConfig.reconnectMaxDelayMs

/-- The delay `onAvailable` resets to. -/
theorem Backoff.base : Backoff WiFiMeshConfig.reconnectBaseDelayMs := ⟨0, rfl⟩

/-- `backOff` doubles a back-off delay into another, under the cap. -/
theorem Backoff.double {delay : Nat} (backoff : Backoff delay) :
    Backoff (min (delay * 2) WiFiMeshConfig.reconnectMaxDelayMs) := by
  obtain ⟨doublings, rfl⟩ := backoff
  refine ⟨doublings + 1, ?_⟩
  rw [pow_succ]
  simp only [WiFiMeshConfig.reconnectBaseDelayMs, WiFiMeshConfig.reconnectMaxDelayMs]
  omega

/-- What one statement does to the reconnect machinery: the reconnects in flight, counted with
the flag, balance, and every delay stays a back-off delay. -/
theorem exec_reconnect (stepped : exec setting t outcome pc = some (next, pc', started))
    (held : pc.holdsReconnect = true → t.reconnecting = true) (delay : Backoff t.reconnectDelay)
    (delays : ∀ d ∈ t.scheduled, Backoff d) :
    next.scheduled.length + (if pc'.holdsReconnect then 1 else 0) + started.countP (·.holdsReconnect) +
        (if t.reconnecting then 1 else 0) =
      t.scheduled.length + (if pc.holdsReconnect then 1 else 0) + (if next.reconnecting then 1 else 0) ∧
    Backoff next.reconnectDelay ∧ ∀ d ∈ next.scheduled, Backoff d := by
  -- A statement that leaves the machinery alone keeps all three.
  have kept : KeepsReconnects t next pc' started → pc.holdsReconnect = false →
      next.scheduled.length + (if pc'.holdsReconnect then 1 else 0) + started.countP (·.holdsReconnect) +
          (if t.reconnecting then 1 else 0) =
        t.scheduled.length + (if pc.holdsReconnect then 1 else 0) + (if next.reconnecting then 1 else 0) ∧
      Backoff next.reconnectDelay ∧ ∀ d ∈ next.scheduled, Backoff d := by
    rintro ⟨flag, waiting, delay', free, startsFree⟩ idle
    rw [flag, waiting, delay', free, idle, List.countP_eq_zero.mpr fun thread member => by simp [startsFree thread member]]
    exact ⟨rfl, delay, delays⟩
  cases pc with
  | done | returned _ => cases stepped
  | onAvailable step =>
    cases step <;> cases stepped
    · exact ⟨rfl, Backoff.base, delays⟩
    · exact kept ⟨rfl, rfl, rfl, rfl, by decide⟩ rfl
  | discoverAndConnect step => exact kept (discoverAndConnect_keeps stepped) rfl
  | connectAndRun conn step => exact kept (connectAndRun_keeps stepped) rfl
  | disconnect conn after step => exact kept (disconnect_keeps (Option.some.inj stepped)) rfl
  | handleDisconnect after step =>
    cases step <;> simp only [exec, handleDisconnect, Option.some.injEq] at stepped
    case claimReconnect =>
      split at stepped
      · cases stepped
        exact kept ⟨rfl, rfl, rfl, resume_free after, by decide⟩ rfl
      · -- The thread takes the reconnect the flag now stands for.
        rename_i flag
        cases stepped
        exact ⟨by simp [flag, Pc.holdsReconnect], delay, delays⟩
    case scheduleReconnect =>
      cases stepped
      refine ⟨by simp [Pc.holdsReconnect], delay, fun d member => ?_⟩
      rcases List.mem_append.mp member with old | now
      · exact delays d old
      · rw [List.mem_singleton.mp now]
        exact delay
    case backOff =>
      cases stepped
      exact ⟨by simp only [resume_free]; rfl, delay.double, delays⟩
    all_goals
      (repeat' split at stepped) <;> cases stepped <;>
        exact kept ⟨rfl, rfl, rfl, by first | rfl | exact resume_free after, by decide⟩ rfl
  | reconnect step =>
    cases step <;> cases stepped
    · exact ⟨by simp [held rfl, Pc.holdsReconnect], delay, delays⟩
    · exact kept ⟨rfl, rfl, rfl, rfl, by split <;> decide⟩ rfl
  | keepalive step => exact kept (keepaliveTask_keeps stepped) rfl
  | sendToPeer data step => exact kept (sendToPeer_keeps stepped) rfl
  | disconnectRelay stopping step => exact kept (disconnectRelay_keeps (Option.some.inj stepped)) rfl
  | stop step => exact kept (stop_keeps (Option.some.inj stepped)) rfl


/-- The reconnects in flight: the tasks waiting in `scheduler`, and the threads holding one. -/
def reconnectsInFlight (t : Transport) : Nat :=
  t.scheduled.length + t.threads.countP (·.holdsReconnect)

/-- The reconnect machinery's invariant: one reconnect is in flight exactly when the flag is
set, and every delay is a back-off delay. -/
structure ReconnectInv (t : Transport) : Prop where
  balance : t.reconnectsInFlight = if t.reconnecting then 1 else 0
  delay : Backoff t.reconnectDelay
  delays : ∀ d ∈ t.scheduled, Backoff d

/-- The invariant survives a change that leaves the machinery alone and starts no thread holding
a reconnect. -/
theorem ReconnectInv.frame (inv : t.ReconnectInv) (flag : next.reconnecting = t.reconnecting)
    (waiting : next.scheduled = t.scheduled) (delay : next.reconnectDelay = t.reconnectDelay)
    {started : List Pc} (threads : next.threads = t.threads ++ started)
    (free : ∀ thread ∈ started, thread.holdsReconnect = false) : next.ReconnectInv := by
  refine ⟨?_, delay ▸ inv.delay, waiting ▸ inv.delays⟩
  have fresh : started.countP (·.holdsReconnect) = 0 :=
    List.countP_eq_zero.mpr fun thread member => by simp [free thread member]
  rw [reconnectsInFlight, threads, List.countP_append, fresh, waiting, flag, ← inv.balance]
  rfl

/-- Every step keeps the invariant. -/
theorem step_reconnectInv (inv : t.ReconnectInv) {action : Action} (stepped : t.step setting action = some next) :
    next.ReconnectInv := by
  cases action with
  | event event =>
    cases event
    case reconnectDue task =>
      -- A waiting task comes due: its thread holds the reconnect until it clears the flag.
      simp only [step, Event.fire] at stepped
      split at stepped
      · rename_i due
        cases stepped
        refine ⟨?_, inv.delay, fun d member => inv.delays d (List.mem_of_mem_eraseIdx member)⟩
        have balance := inv.balance
        unfold reconnectsInFlight at balance
        have holding : [Pc.reconnect .clearFlag].countP (·.holdsReconnect) = 1 := rfl
        show (t.scheduled.eraseIdx task).length + (t.threads ++ [Pc.reconnect .clearFlag]).countP (·.holdsReconnect) =
          if t.reconnecting then 1 else 0
        rw [List.length_eraseIdx_of_lt due, List.countP_append, holding, ← balance]
        omega
      · cases stepped
    all_goals
      simp only [step, Event.fire] at stepped
      (repeat' split at stepped) <;> cases stepped <;> exact inv.frame rfl rfl rfl rfl (by simp [Pc.holdsReconnect])
  | run thread outcome =>
    simp only [step] at stepped
    split at stepped
    · cases stepped
    rename_i pc found
    obtain ⟨⟨next', pc', started⟩, executed, rfl⟩ := Option.map_eq_some'.mp stepped
    obtain ⟨bound, rfl⟩ := List.getElem?_eq_some.mp found
    have before := List.boole_getElem_le_countP (·.holdsReconnect) t.threads thread bound
    have balance := inv.balance
    unfold reconnectsInFlight at balance
    -- A thread holding a reconnect means the flag is set.
    have held : t.threads[thread].holdsReconnect = true → t.reconnecting = true := fun holds => by
      rw [if_pos holds] at before
      by_contra unset
      rw [if_neg unset] at balance
      omega
    obtain ⟨moved, delay, delays⟩ := exec_reconnect executed held inv.delay inv.delays
    refine ⟨?_, delay, delays⟩
    simp only [reconnectsInFlight, List.countP_append, List.countP_set _ _ _ _ bound]
    omega

/-- Every run keeps the invariant. -/
theorem run_reconnectInv : ∀ {actions : List Action} {t next : Transport}, t.ReconnectInv →
    run setting t actions = some next → next.ReconnectInv
  | [], _, _, inv, ran => by
    cases ran
    exact inv
  | _ :: _, _, _, inv, ran => by
    obtain ⟨_, stepped, continued⟩ := Option.bind_eq_some.mp ran
    exact run_reconnectInv (step_reconnectInv inv stepped) continued

/-- The constructor starts with the invariant. -/
theorem init_reconnectInv : init.ReconnectInv :=
  ⟨rfl, Backoff.base, fun _ member => by cases member⟩

/-! ### A race between the keepalive and the connection thread -/

/-- A phone whose own ID is `"me"` and whose every packet decodes to sender `"peer"`. -/
def raceSetting : ClientSetting := ⟨"me", fun _ => some "peer"⟩

/-- `start()` on WiFi; the connection thread (thread 0) connects and reads two DATA packets, and
is about to set `isActive` for the second when the keepalive task (thread 1) fails to write its
PING and runs `disconnect()` and `handleDisconnect` to the end, scheduling a reconnect. Thread 0
then sets `isActive` and leaves its loop, whose `disconnect()` returns at once. The reconnect
task (thread 2) resubmits `discoverAndConnect` (thread 3), whose discovery finds no relay. -/
def pingRace : List Action :=
  [.event (.start true)] ++
  List.replicate 8 (.run 0 .returns) ++ [.run 0 (.reads ⟨WiFiMeshConfig.frameData, [1]⟩)] ++
  List.replicate 4 (.run 0 .returns) ++ [.run 0 (.reads ⟨WiFiMeshConfig.frameData, [2]⟩), .run 0 .returns] ++
  [.event (.keepaliveDue 0), .run 1 .returns, .run 1 .throws] ++ List.replicate 11 (.run 1 .returns) ++
  List.replicate 4 (.run 0 .returns) ++
  [.event (.reconnectDue 0), .run 2 .returns, .run 2 .returns, .run 3 .returns, .run 3 .returns, .run 3 .throws]

/-! ### Over every interleaving -/

/-- The `reconnecting` flag admits one reconnect at a time. In every reachable state, whatever the
interleaving of the network callbacks, the connection threads, the keepalive and reconnect tasks
and the sends, the reconnect tasks waiting in `scheduler`, with the threads between
`reconnecting.getAndSet(true)` and `schedule` and the reconnect tasks that have not yet run
`reconnecting.set(false)`, number one when the flag is set and none when it is clear: so at
most one reconnect task ever waits. -/
theorem reconnect_single_flight (setting : ClientSetting) (t : Transport) (reachable : t.Reachable setting) :
    t.reconnectsInFlight = (if t.reconnecting then 1 else 0) ∧ t.scheduled.length ≤ 1 := by
  obtain ⟨actions, ran⟩ := reachable
  have balance := (run_reconnectInv init_reconnectInv ran).balance
  refine ⟨balance, ?_⟩
  unfold reconnectsInFlight at balance
  split at balance <;> omega

/-- The ping race until the reconnect task comes due: the keepalive's `handleDisconnect` has
scheduled one reconnect at the base delay and doubled the delay, and the connection thread has
left its loop. -/
theorem reconnect_single_flight_in_ping_race :
    let t := (run raceSetting init (pingRace.take 34)).getD init
    t.Reachable raceSetting ∧ t.reconnecting = true ∧ t.scheduled = [2000] ∧
      t.reconnectsInFlight = (if t.reconnecting then 1 else 0) ∧ t.scheduled.length ≤ 1 :=
  ⟨⟨pingRace.take 34, by decide⟩, by decide, by decide,
    reconnect_single_flight raceSetting _ ⟨pingRace.take 34, by decide⟩⟩

/-- The reconnect delay backs off as `handleDisconnect` says: in every reachable state the delay,
and the delay of every reconnect task waiting in `scheduler`, is `RECONNECT_BASE_DELAY_MS`
doubled some number of times and capped at `RECONNECT_MAX_DELAY_MS`, however `onAvailable`'s
reset interleaves with the doubling. -/
theorem reconnect_delay_backoff (setting : ClientSetting) (t : Transport) (reachable : t.Reachable setting) :
    (∃ doublings, t.reconnectDelay =
      min (WiFiMeshConfig.reconnectBaseDelayMs * 2 ^ doublings) WiFiMeshConfig.reconnectMaxDelayMs) ∧
    ∀ delay ∈ t.scheduled, ∃ doublings,
      delay = min (WiFiMeshConfig.reconnectBaseDelayMs * 2 ^ doublings) WiFiMeshConfig.reconnectMaxDelayMs := by
  obtain ⟨actions, ran⟩ := reachable
  have inv := run_reconnectInv init_reconnectInv ran
  exact ⟨inv.delay, inv.delays⟩

/-- The ping race until the reconnect task comes due: the waiting task has the base delay, and
the delay has doubled once. -/
theorem reconnect_delay_backoff_in_ping_race :
    let t := (run raceSetting init (pingRace.take 34)).getD init
    t.Reachable raceSetting ∧ t.scheduled = [2000] ∧ t.reconnectDelay = 4000 ∧
    (∃ doublings, t.reconnectDelay =
      min (WiFiMeshConfig.reconnectBaseDelayMs * 2 ^ doublings) WiFiMeshConfig.reconnectMaxDelayMs) ∧
    ∀ delay ∈ t.scheduled, ∃ doublings,
      delay = min (WiFiMeshConfig.reconnectBaseDelayMs * 2 ^ doublings) WiFiMeshConfig.reconnectMaxDelayMs :=
  ⟨⟨pingRace.take 34, by decide⟩, by decide, by decide,
    reconnect_delay_backoff raceSetting _ ⟨pingRace.take 34, by decide⟩⟩

/-! ### Active with no connection -/

/-- Where a thread may be once the transport is stale: finished, or a send or keepalive task that
has not yet read `connection`. -/
def Pc.idleOrSending : Pc → Bool
  | .done | .returned true | .sendToPeer _ .checkActive | .sendToPeer _ .sendData | .keepalive .ping => true
  | _ => false

/-- The transport reports itself active with no connection behind it and nothing left to
reconnect it: no reconnect task waits, and every thread has finished or is a send or keepalive
that has not reached `connection`. -/
structure Stale (t : Transport) : Prop where
  active : t.isActive = true
  unconnected : t.connection = none
  noReconnect : t.scheduled = []
  threads : ∀ pc ∈ t.threads, pc.idleOrSending = true

/-- A step that is neither a network callback nor `start()` or `stop()`: `TransportManager`
sending, a keepalive or reconnect task coming due, or a thread's next statement. -/
def Action.fromInside : Action → Bool
  | .event (.send _) | .event (.keepaliveDue _) | .event (.reconnectDue _) | .run _ _ => true
  | _ => false

/-- A stale transport stays stale through every step from inside, and writes nothing. -/
theorem Stale.stays (stale : t.Stale) {action : Action} (inside : action.fromInside = true)
    (stepped : t.step setting action = some next) : next.Stale ∧ next.relays = t.relays := by
  obtain ⟨active, unconnected, noReconnect, threads⟩ := stale
  cases action with
  | event event =>
    -- A send or a keepalive starts a thread that has not read `connection`; no reconnect waits.
    have spawned : ∀ started : Pc, started.idleOrSending = true →
        { t with threads := t.threads ++ [started] }.Stale ∧ { t with threads := t.threads ++ [started] }.relays = t.relays :=
      fun started idle => ⟨⟨active, unconnected, noReconnect, fun pc member =>
        (List.mem_append.mp member).elim (threads pc) fun new => by rw [List.mem_singleton.mp new]; exact idle⟩, rfl⟩
    cases event
    case send data =>
      cases stepped
      exact spawned _ rfl
    case keepaliveDue future =>
      simp only [step, Event.fire] at stepped
      split at stepped <;> cases stepped
      exact spawned _ rfl
    case reconnectDue task =>
      simp only [step, Event.fire, noReconnect] at stepped
      cases stepped
    all_goals exact absurd inside Bool.false_ne_true
  | run thread outcome =>
    simp only [step] at stepped
    split at stepped
    · cases stepped
    rename_i pc found
    obtain ⟨⟨next', pc', started⟩, executed, rfl⟩ := Option.map_eq_some'.mp stepped
    have idle := threads pc (List.getElem?_mem found)
    -- Each thread still running reads a set `isActive` or a null `connection`, and moves on alone.
    have moved : next' = t ∧ pc'.idleOrSending = true ∧ started = [] := by
      cases pc
      case done | returned => cases executed
      case sendToPeer data step =>
        cases step
        case checkActive =>
          simp only [exec, sendToPeer, active, if_true, Option.some.injEq] at executed
          cases executed
          exact ⟨rfl, rfl, rfl⟩
        case sendData =>
          simp only [exec, sendToPeer, unconnected, Option.some.injEq] at executed
          cases executed
          exact ⟨rfl, rfl, rfl⟩
        case sendOn => exact absurd idle Bool.false_ne_true
      case keepalive step =>
        cases step
        case ping =>
          simp only [exec, keepaliveTask, unconnected, Option.some.injEq] at executed
          cases executed
          exact ⟨rfl, rfl, rfl⟩
        case sendPing => exact absurd idle Bool.false_ne_true
      all_goals exact absurd idle Bool.false_ne_true
    obtain ⟨rfl, idle', rfl⟩ := moved
    refine ⟨⟨active, unconnected, noReconnect, fun pc member => ?_⟩, rfl⟩
    rw [List.append_nil] at member
    rcases List.mem_or_eq_of_mem_set member with old | now
    · exact threads pc old
    · rw [now]
      exact idle'


/-- A stale transport stays stale through every run from inside, and writes nothing. -/
theorem run_stale : ∀ {actions : List Action} {t next : Transport}, t.Stale →
    (∀ action ∈ actions, action.fromInside = true) → run setting t actions = some next →
    next.Stale ∧ next.relays = t.relays
  | [], _, _, stale, _, ran => by
    cases ran
    exact ⟨stale, rfl⟩
  | action :: rest, _, _, stale, inside, ran => by
    obtain ⟨_, stepped, continued⟩ := Option.bind_eq_some.mp ran
    obtain ⟨stale', same⟩ := stale.stays (inside action (List.mem_cons_self _ _)) stepped
    obtain ⟨stale'', same'⟩ := run_stale stale' (fun a member => inside a (List.mem_cons_of_mem _ member)) continued
    exact ⟨stale'', same'.trans same⟩

/-- Once the transport is active with no connection and nothing left to reconnect it, only a
network callback, `start()` or `stop()` changes that: through every run of sends, keepalive and
reconnect tasks and thread steps, `isActive` stays set and `connection` null, no frame is written
on any `RelayConnection`, and every `sendToPeer` that returns reports success. -/
theorem stale_transport_swallows_sends (setting : ClientSetting) (t : Transport) (stale : t.Stale) (actions : List Action) (inside : ∀ action ∈ actions, action.fromInside = true)
    (next : Transport) (ran : run setting t actions = some next) :
    next.isActive = true ∧ next.connection = none ∧ next.relays = t.relays ∧
      ∀ pc ∈ next.threads, pc ≠ .returned false := by
  obtain ⟨⟨active, unconnected, -, threads⟩, same⟩ := run_stale stale inside ran
  exact ⟨active, unconnected, same, fun pc member returned => by
    have := threads pc member
    rw [returned] at this
    exact Bool.false_ne_true this⟩

/-- `TransportManager` sends a packet after the race; thread 4 runs `sendToPeer`. -/
def sendAfterRace : List Action :=
  [.event (.send [9]), .run 4 .returns, .run 4 .returns]

/-- The race leaves the transport stale in a reachable state, and the packet sent after it is
reported sent and written nowhere. -/
theorem stale_transport_after_ping_race :
    ((run raceSetting init pingRace).getD init).Reachable raceSetting ∧
    ((run raceSetting ((run raceSetting init pingRace).getD init) sendAfterRace).getD init).isActive = true ∧
    ((run raceSetting ((run raceSetting init pingRace).getD init) sendAfterRace).getD init).connection = none ∧
    ((run raceSetting ((run raceSetting init pingRace).getD init) sendAfterRace).getD init).relays =
      ((run raceSetting init pingRace).getD init).relays ∧
    ∀ pc ∈ ((run raceSetting ((run raceSetting init pingRace).getD init) sendAfterRace).getD init).threads,
      pc ≠ .returned false :=
  ⟨⟨pingRace, by decide⟩, stale_transport_swallows_sends raceSetting _ ⟨by decide, by decide, by decide, by decide⟩
    sendAfterRace (by decide) _ (by decide)⟩

end Transport

end MeshRelay
