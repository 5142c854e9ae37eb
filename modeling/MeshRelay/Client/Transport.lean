import MeshRelay.Wire.Frame

/-! The Android client's WiFi mesh transport: `WiFiMeshTransport`, the `RelayConnection`s it opens
and the tasks it hands to its executor and scheduler, with each statement that reads or writes
shared state one step of the thread running it. -/

namespace MeshRelay

/-! ### Objects -/

/-- The fields of a `RelayConnection` its methods test and set: `connected`, whether `socket` and
`output` are set, and the frames `sendData` and `sendPing` have written. -/
structure RelayConnection where
  connected : Bool
  socket : Bool
  output : Bool
  sent : List Frame
  deriving DecidableEq

/-- A `RelayConnection` just constructed. -/
def RelayConnection.new : RelayConnection :=
  ⟨false, false, false, []⟩

/-- What the transport runs with: `myPeerID`, and `BinaryProtocol.decode` read down to the
sender's hex ID, `none` when the packet does not decode. -/
structure ClientSetting where
  myPeerID : String
  senderOf : Bytes → Option String

namespace Transport

/-! ### Where threads are -/

/-- What the caller of `RelayConnection.disconnect()` does once it returns. -/
inductive After where
  /-- The thread ends: `connectAndRun`'s `finally`, or the keepalive task after `sendPing`. -/
  | exit
  /-- `sendData` returns, and `sendToPeer` returns true. -/
  | sendReturns
  /-- `disconnectRelay()` goes on; `stopping` when `stop()` called it. -/
  | relay (stopping : Bool)
  deriving DecidableEq

/-- A statement of the network callback's `onAvailable`. -/
inductive AvailableStep where
  /-- `reconnectDelay = RECONNECT_BASE_DELAY_MS`. -/
  | resetDelay
  /-- `executor.submit { discoverAndConnect() }`. -/
  | submit
  deriving DecidableEq

/-- A statement of `discoverAndConnect` and of the `connectToRelay` it calls. -/
inductive DiscoverStep where
  /-- `if (!started.get()) return`. -/
  | checkStarted
  /-- `if (connection?.isConnected == true) return`. -/
  | checkConnected
  /-- `RelayDiscovery.discover`, then `connectToRelay`'s `connection = relay`. -/
  | probe
  deriving DecidableEq

/-- A statement of `connectAndRun` on one connection, of its `readLoop`, and of the
`handleIncomingData` that `readLoop` calls. -/
inductive ConnectStep where
  /-- `socket = sslSocket`. -/
  | openSocket
  /-- TCP connect, TLS handshake and `output = out`. -/
  | connectTls
  /-- `performHandshake`. -/
  | handshake
  /-- `connected = true`. -/
  | markConnected
  /-- `while (connected)`. -/
  | readLoop
  /-- `readFrame`, and for DATA `handleIncomingData`'s decode and own-ID check. -/
  | readFrame
  /-- `reachablePeers.add(senderIDHex)`. -/
  | addPeer (sender : String)
  /-- `_isActive.set(true)`. -/
  | setActive
  /-- `startKeepaliveIfNeeded()`. -/
  | startKeepalive
  deriving DecidableEq

/-- A statement of `RelayConnection.disconnect()`. -/
inductive DisconnectStep where
  /-- `if (!connected && socket == null) return`. -/
  | check
  /-- `connected = false`. -/
  | markDisconnected
  /-- `socket?.close()` and `socket = null`. -/
  | closeSocket
  /-- `output = null`, then `onDisconnected()`. -/
  | clearOutput
  deriving DecidableEq

/-- A statement of `handleDisconnect`, the connection's `onDisconnected`. -/
inductive HandleStep where
  /-- `_isActive.set(false)`. -/
  | deactivate
  /-- `keepaliveFuture?.cancel(false)` and `keepaliveFuture = null`. -/
  | dropKeepalive
  /-- `connection = null`. -/
  | dropConnection
  /-- `if (!started.get()) return`. -/
  | checkStarted
  /-- `if (reconnecting.getAndSet(true)) return`. -/
  | claimReconnect
  /-- `scheduler.schedule(…, reconnectDelay, …)`. -/
  | scheduleReconnect
  /-- `reconnectDelay = (reconnectDelay * 2).coerceAtMost(RECONNECT_MAX_DELAY_MS)`. -/
  | backOff
  deriving DecidableEq

/-- A statement of the reconnect task `handleDisconnect` schedules. -/
inductive ReconnectStep where
  /-- `reconnecting.set(false)`. -/
  | clearFlag
  /-- `if (started.get()) executor.submit { discoverAndConnect() }`. -/
  | resubmit
  deriving DecidableEq

/-- A statement of the keepalive task. -/
inductive KeepaliveStep where
  /-- `connection?.sendPing()`. -/
  | ping
  /-- `sendPing()` on connection `conn`. -/
  | sendPing (conn : Nat)
  deriving DecidableEq

/-- A statement of `sendToPeer`. -/
inductive SendStep where
  /-- `if (!isActive) return false`. -/
  | checkActive
  /-- `connection?.sendData(data)`. -/
  | sendData
  /-- `sendData(data)` on connection `conn`. -/
  | sendOn (conn : Nat)
  deriving DecidableEq

/-- A statement of `disconnectRelay`. -/
inductive RelayStep where
  /-- `_isActive.set(false)`. -/
  | deactivate
  /-- `keepaliveFuture?.cancel(false)` and `keepaliveFuture = null`. -/
  | dropKeepalive
  /-- `connection?.disconnect()`. -/
  | disconnect
  /-- `connection = null`. -/
  | dropConnection
  /-- `reachablePeers.clear()`. -/
  | clearPeers
  deriving DecidableEq

/-- A statement of `stop()` after its `disconnectRelay()`. -/
inductive StopStep where
  /-- `keepaliveFuture?.cancel(false)`. -/
  | cancelKeepalive
  /-- `reachablePeers.clear()`. -/
  | clearPeers
  deriving DecidableEq

/-- Where a thread is in the transport's code: the method and its next statement. -/
inductive Pc where
  /-- The thread has finished. -/
  | done
  /-- `sendToPeer` has returned `value`. -/
  | returned (value : Bool)
  | onAvailable (step : AvailableStep)
  | discoverAndConnect (step : DiscoverStep)
  | connectAndRun (conn : Nat) (step : ConnectStep)
  | disconnect (conn : Nat) (after : After) (step : DisconnectStep)
  | handleDisconnect (after : After) (step : HandleStep)
  | reconnect (step : ReconnectStep)
  | keepalive (step : KeepaliveStep)
  | sendToPeer (data : Bytes) (step : SendStep)
  | disconnectRelay (stopping : Bool) (step : RelayStep)
  | stop (step : StopStep)
  deriving DecidableEq

/-- Where the caller of `disconnect()` resumes. -/
def After.resume : After → Pc
  | .exit => .done
  | .sendReturns => .returned true
  | .relay stopping => .disconnectRelay stopping .dropConnection

/-- What the call a statement makes does: return normally (discovery finds a relay), throw
(discovery finds none), or, for `readFrame`, return a frame. -/
inductive Outcome where
  | returns
  | throws
  | reads (frame : Frame)
  deriving DecidableEq

end Transport

open Transport in
/-- The fields of `WiFiMeshTransport` its methods use (`registered` is `networkCallback != null`,
and `connection` and `keepaliveFuture` name objects below), with the objects it made: every
`RelayConnection` constructed so far, every keepalive task with whether it is not cancelled, the
delays of the reconnect tasks waiting in `scheduler`, and the threads running its code. -/
structure Transport where
  started : Bool
  registered : Bool
  isActive : Bool
  connection : Option Nat
  keepaliveFuture : Option Nat
  reconnectDelay : Nat
  reconnecting : Bool
  reachablePeers : List String
  relays : List RelayConnection
  futures : List Bool
  scheduled : List Nat
  threads : List Pc
  deriving DecidableEq

namespace Transport

/-- The state the constructor leaves. -/
def init : Transport where
  started := false
  registered := false
  isActive := false
  connection := none
  keepaliveFuture := none
  reconnectDelay := WiFiMeshConfig.reconnectBaseDelayMs
  reconnecting := false
  reachablePeers := []
  relays := []
  futures := []
  scheduled := []
  threads := []

/-- `RelayConnection` `conn`. -/
def relay (t : Transport) (conn : Nat) : RelayConnection :=
  t.relays.getD conn .new

/-- The state with `RelayConnection` `conn` changed by `f`. -/
def modifyRelay (t : Transport) (conn : Nat) (f : RelayConnection → RelayConnection) : Transport :=
  { t with relays := t.relays.set conn (f (t.relay conn)) }

/-- `keepaliveFuture?.cancel(false)`. -/
def cancelKeepalive (t : Transport) : Transport :=
  { t with
    futures :=
      match t.keepaliveFuture with
      | some future => t.futures.set future false
      | none => t.futures }

/-! ### One statement of each method

Each returns the state after the statement, where the thread goes next, and the threads the
statement starts; the statements whose call may throw take its `outcome`, and give `none` for
an outcome the call cannot have. -/

/-- `onAvailable`. -/
def onAvailable (t : Transport) : AvailableStep → Transport × Pc × List Pc
  | .resetDelay => ({ t with reconnectDelay := WiFiMeshConfig.reconnectBaseDelayMs }, .onAvailable .submit, [])
  | .submit => (t, .done, [.discoverAndConnect .checkStarted])

/-- `discoverAndConnect` and `connectToRelay`. -/
def discoverAndConnect (t : Transport) (outcome : Outcome) : DiscoverStep → Option (Transport × Pc × List Pc)
  | .checkStarted => some (t, if t.started then .discoverAndConnect .checkConnected else .done, [])
  | .checkConnected =>
    some (t, if t.connection.any fun conn => (t.relay conn).connected then .done else .discoverAndConnect .probe, [])
  | .probe =>
    match outcome with
    | .returns =>
      some ({ t with relays := t.relays ++ [.new], connection := some t.relays.length },
        .connectAndRun t.relays.length .openSocket, [])
    | .throws => some (t, .done, [])
    | .reads _ => none

/-- Where `readLoop` goes with a frame it read: into `handleIncomingData` with a DATA packet that
decodes to another peer's, and back to the loop with anything else. -/
def dispatch (setting : ClientSetting) (conn : Nat) (frame : Frame) : Pc :=
  if frame.type = WiFiMeshConfig.frameData then
    match setting.senderOf frame.payload with
    | some sender =>
      if sender = setting.myPeerID then .connectAndRun conn .readLoop else .connectAndRun conn (.addPeer sender)
    | none => .connectAndRun conn .readLoop
  else .connectAndRun conn .readLoop

/-- `connectAndRun(host)` on connection `conn`, its `readLoop` and `handleIncomingData`; an
exception goes to the `finally`'s `disconnect()`. -/
def connectAndRun (setting : ClientSetting) (t : Transport) (outcome : Outcome) (conn : Nat) :
    ConnectStep → Option (Transport × Pc × List Pc)
  | .openSocket => some (t.modifyRelay conn ({ · with socket := true }), .connectAndRun conn .connectTls, [])
  | .connectTls =>
    match outcome with
    | .returns => some (t.modifyRelay conn ({ · with output := true }), .connectAndRun conn .handshake, [])
    | .throws => some (t, .disconnect conn .exit .check, [])
    | .reads _ => none
  | .handshake =>
    match outcome with
    | .returns => some (t, .connectAndRun conn .markConnected, [])
    | .throws => some (t, .disconnect conn .exit .check, [])
    | .reads _ => none
  | .markConnected => some (t.modifyRelay conn ({ · with connected := true }), .connectAndRun conn .readLoop, [])
  | .readLoop =>
    some (t, if (t.relay conn).connected then .connectAndRun conn .readFrame else .disconnect conn .exit .check, [])
  | .readFrame =>
    match outcome with
    | .reads frame => some (t, dispatch setting conn frame, [])
    | .throws => some (t, .disconnect conn .exit .check, [])
    | .returns => none
  | .addPeer sender =>
    some ({ t with reachablePeers := t.reachablePeers.insert sender }, .connectAndRun conn .setActive, [])
  | .setActive => some ({ t with isActive := true }, .connectAndRun conn .startKeepalive, [])
  | .startKeepalive =>
    match t.keepaliveFuture with
    | some _ => some (t, .connectAndRun conn .readLoop, [])
    | none =>
      some ({ t with futures := t.futures ++ [true], keepaliveFuture := some t.futures.length },
        .connectAndRun conn .readLoop, [])

/-- `RelayConnection.disconnect()` on connection `conn`, whose `onDisconnected` is
`handleDisconnect`. -/
def disconnect (t : Transport) (conn : Nat) (after : After) : DisconnectStep → Transport × Pc × List Pc
  | .check =>
    (t, if !(t.relay conn).connected && !(t.relay conn).socket then after.resume
      else .disconnect conn after .markDisconnected, [])
  | .markDisconnected => (t.modifyRelay conn ({ · with connected := false }), .disconnect conn after .closeSocket, [])
  | .closeSocket => (t.modifyRelay conn ({ · with socket := false }), .disconnect conn after .clearOutput, [])
  | .clearOutput => (t.modifyRelay conn ({ · with output := false }), .handleDisconnect after .deactivate, [])

/-- `handleDisconnect`. -/
def handleDisconnect (t : Transport) (after : After) : HandleStep → Transport × Pc × List Pc
  | .deactivate => ({ t with isActive := false }, .handleDisconnect after .dropKeepalive, [])
  | .dropKeepalive => ({ t.cancelKeepalive with keepaliveFuture := none }, .handleDisconnect after .dropConnection, [])
  | .dropConnection => ({ t with connection := none }, .handleDisconnect after .checkStarted, [])
  | .checkStarted => (t, if t.started then .handleDisconnect after .claimReconnect else after.resume, [])
  | .claimReconnect =>
    if t.reconnecting then (t, after.resume, [])
    else ({ t with reconnecting := true }, .handleDisconnect after .scheduleReconnect, [])
  | .scheduleReconnect => ({ t with scheduled := t.scheduled ++ [t.reconnectDelay] }, .handleDisconnect after .backOff, [])
  | .backOff =>
    ({ t with reconnectDelay := min (t.reconnectDelay * 2) WiFiMeshConfig.reconnectMaxDelayMs }, after.resume, [])

/-- The reconnect task. -/
def reconnectTask (t : Transport) : ReconnectStep → Transport × Pc × List Pc
  | .clearFlag => ({ t with reconnecting := false }, .reconnect .resubmit, [])
  | .resubmit => (t, .done, if t.started then [.discoverAndConnect .checkStarted] else [])

/-- `sendData` and `sendPing` on connection `conn`: `val out = output ?: return`, then write
`frame`, and `disconnect()` on an `IOException`; the caller resumes at `resume`, or through
`after` once `disconnect()` returns. -/
def sendFrame (t : Transport) (outcome : Outcome) (conn : Nat) (frame : Frame) (resume : Pc) (after : After) :
    Option (Transport × Pc × List Pc) :=
  if !(t.relay conn).output then some (t, resume, [])
  else
    match outcome with
    | .returns => some (t.modifyRelay conn fun r => { r with sent := r.sent ++ [frame] }, resume, [])
    | .throws => some (t, .disconnect conn after .check, [])
    | .reads _ => none

/-- `sendData(data)`, called by `sendToPeer`, which then returns true. -/
def sendData (t : Transport) (outcome : Outcome) (conn : Nat) (data : Bytes) : Option (Transport × Pc × List Pc) :=
  t.sendFrame outcome conn ⟨WiFiMeshConfig.frameData, data⟩ (.returned true) .sendReturns

/-- `sendPing()`, called by the keepalive task, which then ends. -/
def sendPing (t : Transport) (outcome : Outcome) (conn : Nat) : Option (Transport × Pc × List Pc) :=
  t.sendFrame outcome conn ⟨WiFiMeshConfig.framePing, []⟩ .done .exit

/-- The keepalive task: `connection?.sendPing()`. -/
def keepaliveTask (t : Transport) (outcome : Outcome) : KeepaliveStep → Option (Transport × Pc × List Pc)
  | .ping =>
    match t.connection with
    | some conn => some (t, .keepalive (.sendPing conn), [])
    | none => some (t, .done, [])
  | .sendPing conn => t.sendPing outcome conn

/-- `sendToPeer(peerID, routed)` with the packet already encoded as `data`. -/
def sendToPeer (t : Transport) (outcome : Outcome) (data : Bytes) : SendStep → Option (Transport × Pc × List Pc)
  | .checkActive => some (t, if t.isActive then .sendToPeer data .sendData else .returned false, [])
  | .sendData =>
    match t.connection with
    | some conn => some (t, .sendToPeer data (.sendOn conn), [])
    | none => some (t, .returned true, [])
  | .sendOn conn => t.sendData outcome conn data

/-- `disconnectRelay()`; `stopping` when `stop()` called it. -/
def disconnectRelay (t : Transport) (stopping : Bool) : RelayStep → Transport × Pc × List Pc
  | .deactivate => ({ t with isActive := false }, .disconnectRelay stopping .dropKeepalive, [])
  | .dropKeepalive => ({ t.cancelKeepalive with keepaliveFuture := none }, .disconnectRelay stopping .disconnect, [])
  | .disconnect =>
    match t.connection with
    | some conn => (t, .disconnect conn (.relay stopping) .check, [])
    | none => (t, .disconnectRelay stopping .dropConnection, [])
  | .dropConnection => ({ t with connection := none }, .disconnectRelay stopping .clearPeers, [])
  | .clearPeers => ({ t with reachablePeers := [] }, if stopping then .stop .cancelKeepalive else .done, [])

/-- The rest of `stop()`. -/
def stop (t : Transport) : StopStep → Transport × Pc × List Pc
  | .cancelKeepalive => (t.cancelKeepalive, .stop .clearPeers, [])
  | .clearPeers => ({ t with reachablePeers := [] }, .done, [])

/-- The next statement of a thread at `pc`. -/
def exec (setting : ClientSetting) (t : Transport) (outcome : Outcome) : Pc → Option (Transport × Pc × List Pc)
  | .done | .returned _ => none
  | .onAvailable step => some (t.onAvailable step)
  | .discoverAndConnect step => t.discoverAndConnect outcome step
  | .connectAndRun conn step => t.connectAndRun setting outcome conn step
  | .disconnect conn after step => some (t.disconnect conn after step)
  | .handleDisconnect after step => some (t.handleDisconnect after step)
  | .reconnect step => some (t.reconnectTask step)
  | .keepalive step => t.keepaliveTask outcome step
  | .sendToPeer data step => t.sendToPeer outcome data step
  | .disconnectRelay stopping step => some (t.disconnectRelay stopping step)
  | .stop step => some (t.stop step)

/-! ### Runs -/

/-- What happens to the transport from outside its threads. -/
inductive Event where
  /-- `start()`; `wifiUp` when the active network is WiFi as the callback is registered. -/
  | start (wifiUp : Bool)
  /-- `stop()`. -/
  | stop
  /-- The network callback's `onAvailable`. -/
  | available
  /-- The network callback's `onLost`. -/
  | lost
  /-- Keepalive task `future` comes due on `scheduler`. -/
  | keepaliveDue (future : Nat)
  /-- Reconnect task `task` of those waiting comes due on `scheduler`. -/
  | reconnectDue (task : Nat)
  /-- `TransportManager` calls `sendToPeer` with the encoded packet `data`. -/
  | send (data : Bytes)
  deriving DecidableEq

/-- What an event does at once, and the threads it starts: `start()` and `stop()` up to their
`getAndSet` and the callback's registration, the rest of `stop()` on its own thread. -/
def Event.fire (t : Transport) : Event → Option (Transport × List Pc)
  | .start wifiUp =>
    if t.started then some (t, [])
    else some ({ t with started := true, registered := true }, if wifiUp then [.discoverAndConnect .checkStarted] else [])
  | .stop =>
    if !t.started then some (t, [])
    else some ({ t with started := false, registered := false }, [.disconnectRelay true .deactivate])
  | .available => if t.registered then some (t, [.onAvailable .resetDelay]) else none
  | .lost => if t.registered then some (t, [.disconnectRelay false .deactivate]) else none
  | .keepaliveDue future => if t.futures.getD future false then some (t, [.keepalive .ping]) else none
  | .reconnectDue task =>
    if task < t.scheduled.length then some ({ t with scheduled := t.scheduled.eraseIdx task }, [.reconnect .clearFlag])
    else none
  | .send data => some (t, [.sendToPeer data .checkActive])

/-- One step: an event, or the next statement of thread `thread`. -/
inductive Action where
  | event (event : Event)
  | run (thread : Nat) (outcome : Outcome)
  deriving DecidableEq

/-- One step of the transport; `none` when it cannot happen in this state. -/
def step (setting : ClientSetting) (t : Transport) : Action → Option Transport
  | .event event => (event.fire t).map fun (next, started) => { next with threads := t.threads ++ started }
  | .run thread outcome =>
    match t.threads[thread]? with
    | none => none
    | some pc => (exec setting t outcome pc).map fun (next, pc', started) =>
        { next with threads := t.threads.set thread pc' ++ started }

/-- The state after a sequence of steps, if each can happen. -/
def run (setting : ClientSetting) : Transport → List Action → Option Transport
  | t, [] => some t
  | t, action :: rest => (t.step setting action).bind fun next => run setting next rest

/-- The states some run reaches from the constructor's. -/
def Reachable (setting : ClientSetting) (t : Transport) : Prop :=
  ∃ actions, run setting init actions = some t

end Transport

end MeshRelay
