import MeshRelay.Router.Provenance
import MeshRelay.Mesh.LinkLaws

/-! Relays on one mesh: several relay daemons, each with its own mesh link, the datagrams their
`MeshLink.Send` calls write to the multicast group, and every relay's `RecvLoop` reading any of
them, in any order and any number of times; runs of one relay inside the mesh, and a run that
carries a phone's packet from one relay to a client of another. -/

namespace MeshRelay

namespace Daemon

variable {setting : Setting} {s next : Daemon}

/-! ### What one relay's step does to its routing calls -/

/-- `next` keeps every routing call of `s` with its packet and sender, and leaves a call that has
returned as it was. -/
def KeepsCalls (s next : Daemon) : Prop :=
  s.calls ≤ next.calls ∧
    ∀ i < s.calls, (next.routes i).data = (s.routes i).data ∧ (next.routes i).origin = (s.routes i).origin ∧
      ((s.routes i).stage = .done → next.routes i = s.routes i)

/-- Keeping the calls composes over two steps. -/
theorem KeepsCalls.trans {middle : Daemon} (first : KeepsCalls s middle)
    (second : KeepsCalls middle next) : KeepsCalls s next :=
  ⟨first.1.trans second.1, fun i lt => by
    obtain ⟨data, origin, done⟩ := first.2 i lt
    obtain ⟨data', origin', done'⟩ := second.2 i (lt_of_lt_of_le lt first.1)
    exact ⟨data'.trans data, origin'.trans origin, fun returned =>
      (done' (by rw [done returned]; exact returned)).trans (done returned)⟩⟩

/-- A step that leaves the calls alone keeps them. -/
theorem KeepsCalls.of_routes (calls : next.calls = s.calls) (routes : next.routes = s.routes) :
    KeepsCalls s next :=
  ⟨calls.ge, fun _ _ => by rw [routes]; exact ⟨rfl, rfl, fun _ => rfl⟩⟩

/-- A new call keeps the others. -/
theorem KeepsCalls.startRoute (s : Daemon) (route : Route) : KeepsCalls s (s.startRoute route) :=
  ⟨Nat.le_succ _, fun _ lt => by
    rw [show (s.startRoute route).routes _ = _ from Function.update_noteq lt.ne _ _]
    exact ⟨rfl, rfl, fun _ => rfl⟩⟩

/-- A call that has not returned and moves on keeps its packet and sender. -/
theorem KeepsCalls.setRoute {call : Nat} {route : Route} (data : route.data = (s.routes call).data)
    (origin : route.origin = (s.routes call).origin) (moving : (s.routes call).stage ≠ .done) :
    KeepsCalls s (s.setRoute call route) := by
  refine ⟨le_refl _, fun i _ => ?_⟩
  by_cases same : i = call
  · subst same
    rw [show (s.setRoute i route).routes i = route from Function.update_same _ _ _]
    exact ⟨data, origin, fun returned => absurd returned moving⟩
  · rw [show (s.setRoute call route).routes i = _ from Function.update_noteq same _ _]
    exact ⟨rfl, rfl, fun _ => rfl⟩

/-- A locked section of a routing call keeps the calls and the mesh link. -/
theorem advance_keeps {call : Nat} (stepped : s.advance setting call = some next) :
    KeepsCalls s next ∧ next.calls = s.calls ∧ next.mesh = s.mesh := by
  -- every section moves the call on with its packet and sender
  simp only [advance] at stepped
  (repeat' split at stepped) <;> cases stepped <;>
    exact ⟨KeepsCalls.setRoute rfl rfl (by simp_all), rfl, rfl⟩

/-- What a step other than a `RecvLoop` read does to the routing calls and the mesh link: it
keeps every call with its packet and sender, starts only `RouteFromClient` calls, on packets of
at most `MaxPacketSize` bytes, and leaves the link alone. -/
theorem step_keeps {action : Action} (notMesh : ∀ datagram, action ≠ .meshDatagram datagram)
    (stepped : s.step setting action = some next) :
    KeepsCalls s next ∧ next.mesh = s.mesh ∧ ∀ i, s.calls ≤ i → i < next.calls →
      (next.routes i).origin.isSome ∧ ((next.routes i).data.length : Int) ≤ setting.cfg.maxPacketSize := by
  -- a step of a connection's goroutines touches no call
  have untouched : ∀ {next : Daemon}, next.calls = s.calls → next.routes = s.routes →
      next.mesh = s.mesh → KeepsCalls s next ∧ next.mesh = s.mesh ∧ ∀ i, s.calls ≤ i →
        i < next.calls → (next.routes i).origin.isSome ∧
          ((next.routes i).data.length : Int) ≤ setting.cfg.maxPacketSize :=
    fun calls routes mesh => ⟨.of_routes calls routes, mesh, fun _ low high => absurd (calls ▸ high) (not_lt.mpr low)⟩
  cases action with
  | meshDatagram datagram => exact absurd rfl (notMesh datagram)
  | clientData conn data =>
    simp only [step, clientData] at stepped
    split_ifs at stepped with enabled
    cases stepped
    refine ⟨.startRoute _ _, rfl, fun i low high => ?_⟩
    have only : i = s.calls := by simp only [startRoute] at high; omega
    subst only
    simpa [startRoute, Route.start] using enabled.2
  | advance call =>
    obtain ⟨keeps, calls, mesh⟩ := advance_keeps stepped
    exact ⟨keeps, mesh, fun _ low high => absurd (calls ▸ high) (not_lt.mpr low)⟩
  | readLock call order =>
    simp only [step, readLock] at stepped
    split_ifs at stepped with enabled
    cases stepped
    exact ⟨.setRoute rfl rfl (by rw [enabled.2.1]; nofun), rfl,
      fun _ low high => absurd high (not_lt.mpr low)⟩
  | accept =>
    cases stepped
    unfold accept
    split <;> exact untouched rfl rfl rfl
  | handshake | getAll | replay | startServing | write | writeFail | ping | disconnect | remove =>
    simp only [step, handshake, getAll, replay, startServing, writeLoop, ping, disconnect,
      remove] at stepped
    (repeat' split at stepped) <;> cases stepped <;> exact untouched rfl rfl rfl

/-- The calls `RecvLoop` starts for the packets of one datagram keep the others and the link,
and each is a `RouteFromMesh` call on one of the packets. -/
theorem startRoutes_keeps (payloads : List Bytes) : ∀ s : Daemon,
    let next := payloads.foldl (fun state data => state.startRoute (Route.start none data)) s
    KeepsCalls s next ∧ next.mesh = s.mesh ∧
      ∀ i, s.calls ≤ i → i < next.calls → (next.routes i).origin = none ∧ (next.routes i).data ∈ payloads := by
  -- one new call per packet, in order
  induction payloads with
  | nil => exact fun s => ⟨.of_routes rfl rfl, rfl, fun _ low high => absurd high (not_lt.mpr low)⟩
  | cons data rest ih =>
    intro s
    dsimp only [List.foldl_cons]
    obtain ⟨keeps, mesh, fresh⟩ := ih (s.startRoute (Route.start none data))
    refine ⟨(KeepsCalls.startRoute _ _).trans keeps, mesh, fun i low high => ?_⟩
    by_cases first : i = s.calls
    · subst first
      obtain ⟨same, origin, -⟩ := keeps.2 s.calls (Nat.lt_succ_self _)
      rw [same, origin, show (s.startRoute _).routes s.calls = _ from Function.update_same _ _ _]
      exact ⟨rfl, List.mem_cons_self _ _⟩
    · obtain ⟨origin, member⟩ := fresh i (by simp only [startRoute]; omega) high
      exact ⟨origin, List.mem_cons_of_mem _ member⟩

/-- A `RecvLoop` read keeps every call, replaces the link by the one its pass leaves, and starts
only `RouteFromMesh` calls, each on a payload the pass handed the router. -/
theorem meshDatagram_keeps {datagram : Bytes} (stepped : s.meshDatagram setting datagram = some next) :
    ∃ link, s.mesh = some link ∧ KeepsCalls s next ∧
      next.mesh = some (link.recvDatagram setting.ed (datagram.take link.bufferLen)).2 ∧
      ∀ i, s.calls ≤ i → i < next.calls → (next.routes i).origin = none ∧
        .routeFromMesh (next.routes i).data ∈ (link.recvDatagram setting.ed (datagram.take link.bufferLen)).1 := by
  -- the pass's payloads are started in order on the state with the new link
  unfold meshDatagram at stepped
  split at stepped
  · cases stepped
  rename_i link linked
  cases stepped
  obtain ⟨keeps, mesh, fresh⟩ := startRoutes_keeps _ { s with mesh := some (link.recvDatagram setting.ed (datagram.take link.bufferLen)).2 }
  refine ⟨link, linked, (KeepsCalls.of_routes rfl rfl).trans keeps, mesh, fun i low high => ?_⟩
  obtain ⟨origin, member⟩ := fresh i low high
  obtain ⟨event, delivered, routed⟩ := List.mem_filterMap.mp member
  cases event <;> cases routed
  exact ⟨origin, delivered⟩

/-- Every step keeps the calls of the relay that takes it. -/
theorem step_keepsCalls {action : Action} (stepped : s.step setting action = some next) :
    KeepsCalls s next := by
  -- a read of the group, or any other step
  by_cases fromAir : ∃ datagram, action = .meshDatagram datagram
  · obtain ⟨datagram, rfl⟩ := fromAir
    obtain ⟨-, -, keeps, -⟩ := meshDatagram_keeps stepped
    exact keeps
  · exact (step_keeps (fun datagram same => fromAir ⟨datagram, same⟩) stepped).1

end Daemon

/-! ### Both ends of a datagram -/

/-- The length of the header `Send` puts before the payload: `[32 pubkey][64 cert][64 sig]` in
CA mode, `[32 pubkey][64 sig]` otherwise. -/
def headerLen (ca : Bool) : Nat :=
  if ca then caHeaderLen else pubKeyLen + sigLen

/-- The mesh link of a relay of a deployment in one mode: made by `NewMeshLink(cfg)` with the
daemon's configuration, and, once `SetAuth` has run, with a CA key exactly when the deployment
has one, and then with a certificate too. -/
def LinkMode (setting : Setting) (ca : Bool) (mesh : Option MeshLink) : Prop :=
  ∀ link ∈ mesh, link.cfg = setting.cfg ∧
    ∀ auth ∈ link.auth, auth.hasCA = ca ∧ (auth.hasCA && auth.hasCertificate) = ca

namespace MeshLink

/-- `Send` writes the payload last, behind a header. -/
theorem send_suffix {ed : Ed25519} {link : MeshLink} {data datagram : Bytes}
    (sent : link.send ed data = some datagram) : ∃ header, datagram = header ++ data := by
  -- both layouts end with the payload
  unfold send at sent
  split at sent
  · cases sent
  · split_ifs at sent <;> exact ⟨_, (Option.some.inj sent).symm⟩

/-- `Send` on a link of the mode writes the payload behind a header of the mode's length, which
starts with the relay's public key. -/
theorem send_layout {ed : Ed25519} {link : MeshLink} {ca : Bool} {data datagram : Bytes}
    (mode : ∀ auth ∈ link.auth, (auth.hasCA && auth.hasCertificate) = ca)
    (sent : link.send ed data = some datagram) :
    ∃ header, datagram = header ++ data ∧ header.length = headerLen ca ∧
      link.auth.map RelayAuth.publicKey = some (header.take pubKeyLen) := by
  -- the header is the key, the certificate in CA mode, and the signature
  obtain ⟨cfg, router, _ | auth⟩ := link
  · cases sent
  have certified := mode auth rfl
  cases ca with
  | true =>
    rw [send_certified ed cfg router auth data certified] at sent
    have cert : auth.certificate.length = certLen := by
      simpa [RelayAuth.hasCertificate] using ((Bool.and_eq_true _ _).mp certified).2
    refine ⟨_, (Option.some.inj sent).symm, by
      simp [headerLen, caHeaderLen, auth.publicKey_size, cert, ed.sign_length, Nat.add_assoc], ?_⟩
    rw [List.append_assoc, List.take_left' auth.publicKey_size]
    rfl
  | false =>
    rw [send_open ed cfg router auth data certified] at sent
    refine ⟨_, (Option.some.inj sent).symm, by simp [headerLen, auth.publicKey_size, ed.sign_length], ?_⟩
    rw [List.take_left' auth.publicKey_size]
    rfl

/-- From a datagram in the layout of its mode, a relay hands the router exactly the payload
behind the header. -/
theorem routed_of_layout {ed : Ed25519} {cfg : Config} {router : Bool} {auth : RelayAuth}
    {ca : Bool} {header data routed : Bytes} (mode : auth.hasCA = ca)
    (size : header.length = headerLen ca)
    (delivered : .routeFromMesh routed ∈
      ((⟨cfg, router, some auth⟩ : MeshLink).recvDatagram ed (header ++ data)).1) :
    routed = data := by
  -- the mode's branch cuts off a header of the mode's length
  obtain ⟨-, -, layout⟩ := recvDatagram_routed delivered
  cases key : auth.caPubKey with
  | none =>
    obtain rfl : ca = false := by simp [← mode, RelayAuth.hasCA, key]
    simp only [key] at layout
    exact layout.2.2.trans (List.drop_left' size)
  | some _ =>
    obtain rfl : ca = true := by simp [← mode, RelayAuth.hasCA, key]
    simp only [key] at layout
    exact layout.2.2.2.trans (List.drop_left' size)

/-- A datagram of a payload of at most `MaxPacketSize` bytes behind a header fits `RecvLoop`'s
buffer whole. -/
theorem take_bufferLen {link : MeshLink} {ca : Bool} {header data : Bytes}
    (size : header.length = headerLen ca) (bounded : (data.length : Int) ≤ link.cfg.maxPacketSize) :
    (header ++ data).take link.bufferLen = header ++ data := by
  apply List.take_of_length_le
  have short : headerLen ca ≤ 160 := by cases ca <;> decide
  simp only [bufferLen, List.length_append, size, caHeaderLen, pubKeyLen, certLen, sigLen]
  omega

/-- A pass of `RecvLoop` keeps the link's mode. -/
theorem recvDatagram_mode {setting : Setting} {ca : Bool} {ed : Ed25519} {link : MeshLink}
    (mode : LinkMode setting ca (some link)) (packet : Bytes) :
    LinkMode setting ca (some (link.recvDatagram ed packet).2) := by
  -- only the certificate cache changes
  obtain ⟨cfg, router, _ | auth⟩ := link
  · exact mode
  obtain ⟨cache, after⟩ := recvDatagram_snd ed cfg router auth packet
  rw [after]
  obtain ⟨config, modes⟩ := mode _ rfl
  exact fun _ linked => Option.some.inj linked ▸ ⟨config, fun _ authed => Option.some.inj authed ▸ modes auth rfl⟩

/-- A pass of `RecvLoop` keeps the relay's key. -/
theorem recvDatagram_key (ed : Ed25519) (link : MeshLink) (packet : Bytes) :
    (link.recvDatagram ed packet).2.auth.map RelayAuth.publicKey = link.auth.map RelayAuth.publicKey := by
  -- only the certificate cache changes
  obtain ⟨cfg, router, _ | auth⟩ := link
  · rfl
  obtain ⟨cache, after⟩ := recvDatagram_snd ed cfg router auth packet
  rw [after]
  rfl

end MeshLink

/-- The public key of the relay's mesh link, once `SetAuth` has run. -/
def Daemon.meshKey (s : Daemon) : Option Bytes :=
  s.mesh.bind fun link => link.auth.map RelayAuth.publicKey

/-- No step changes a relay's key. -/
theorem Daemon.step_meshKey {setting : Setting} {s next : Daemon} {action : Action}
    (stepped : s.step setting action = some next) : next.meshKey = s.meshKey := by
  -- only a read of the group touches the link, and its pass keeps the key
  by_cases fromAir : ∃ datagram, action = .meshDatagram datagram
  · obtain ⟨datagram, rfl⟩ := fromAir
    obtain ⟨link, linked, -, mesh, -⟩ := Daemon.meshDatagram_keeps stepped
    simp only [meshKey, mesh, linked, Option.some_bind, MeshLink.recvDatagram_key]
  · simp only [meshKey, (Daemon.step_keeps (fun datagram same => fromAir ⟨datagram, same⟩) stepped).2.1]

/-! ### Relays on one mesh -/

/-- Relay daemons `0, 1, …` running with one configuration on one mesh, and every datagram their
links have written to the multicast group. UDP may lose, repeat or reorder datagrams, and only
the relays write to the group: a datagram stays there, and any relay may read it at any time, any
number of times, or never. -/
structure Network where
  relays : Nat → Daemon
  air : List Bytes

namespace Daemon

/-- The datagram a step writes to the multicast group: `r.mesh.Send(data)` in the section of
`RouteFromClient` after `RUnlock`, when its `udp4` write succeeds; every other step writes none. -/
def meshOutput (setting : Setting) (s : Daemon) : Action → List Bytes
  | .advance call =>
    if call < s.calls ∧ (s.routes call).stage = .meshSending then
      (s.mesh.bind fun link => (link.send setting.ed (s.routes call).data).bind MeshLink.writeUDP).toList
    else []
  | _ => []

end Daemon

/-- Whether a step can happen on the mesh: a `RecvLoop` read takes a datagram on the group. -/
def Action.readsAir (air : List Bytes) : Action → Bool
  | .meshDatagram datagram => decide (datagram ∈ air)
  | _ => true

namespace Network

/-- Relay `relay` takes step `action`, and the datagram it sends, if any, goes on the group. -/
def step (setting : Setting) (net : Network) (relay : Nat) (action : Action) : Option Network :=
  if action.readsAir net.air then
    ((net.relays relay).step setting action).map fun next =>
      ⟨Function.update net.relays relay next, net.air ++ (net.relays relay).meshOutput setting action⟩
  else none

/-- The mesh after a sequence of steps of its relays, if each can happen. -/
def run (setting : Setting) : Network → List (Nat × Action) → Option Network
  | net, [] => some net
  | net, (relay, action) :: rest => (net.step setting relay action).bind fun next => run setting next rest

/-- The mesh as `main` starts it on every relay, `links relay` being the link relay `relay` set
up, and nothing on the group. -/
def init (setting : Setting) (links : Nat → Option MeshLink) : Network :=
  ⟨fun relay => Daemon.init setting (links relay), []⟩

/-- The states some run of the mesh reaches from its start. -/
def Reachable (setting : Setting) (links : Nat → Option MeshLink) (net : Network) : Prop :=
  ∃ steps, run setting (init setting links) steps = some net

/-- A step of the mesh is a step of one relay on a datagram of the group, with what it sends
put on the group. -/
theorem step_eq_some {setting : Setting} {net after : Network} {relay : Nat} {action : Action}
    (stepped : net.step setting relay action = some after) :
    action.readsAir net.air = true ∧ ∃ next, (net.relays relay).step setting action = some next ∧
      after = ⟨Function.update net.relays relay next, net.air ++ (net.relays relay).meshOutput setting action⟩ := by
  -- the relay's own step, allowed only on a datagram of the group
  unfold step at stepped
  split_ifs at stepped with reads
  obtain ⟨next, moved, rfl⟩ := Option.map_eq_some'.mp stepped
  exact ⟨reads, next, moved, rfl⟩

/-- No step leaves the mesh as it is. -/
@[simp] theorem run_nil (setting : Setting) (net : Network) : run setting net [] = some net := rfl

/-- A run is its first step, then the rest from where it leaves the mesh. -/
@[simp] theorem run_cons (setting : Setting) (net : Network) (relay : Nat) (action : Action)
    (rest : List (Nat × Action)) :
    run setting net ((relay, action) :: rest) =
      (net.step setting relay action).bind fun next => run setting next rest :=
  rfl

/-- A run of the mesh in two parts. -/
theorem run_append (setting : Setting) (net : Network) (first second : List (Nat × Action)) :
    run setting net (first ++ second) = (run setting net first).bind fun middle => run setting middle second := by
  -- one step at a time
  induction first generalizing net with
  | nil => rfl
  | cons step rest ih =>
    obtain ⟨relay, action⟩ := step
    simp only [List.cons_append, run_cons, ih]
    cases net.step setting relay action <;> rfl

end Network

end MeshRelay
