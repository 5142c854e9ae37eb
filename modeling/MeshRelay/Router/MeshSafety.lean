import Mathlib.Data.List.Forall2
import MeshRelay.Router.Forwarding
import MeshRelay.Router.MeshNetwork

/-! What holds in every run of relays on one mesh, whatever the group loses, repeats or reorders:
clients get only whole packets that phones sent, never their own back, and the group carries
each phone's packet at most once per `RouteFromClient` call. -/

namespace MeshRelay

namespace Network

/-- A packet a phone of relay `relay` sent: the packet of a `RouteFromClient` call on it. -/
def PhoneSentOn (net : Network) (relay : Nat) (data : Bytes) : Prop :=
  ∃ i < (net.relays relay).calls, ((net.relays relay).routes i).origin.isSome ∧
    ((net.relays relay).routes i).data = data

/-- A packet a phone sent stays one when a relay moves on keeping its calls. -/
theorem PhoneSentOn.update {net : Network} {sender : Nat} {data : Bytes} (sent : net.PhoneSentOn sender data)
    {relay : Nat} {next : Daemon} (keeps : Daemon.KeepsCalls (net.relays relay) next) (air : List Bytes) :
    PhoneSentOn ⟨Function.update net.relays relay next, air⟩ sender data := by
  -- the call keeps its packet and sender, and the relay's calls only grow
  obtain ⟨i, lt, origin, same⟩ := sent
  by_cases moved : sender = relay
  · subst moved
    obtain ⟨data', origin', -⟩ := keeps.2 i lt
    refine ⟨i, ?_, ?_⟩ <;> simp only [Function.update_same]
    · exact lt_of_lt_of_le lt keeps.1
    · exact ⟨origin' ▸ origin, data'.trans same⟩
  · simpa only [PhoneSentOn, Function.update_noteq moved] using ⟨i, lt, origin, same⟩


/-! ### The invariant -/

/-- What every reachable state of a mesh in one mode keeps: each relay's own invariants and the
mode of its link, at most `MaxPacketSize` bytes in a `RouteFromClient` packet, in every other call
of a relay a packet a phone of another relay sent, and on the group only packets phones sent,
each behind a header of the mode's length that starts with the key of the phone's relay. -/
structure Invariant (setting : Setting) (ca : Bool) (net : Network) : Prop where
  routing : ∀ relay, (net.relays relay).routing.Inv setting
  provenance : ∀ relay, (net.relays relay).Provenance
  modes : ∀ relay, LinkMode setting ca (net.relays relay).mesh
  bounded : ∀ relay, ∀ i < (net.relays relay).calls, ((net.relays relay).routes i).origin.isSome →
    (((net.relays relay).routes i).data.length : Int) ≤ setting.cfg.maxPacketSize
  routes : ∀ relay, ∀ i < (net.relays relay).calls, ((net.relays relay).routes i).origin.isSome ∨
    ∃ sender ≠ relay, net.PhoneSentOn sender ((net.relays relay).routes i).data
  air : ∀ datagram ∈ net.air, ∃ sender header data, datagram = header ++ data ∧
    header.length = headerLen ca ∧ (net.relays sender).meshKey = some (header.take pubKeyLen) ∧
    net.PhoneSentOn sender data

variable {setting : Setting} {ca : Bool} {net after : Network}

/-- Every call of a relay carries a packet some phone sent. -/
theorem Invariant.phoneSent (inv : net.Invariant setting ca) {relay i : Nat}
    (lt : i < (net.relays relay).calls) : ∃ sender, net.PhoneSentOn sender ((net.relays relay).routes i).data :=
  (inv.routes relay i lt).elim (fun phone => ⟨relay, i, lt, phone, rfl⟩) fun ⟨sender, _, sent⟩ => ⟨sender, sent⟩

/-- The invariant survives one relay moving on, when the relay keeps its own invariant, its mode,
its key and its calls, starts calls either from its phones on bounded packets or on packets
phones of other relays sent, and writes only packets its phones sent, in the mode's layout and
behind its key, to the group. -/
theorem Invariant.update (inv : net.Invariant setting ca) {relay : Nat} {next : Daemon}
    (keeps : Daemon.KeepsCalls (net.relays relay) next) (routing : next.routing.Inv setting)
    (provenance : next.Provenance) (mode : LinkMode setting ca next.mesh)
    (key : next.meshKey = (net.relays relay).meshKey)
    (fresh : ∀ i, (net.relays relay).calls ≤ i → i < next.calls →
      ((next.routes i).origin.isSome → ((next.routes i).data.length : Int) ≤ setting.cfg.maxPacketSize) ∧
        ((next.routes i).origin.isSome ∨ ∃ sender ≠ relay, net.PhoneSentOn sender (next.routes i).data))
    {output : List Bytes} (sent : ∀ datagram ∈ output, ∃ header data, datagram = header ++ data ∧
      header.length = headerLen ca ∧ (net.relays relay).meshKey = some (header.take pubKeyLen) ∧
      net.PhoneSentOn relay data) :
    Invariant setting ca ⟨Function.update net.relays relay next, net.air ++ output⟩ := by
  -- the other relays are as they were; the old calls of the one that moved keep their packets
  have onward : ∀ {sender data}, net.PhoneSentOn sender data →
      PhoneSentOn ⟨Function.update net.relays relay next, net.air ++ output⟩ sender data :=
    fun phone => phone.update keeps _
  have keys := (Function.forall_update_iff net.relays fun other (d : Daemon) =>
    d.meshKey = (net.relays other).meshKey).mpr ⟨key, fun _ _ => rfl⟩
  refine ⟨(Function.forall_update_iff _ fun _ (d : Daemon) => d.routing.Inv setting).mpr
      ⟨routing, fun other _ => inv.routing other⟩,
    (Function.forall_update_iff _ fun _ (d : Daemon) => d.Provenance).mpr
      ⟨provenance, fun other _ => inv.provenance other⟩,
    (Function.forall_update_iff _ fun _ (d : Daemon) => LinkMode setting ca d.mesh).mpr
      ⟨mode, fun other _ => inv.modes other⟩,
    (Function.forall_update_iff _ fun _ (d : Daemon) => ∀ i < d.calls, (d.routes i).origin.isSome →
      ((d.routes i).data.length : Int) ≤ setting.cfg.maxPacketSize).mpr
      ⟨fun i lt => ?_, fun other _ => inv.bounded other⟩,
    (Function.forall_update_iff _ fun other (d : Daemon) => ∀ i < d.calls, (d.routes i).origin.isSome ∨
      ∃ sender ≠ other, PhoneSentOn ⟨Function.update net.relays relay next, net.air ++ output⟩ sender
        (d.routes i).data).mpr
      ⟨fun i lt => ?_, fun other _ i lt => (inv.routes other i lt).imp_right fun ⟨sender, apart, phone⟩ =>
        ⟨sender, apart, onward phone⟩⟩,
    fun datagram member => ?_⟩
  · by_cases old : i < (net.relays relay).calls
    · rw [(keeps.2 i old).1, (keeps.2 i old).2.1]
      exact inv.bounded relay i old
    · exact (fresh i (not_lt.mp old) lt).1
  · by_cases old : i < (net.relays relay).calls
    · rw [(keeps.2 i old).1, (keeps.2 i old).2.1]
      exact (inv.routes relay i old).imp_right fun ⟨sender, apart, phone⟩ => ⟨sender, apart, onward phone⟩
    · exact (fresh i (not_lt.mp old) lt).2.imp_right fun ⟨sender, apart, phone⟩ =>
        ⟨sender, apart, onward phone⟩
  · rcases List.mem_append.mp member with old | new
    · obtain ⟨sender, header, data, layout, size, keyed, phone⟩ := inv.air datagram old
      exact ⟨sender, header, data, layout, size, (keys sender).trans keyed, onward phone⟩
    · obtain ⟨header, data, layout, size, keyed, phone⟩ := sent datagram new
      exact ⟨relay, header, data, layout, size, (keys relay).trans keyed, onward phone⟩

/-- Every step of the mesh keeps the invariant. -/
theorem Invariant.step (inv : net.Invariant setting ca) {relay : Nat} {action : Action}
    (stepped : net.step setting relay action = some after) : after.Invariant setting ca := by
  obtain ⟨reads, next, moved, rfl⟩ := step_eq_some stepped
  have routing := Daemon.step_routingInv (inv.routing relay) moved
  have provenance := Daemon.step_provenance (inv.provenance relay) moved
  have key := Daemon.step_meshKey moved
  by_cases fromAir : ∃ datagram, action = .meshDatagram datagram
  · -- a `RecvLoop` read of a datagram on the group: it fits the buffer, it is not the relay's
    -- own, and the relay hands on the packet behind the header
    obtain ⟨datagram, rfl⟩ := fromAir
    obtain ⟨link, linked, keeps, mesh, fresh⟩ := Daemon.meshDatagram_keeps moved
    have mode := inv.modes relay
    rw [linked] at mode
    obtain ⟨sender, header, data, rfl, size, keyed, phone⟩ :=
      inv.air _ (by simpa [Action.readsAir] using reads)
    refine inv.update keeps routing provenance (mesh ▸ MeshLink.recvDatagram_mode mode _) key
      (fun i low high => ?_) (fun _ member => by cases member)
    obtain ⟨origin, routed⟩ := fresh i low high
    obtain ⟨config, auths⟩ := mode link rfl
    obtain ⟨j, lt, isSome, rfl⟩ := phone
    rw [MeshLink.take_bufferLen size (config ▸ inv.bounded sender j lt isSome)] at routed
    obtain ⟨cfg, router, _ | auth⟩ := link
    · cases routed
    refine ⟨by simp [origin], .inr ⟨sender, fun same => ?_, ?_⟩⟩
    · -- a datagram behind the relay's own key is dropped as its echo
      subst same
      have own : auth.publicKey = header.take pubKeyLen := by
        simpa [Daemon.meshKey, linked] using keyed
      have long : pubKeyLen ≤ header.length := by
        rw [size]
        cases ca <;> decide
      exact (MeshLink.recvDatagram_routed routed).1
        ((List.take_append_of_le_length long).trans own.symm)
    · rw [MeshLink.routed_of_layout (auths auth rfl).1 size routed]
      exact ⟨j, lt, isSome, rfl⟩
  · -- any other step keeps the link, starts only calls from phones, and sends the packet of a
    -- phone's call
    have notMesh : ∀ datagram, action ≠ .meshDatagram datagram := fun datagram same =>
      fromAir ⟨datagram, same⟩
    obtain ⟨keeps, mesh, fresh⟩ := Daemon.step_keeps notMesh moved
    refine inv.update keeps routing provenance (mesh ▸ inv.modes relay) key
      (fun i low high => ⟨fun _ => (fresh i low high).2, .inl (fresh i low high).1⟩)
      (fun datagram member => ?_)
    cases action with
    | advance call =>
      simp only [Daemon.meshOutput] at member
      split_ifs at member with sending
      · obtain ⟨link, linked, wrote⟩ := Option.bind_eq_some.mp (Option.mem_toList.mp member)
        obtain ⟨_, sent, udp⟩ := Option.bind_eq_some.mp wrote
        obtain ⟨rfl, -⟩ := MeshLink.writeUDP_eq_some udp
        obtain ⟨header, rfl, size, signed⟩ := MeshLink.send_layout
          (fun auth authed => ((inv.modes relay link linked).2 auth authed).2) sent
        have phone : ((net.relays relay).routes call).origin.isSome := by
          cases origin : ((net.relays relay).routes call).origin
          · exact absurd sending.2 ((((inv.routing relay).consistent call sending.1).mesh_origin origin).1)
          · rfl
        exact ⟨header, _, rfl, size, by simp [Daemon.meshKey, linked, signed],
          call, sending.1, phone, rfl⟩
      · cases member
    | _ => cases member

/-- Every run of the mesh keeps the invariant. -/
theorem Invariant.run : ∀ {steps : List (Nat × Action)} {net after : Network},
    net.Invariant setting ca → Network.run setting net steps = some after → after.Invariant setting ca
  | [], _, _, inv, ran => Option.some.inj ran ▸ inv
  | (_, _) :: _, _, _, inv, ran => by
    obtain ⟨middle, stepped, continued⟩ := Option.bind_eq_some.mp ran
    exact Invariant.run (inv.step stepped) continued

/-- The mesh starts in the invariant when every relay's link is of the mode. -/
theorem init_invariant (setting : Setting) (ca : Bool) (links : Nat → Option MeshLink)
    (modes : ∀ relay, LinkMode setting ca (links relay)) : (init setting links).Invariant setting ca :=
  ⟨fun _ => Daemon.init_routingInv _ _, fun _ => Daemon.init_provenance _ _, modes, fun _ _ lt => absurd lt (Nat.not_lt_zero _),
    fun _ _ lt => absurd lt (Nat.not_lt_zero _), fun _ member => absurd member (List.not_mem_nil _)⟩

/-- A run of two relays with one phone each: the phones connect, relay 0's phone sends the packet
`[7]`, relay 0 routes it and writes its datagram to the group, relay 1 reads the datagram and fans
the packet out to its phone, and relay 0 reads its own datagram back. -/
def relayedSteps : List (Nat × Action) :=
  let input := writeFrame frameHello [0, 1, 0] ++ writeFrame frameSolution (List.replicate 8 0)
  let connect := fun relay : Nat => [(relay, Action.accept),
    (relay, .handshake 0 (.ok (List.replicate 32 0)) input), (relay, .getAll 0), (relay, .startServing 0)]
  let datagram := List.replicate 96 0 ++ [7]
  connect 0 ++ connect 1 ++
    [(0, .clientData 0 [7]), (0, .advance 0), (0, .advance 0), (0, .readLock 0 [0]), (0, .advance 0),
      (0, .advance 0), (0, .advance 0), (1, .meshDatagram datagram), (1, .advance 0), (1, .advance 0),
      (1, .readLock 0 [0]), (1, .advance 0), (1, .advance 0), (0, .meshDatagram datagram)]

/-- On a mesh of relays in one mode, where only the relays write to the multicast group, every
frame any relay queues for or writes to any client, in every run and whatever the group loses,
repeats or reorders, is PONG, or DATA with the packet a served phone sent some relay in a DATA
frame, whole and of at most `MaxPacketSize` bytes: no relay hands a client a packet made up on
the mesh, cut short, or carrying part of a header. -/
theorem mesh_delivers_only_phone_packets (setting : Setting) (ca : Bool)
    (links : Nat → Option MeshLink) (modes : ∀ relay, LinkMode setting ca (links relay))
    {net : Network} (reachable : net.Reachable setting links) (relay : Nat) (conn : ConnId) :
    ∀ frame ∈ ((net.relays relay).conns conn).frames, frame = ⟨framePong, []⟩ ∨
      ∃ sender i phone, i < (net.relays sender).calls ∧
        ((net.relays sender).routes i).origin = some phone ∧
        ((net.relays sender).conns phone).stage.served = true ∧
        frame = ⟨frameData, ((net.relays sender).routes i).data⟩ ∧
        (((net.relays sender).routes i).data.length : Int) ≤ setting.cfg.maxPacketSize := by
  -- the relay's own invariant names the call a frame's packet comes from, and the mesh's
  -- invariant traces that call's packet to a phone's call
  obtain ⟨steps, ran⟩ := reachable
  have inv := (init_invariant setting ca links modes).run ran
  intro frame member
  refine ((inv.provenance relay).frames conn frame member).imp_right ?_
  rintro ⟨data, rfl, i, lt, rfl, -, -⟩
  obtain ⟨sender, j, lt', isSome, same⟩ := inv.phoneSent lt
  obtain ⟨phone, origin⟩ := Option.isSome_iff_exists.mp isSome
  exact ⟨sender, j, phone, lt', origin, (inv.provenance sender).origins j lt' phone origin,
    by rw [same], inv.bounded sender j lt' isSome⟩

/-- Two relays started by `main` in open mode, each with its own key, after `relayedSteps`: relay
1's phone has been sent the packet relay 0's phone sent. -/
theorem mesh_delivers_only_phone_packets_relayed :
    let setting := Setting.standIn Sha256.truncate
    let links : Nat → Option MeshLink := fun relay =>
      some ⟨defaultConfig, true, some (RelayAuth.openRelay (UInt8.ofNat relay))⟩
    let net := (run setting (init setting links) relayedSteps).getD (init setting links)
    ((∀ relay, LinkMode setting false (links relay)) ∧ net.Reachable setting links) ∧
    ((net.relays 1).conns 0).frames = [⟨frameData, [7]⟩] ∧
    ∀ frame ∈ ((net.relays 1).conns 0).frames, frame = ⟨framePong, []⟩ ∨
      ∃ sender i phone, i < (net.relays sender).calls ∧
        ((net.relays sender).routes i).origin = some phone ∧
        ((net.relays sender).conns phone).stage.served = true ∧
        frame = ⟨frameData, ((net.relays sender).routes i).data⟩ ∧
        (((net.relays sender).routes i).data.length : Int) ≤ setting.cfg.maxPacketSize := by
  intro setting links net
  -- the run is evaluated for its end state and for each fact about it; the `udp4` length check
  -- of its 97-byte datagram nests deeper than the default recursion limit
  have modes : ∀ relay, LinkMode setting false (links relay) := fun _ => by
    rintro _ ⟨⟩
    exact ⟨rfl, by rintro _ ⟨⟩; exact ⟨rfl, rfl⟩⟩
  have reachable : net.Reachable setting links :=
    ⟨_, (Option.getD_of_ne_none (Option.ne_none_iff_isSome.mpr (by set_option maxRecDepth 1000 in decide)) _).symm⟩
  exact ⟨⟨modes, reachable⟩, by set_option maxRecDepth 1000 in decide, mesh_delivers_only_phone_packets setting false links modes reachable 1 0⟩

/-- On a mesh of relays in one mode, where only the relays write to the multicast group, no
connection is sent a packet it sent itself, by its relay or through the mesh: in every run, every
DATA frame any relay queues for or writes to a client's connection carries a packet that another
connection to that relay sent, or one that a phone of another relay sent. The group echoes each
datagram back to the relay that wrote it, and `RecvLoop` drops the echo by its key. A phone that
reconnects is a new connection, and `AddClient`'s replay may send it a packet it sent before. -/
theorem phone_gets_only_others_packets (setting : Setting) (ca : Bool)
    (links : Nat → Option MeshLink) (modes : ∀ relay, LinkMode setting ca (links relay))
    {net : Network} (reachable : net.Reachable setting links) (relay : Nat) (conn : ConnId) :
    ∀ frame ∈ ((net.relays relay).conns conn).frames, frame = ⟨framePong, []⟩ ∨
      ∃ data, frame = ⟨frameData, data⟩ ∧
        ((∃ i < (net.relays relay).calls, ∃ other, other ≠ conn ∧
            ((net.relays relay).routes i).origin = some other ∧ ((net.relays relay).routes i).data = data) ∨
          ∃ sender, sender ≠ relay ∧ ∃ j < (net.relays sender).calls,
            ((net.relays sender).routes j).origin.isSome ∧ ((net.relays sender).routes j).data = data) := by
  -- a frame's packet is that of a call the phone did not make; a call from the mesh carries a
  -- packet a phone of another relay sent
  obtain ⟨steps, ran⟩ := reachable
  have inv := (init_invariant setting ca links modes).run ran
  intro frame member
  refine ((inv.provenance relay).frames conn frame member).imp_right ?_
  rintro ⟨data, rfl, i, lt, same, -, notOwn⟩
  refine ⟨data, rfl, ?_⟩
  cases origin : ((net.relays relay).routes i).origin with
  | some other => exact .inl ⟨i, lt, other, fun mine => notOwn (mine ▸ origin), origin, same⟩
  | none =>
    rcases inv.routes relay i lt with phone | ⟨sender, apart, j, lt', isSome, sent⟩
    · simp [origin] at phone
    · exact .inr ⟨sender, apart, j, lt', isSome, sent.trans same⟩

/-- Two relays started by `main` in open mode after `relayedSteps`: relay 1's phone has been sent
relay 0's phone's packet, and relay 0 dropped its own datagram's echo, starting no call on it. -/
theorem phone_gets_only_others_packets_relayed :
    let setting := Setting.standIn Sha256.truncate
    let links : Nat → Option MeshLink := fun relay =>
      some ⟨defaultConfig, true, some (RelayAuth.openRelay (UInt8.ofNat relay))⟩
    let net := (run setting (init setting links) relayedSteps).getD (init setting links)
    ((∀ relay, LinkMode setting false (links relay)) ∧ net.Reachable setting links) ∧
    ((net.relays 1).conns 0).frames = [⟨frameData, [7]⟩] ∧ (net.relays 0).calls = 1 ∧
    ∀ frame ∈ ((net.relays 1).conns 0).frames, frame = ⟨framePong, []⟩ ∨
      ∃ data, frame = ⟨frameData, data⟩ ∧
        ((∃ i < (net.relays 1).calls, ∃ other, other ≠ 0 ∧
            ((net.relays 1).routes i).origin = some other ∧ ((net.relays 1).routes i).data = data) ∨
          ∃ sender, sender ≠ 1 ∧ ∃ j < (net.relays sender).calls,
            ((net.relays sender).routes j).origin.isSome ∧ ((net.relays sender).routes j).data = data) := by
  intro setting links net
  -- the run is evaluated for its end state and for each fact about it; the `udp4` length check
  -- of its 97-byte datagram nests deeper than the default recursion limit
  have modes : ∀ relay, LinkMode setting false (links relay) := fun _ => by
    rintro _ ⟨⟩
    exact ⟨rfl, by rintro _ ⟨⟩; exact ⟨rfl, rfl⟩⟩
  have reachable : net.Reachable setting links :=
    ⟨_, (Option.getD_of_ne_none (Option.ne_none_iff_isSome.mpr (by set_option maxRecDepth 1000 in decide)) _).symm⟩
  exact ⟨⟨modes, reachable⟩, by set_option maxRecDepth 1000 in decide, by set_option maxRecDepth 1000 in decide,
    phone_gets_only_others_packets setting false links modes reachable 1 0⟩

/-! ### What the relays write to the group -/

/-- The datagrams on the group matched with the calls that wrote them: `writers` names for each
datagram, in order, a relay and one of its calls, no call twice; each is a `RouteFromClient`
call that has returned after `mesh.Send`, and its datagram carries its packet behind a header. -/
def Written (net : Network) (writers : List (Nat × Nat)) : Prop :=
  writers.Nodup ∧ List.Forall₂ (fun datagram (writer : Nat × Nat) =>
    writer.2 < (net.relays writer.1).calls ∧ ((net.relays writer.1).routes writer.2).stage = .done ∧
      ((net.relays writer.1).routes writer.2).origin.isSome ∧
      ((net.relays writer.1).routes writer.2).meshSent = true ∧
      ∃ header, datagram = header ++ ((net.relays writer.1).routes writer.2).data) net.air writers

/-- Each writer of a match is matched with some datagram. -/
theorem forall₂_mem_right {α β : Type} {R : α → β → Prop} :
    ∀ {first : List α} {second : List β}, List.Forall₂ R first second → ∀ b ∈ second, ∃ a, R a b
  | _, _, .nil, _, member => absurd member (List.not_mem_nil _)
  | _, _, .cons related rest, b, member => by
    rcases List.mem_cons.mp member with rfl | later
    · exact ⟨_, related⟩
    · exact forall₂_mem_right rest b later

/-- The match survives a relay moving on while keeping its calls: a call that has returned is
left as it was. -/
theorem Written.update {net : Network} {writers : List (Nat × Nat)} (written : Written net writers)
    {relay : Nat} {next : Daemon} (keeps : Daemon.KeepsCalls (net.relays relay) next) (air : List Bytes)
    (same : air = net.air) : Written ⟨Function.update net.relays relay next, air⟩ writers := by
  refine ⟨written.1, same ▸ written.2.imp fun datagram ⟨other, i⟩ facts => ?_⟩
  by_cases moved : other = relay
  · subst moved
    simp only [Function.update_same]
    rw [(keeps.2 i facts.1).2.2 facts.2.1]
    exact ⟨lt_of_lt_of_le facts.1 keeps.1, facts.2⟩
  · simpa only [Function.update_noteq moved] using facts

/-- What a run of the mesh keeps about the group: each relay's routing invariant, and a match of
the datagrams with the calls that wrote them. -/
structure Sends (setting : Setting) (net : Network) : Prop where
  routing : ∀ relay, (net.relays relay).routing.Inv setting
  written : ∃ writers, Written net writers

/-- Every step of the mesh keeps what it keeps about the group. -/
theorem Sends.step (inv : net.Sends setting) {relay : Nat} {action : Action}
    (stepped : net.step setting relay action = some after) : after.Sends setting := by
  obtain ⟨-, next, moved, rfl⟩ := step_eq_some stepped
  obtain ⟨writers, written⟩ := inv.written
  have keeps := Daemon.step_keepsCalls moved
  have routing : ∀ other, (Function.update net.relays relay next other).routing.Inv setting :=
    (Function.forall_update_iff _ fun _ (d : Daemon) => d.routing.Inv setting).mpr
      ⟨Daemon.step_routingInv (inv.routing relay) moved, fun other _ => inv.routing other⟩
  -- only a `RouteFromClient` call at `mesh.Send` writes, and at most one datagram
  by_cases sending : ∃ call, action = .advance call ∧ call < (net.relays relay).calls ∧
      ((net.relays relay).routes call).stage = .meshSending
  · obtain ⟨call, rfl, lt, atSend⟩ := sending
    cases written' : (net.relays relay).mesh.bind fun link =>
        (link.send setting.ed ((net.relays relay).routes call).data).bind MeshLink.writeUDP with
    | none =>
      have silent : (net.relays relay).meshOutput setting (.advance call) = [] := by
        simp [Daemon.meshOutput, lt, atSend, written']
      exact ⟨routing, writers, written.update keeps _ (by rw [silent, List.append_nil])⟩
    | some datagram =>
      have output : (net.relays relay).meshOutput setting (.advance call) = [datagram] := by
        simp [Daemon.meshOutput, lt, atSend, written']
      obtain ⟨link, linked, wrote⟩ := Option.bind_eq_some.mp written'
      obtain ⟨_, sent, udp⟩ := Option.bind_eq_some.mp wrote
      obtain ⟨rfl, -⟩ := MeshLink.writeUDP_eq_some udp
      obtain ⟨header, rfl⟩ := MeshLink.send_suffix sent
      -- the call is a phone's, and it is not among the writers, which have all returned
      have phone : ((net.relays relay).routes call).origin.isSome := by
        cases origin : ((net.relays relay).routes call).origin
        · exact absurd atSend ((((inv.routing relay).consistent call lt).mesh_origin origin).1)
        · rfl
      have fresh : (relay, call) ∉ writers := fun member => by
        obtain ⟨_, -, done, -⟩ := forall₂_mem_right written.2 _ member
        rw [atSend] at done
        cases done
      have sends := (Daemon.advance_meshSend lt atSend).symm.trans moved
      cases sends
      refine ⟨routing, writers ++ [(relay, call)], ?_, ?_⟩
      · exact List.pairwise_append.mpr ⟨written.1, List.pairwise_singleton _ _,
          fun _ member _ single same => fresh (List.mem_singleton.mp single ▸ same ▸ member)⟩
      · rw [output]
        refine List.rel_append (written.update keeps _ rfl).2 (.cons ?_ .nil)
        refine ⟨?_, ?_, ?_, ?_, header, ?_⟩ <;> simp [Daemon.setRoute, lt, phone, linked]
  · have silent : (net.relays relay).meshOutput setting action = [] := by
      cases action with
      | advance call =>
        simp only [Daemon.meshOutput]
        rw [if_neg fun ⟨lt, atSend⟩ => sending ⟨call, rfl, lt, atSend⟩]
      | _ => rfl
    exact ⟨routing, writers, written.update keeps _ (by rw [silent, List.append_nil])⟩

/-- Every run of the mesh keeps what it keeps about the group. -/
theorem Sends.run : ∀ {steps : List (Nat × Action)} {net after : Network},
    net.Sends setting → Network.run setting net steps = some after → after.Sends setting
  | [], _, _, inv, ran => Option.some.inj ran ▸ inv
  | (_, _) :: _, _, _, inv, ran => by
    obtain ⟨middle, stepped, continued⟩ := Option.bind_eq_some.mp ran
    exact Sends.run (inv.step stepped) continued

/-- Relays on a mesh write to the group only the packets phones sent, each at most once: in every
run, whatever the links, the datagrams on the group can be matched one to one, in order, with
distinct `RouteFromClient` calls on the relays that have returned after `mesh.Send`, each
datagram carrying its call's packet behind a header. So the group never carries more datagrams
than the relays' phones sent packets, and no `RouteFromMesh` call writes to it: what a relay
hears from the mesh it never sends back. -/
theorem mesh_writes_phone_packets_once (setting : Setting) (links : Nat → Option MeshLink)
    {net : Network} (reachable : net.Reachable setting links) :
    ∃ writers : List (Nat × Nat), writers.Nodup ∧ List.Forall₂ (fun datagram (writer : Nat × Nat) =>
      writer.2 < (net.relays writer.1).calls ∧ ((net.relays writer.1).routes writer.2).stage = .done ∧
        ((net.relays writer.1).routes writer.2).origin.isSome ∧
        ((net.relays writer.1).routes writer.2).meshSent = true ∧
        ∃ header, datagram = header ++ ((net.relays writer.1).routes writer.2).data) net.air writers := by
  -- the mesh starts with nothing on the group, and every step keeps the match
  obtain ⟨steps, ran⟩ := reachable
  exact (Sends.run ⟨fun _ => Daemon.init_routingInv _ _, [], List.nodup_nil, .nil⟩ ran).written

/-- Two relays started by `main` in open mode after `relayedSteps`: the group carries the one
datagram relay 0's phone's call wrote, read twice. -/
theorem mesh_writes_phone_packets_once_relayed :
    let setting := Setting.standIn Sha256.truncate
    let links : Nat → Option MeshLink := fun relay =>
      some ⟨defaultConfig, true, some (RelayAuth.openRelay (UInt8.ofNat relay))⟩
    let net := (run setting (init setting links) relayedSteps).getD (init setting links)
    net.Reachable setting links ∧ net.air = [List.replicate 96 0 ++ [7]] ∧
    ∃ writers : List (Nat × Nat), writers.Nodup ∧ List.Forall₂ (fun datagram (writer : Nat × Nat) =>
      writer.2 < (net.relays writer.1).calls ∧ ((net.relays writer.1).routes writer.2).stage = .done ∧
        ((net.relays writer.1).routes writer.2).origin.isSome ∧
        ((net.relays writer.1).routes writer.2).meshSent = true ∧
        ∃ header, datagram = header ++ ((net.relays writer.1).routes writer.2).data) net.air writers := by
  intro setting links net
  -- the run is evaluated for its end state and for each fact about it; the `udp4` length check
  -- of its 97-byte datagram nests deeper than the default recursion limit
  have reachable : net.Reachable setting links :=
    ⟨_, (Option.getD_of_ne_none (Option.ne_none_iff_isSome.mpr (by set_option maxRecDepth 1000 in decide)) _).symm⟩
  exact ⟨reachable, by set_option maxRecDepth 1000 in decide, mesh_writes_phone_packets_once setting links reachable⟩

end Network

end MeshRelay
