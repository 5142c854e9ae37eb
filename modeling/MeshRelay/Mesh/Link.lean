import MeshRelay.Config

/-! The inter-relay mesh link: Ed25519-signed multicast datagrams written by `MeshLink.Send` and
checked by `MeshLink.RecvLoop` before they reach the router. -/

namespace MeshRelay

/-! ### Header layout -/

/-- `pubKeyLen`. -/
def pubKeyLen : Nat := 32
/-- `certLen`: a certificate is the CA's 64-byte signature over a relay's public key. -/
def certLen : Nat := 64
/-- `sigLen`. -/
def sigLen : Nat := 64
/-- `caHeaderLen`: public key, certificate and signature in front of a CA-mode payload. -/
def caHeaderLen : Nat := pubKeyLen + certLen + sigLen

/-! ### Signing keys -/

/-- `crypto/ed25519` on keys of the right size: `Sign(privateKey, message)` and
`Verify(publicKey, message, sig)`. Only the 64-byte signature width is assumed. -/
structure Ed25519 where
  sign : Bytes → Bytes → Bytes
  verify : Bytes → Bytes → Bytes → Bool
  sign_length : ∀ privateKey message, (sign privateKey message).length = sigLen

/-- A stand-in scheme for concrete instances of the general theorems: every signature is 64
zero bytes and every check passes. -/
def Ed25519.acceptAll : Ed25519 :=
  ⟨fun _ _ => List.replicate 64 0, fun _ _ _ => true, fun _ _ => List.length_replicate 64 0⟩

/-- The fields of `RelayAuth` the mesh link reads or writes. `NewRelayAuth` only builds 32-byte
public keys and accepts only a 32-byte CA key; `revokedKeys` and `certCache` are the keys of
their maps that are set. -/
structure RelayAuth where
  privateKey : Bytes
  publicKey : Bytes
  certificate : Bytes
  caPubKey : Option Bytes
  revokedKeys : List String
  certCache : List String
  publicKey_size : publicKey.length = pubKeyLen
  caPubKey_size : ∀ ca ∈ caPubKey, ca.length = pubKeyLen

namespace RelayAuth

/-- A stand-in relay for concrete instances: open mode, no certificate, nothing revoked, and a
public key of 32 copies of `fill`. -/
def openRelay (fill : UInt8) : RelayAuth :=
  ⟨[], List.replicate 32 fill, [], none, [], [], List.length_replicate 32 fill, by simp⟩

/-- `Sign(data)`. -/
def sign (ed : Ed25519) (auth : RelayAuth) (data : Bytes) : Bytes :=
  ed.sign auth.privateKey data

/-- `Verify(pubKey, signature, data)`: the size checks, then `ed25519.Verify`. -/
def verify (ed : Ed25519) (pubKey signature data : Bytes) : Bool :=
  if pubKey.length ≠ pubKeyLen ∨ signature.length ≠ sigLen then false
  else ed.verify pubKey data signature

/-- `IsSelf(pubKey)`: the hex encodings are equal. -/
def isSelf (auth : RelayAuth) (pubKey : Bytes) : Bool :=
  hexEncode pubKey == hexEncode auth.publicKey

/-- `IsRevoked(pubKey)`: the hex encoding is on the revocation list. -/
def isRevoked (auth : RelayAuth) (pubKey : Bytes) : Bool :=
  decide (hexEncode pubKey ∈ auth.revokedKeys)

/-- `VerifyCertificate(pubKey, cert)`: whether the CA signed the key, and the state after it,
which caches the key's hex encoding on success. -/
def verifyCertificate (ed : Ed25519) (auth : RelayAuth) (pubKey cert : Bytes) : Bool × RelayAuth :=
  match auth.caPubKey with
  | none => (false, auth)
  | some ca =>
    if cert.length ≠ sigLen then (false, auth)
    else if !ed.verify ca pubKey cert then (false, auth)
    else (true, { auth with certCache := auth.certCache.insert (hexEncode pubKey) })

/-- `HasCertificate()`. -/
def hasCertificate (auth : RelayAuth) : Bool :=
  auth.certificate.length == sigLen

/-- `HasCA()`. -/
def hasCA (auth : RelayAuth) : Bool :=
  auth.caPubKey.isSome

end RelayAuth

/-! ### The link -/

/-- The fields of `MeshLink` the modelled code reads: the configuration, whether `SetRouter`
has been called, and the `RelayAuth` of `SetAuth`. -/
structure MeshLink where
  cfg : Config
  router : Bool
  auth : Option RelayAuth

/-- What one pass of `RecvLoop` does, in order: the two signature checks it calls and the
payloads it hands to `Router.RouteFromMesh`. -/
inductive MeshEvent where
  | verifyCertificate (pubKey cert : Bytes)
  | verify (pubKey sig data : Bytes)
  | routeFromMesh (data : Bytes)
  deriving DecidableEq, Repr

/-- The payload a `RouteFromMesh` event carries. -/
def MeshEvent.routed : MeshEvent → Option Bytes
  | .routeFromMesh data => some data
  | _ => none

/-- The key a signature check is called with. -/
def MeshEvent.checkedKey : MeshEvent → Option Bytes
  | .verifyCertificate pubKey _ => some pubKey
  | .verify pubKey _ _ => some pubKey
  | .routeFromMesh _ => none

namespace MeshLink

/-- `Send(data)` up to its `m.sendConn.Write(msg)`: nothing without auth; otherwise the message
it writes, in the CA layout `[32 pubkey][64 cert][64 sig][payload]` when the relay has both a CA
and a certificate, and `[32 pubkey][64 sig][payload]` otherwise. Each `copy` fills a zeroed
region of its size. Whether the write succeeds is `writeUDP`. -/
def send (ed : Ed25519) (link : MeshLink) (data : Bytes) : Option Bytes :=
  match link.auth with
  | none => none
  | some auth =>
    let sig := auth.sign ed data
    if auth.hasCA && auth.hasCertificate then
      some (copyInto pubKeyLen auth.publicKey ++ copyInto certLen auth.certificate ++
        copyInto sigLen sig ++ data)
    else
      some (copyInto pubKeyLen auth.publicKey ++ copyInto sigLen sig ++ data)

/-- The largest payload of an IPv4 UDP datagram: 65535 bytes less the 20-byte IP header and the
8-byte UDP header. -/
def maxUDPPayload : Nat := 65507

/-- `m.sendConn.Write(msg)` on the `udp4` socket `NewMeshLink` dials: the datagram goes to the
group whole, or, longer than an IPv4 datagram can carry, the write fails and `Send` only logs
the error. -/
def writeUDP (msg : Bytes) : Option Bytes :=
  if msg.length ≤ maxUDPPayload then some msg else none

/-- A written datagram is the message, and it fits an IPv4 datagram. -/
theorem writeUDP_eq_some {msg datagram : Bytes} (wrote : writeUDP msg = some datagram) :
    datagram = msg ∧ msg.length ≤ maxUDPPayload := by
  unfold writeUDP at wrote
  split_ifs at wrote with fits
  exact ⟨(Option.some.inj wrote).symm, fits⟩

/-- `m.router.RouteFromMesh(data)` when a router is set. -/
def deliver (link : MeshLink) (data : Bytes) : List MeshEvent :=
  if link.router then [.routeFromMesh data] else []

/-- The CA-mode branch of `RecvLoop` on the `n` bytes read: the length check, then
`VerifyCertificate` and `Verify` on the slices of the header, then delivery. The slices lie
inside the bytes read, so each `make`-and-`copy` is the slice itself. -/
def recvCertified (ed : Ed25519) (link : MeshLink) (auth : RelayAuth) (packet : Bytes) :
    List MeshEvent × MeshLink :=
  if packet.length ≤ caHeaderLen then ([], link)
  else
    let pubKey := packet.take pubKeyLen
    let cert := (packet.drop pubKeyLen).take certLen
    let sig := (packet.drop (pubKeyLen + certLen)).take sigLen
    let data := packet.drop caHeaderLen
    let checked := auth.verifyCertificate ed pubKey cert
    let link := { link with auth := some checked.2 }
    if !checked.1 then ([.verifyCertificate pubKey cert], link)
    else if !RelayAuth.verify ed pubKey sig data then
      ([.verifyCertificate pubKey cert, .verify pubKey sig data], link)
    else ([.verifyCertificate pubKey cert, .verify pubKey sig data] ++ link.deliver data, link)

/-- The open-mode branch of `RecvLoop`: the length check, `Verify`, then delivery. -/
def recvOpen (ed : Ed25519) (link : MeshLink) (packet : Bytes) : List MeshEvent × MeshLink :=
  if packet.length ≤ pubKeyLen + sigLen then ([], link)
  else
    let pubKey := packet.take pubKeyLen
    let sig := (packet.drop pubKeyLen).take sigLen
    let data := packet.drop (pubKeyLen + sigLen)
    if !RelayAuth.verify ed pubKey sig data then ([.verify pubKey sig data], link)
    else ([.verify pubKey sig data] ++ link.deliver data, link)

/-- One pass of `RecvLoop` on the bytes `ReadFromUDP` returned: drop short datagrams, our own
echo and revoked senders, then check the datagram in the relay's mode. -/
def recvDatagram (ed : Ed25519) (link : MeshLink) (packet : Bytes) : List MeshEvent × MeshLink :=
  match link.auth with
  | none => ([], link)
  | some auth =>
    if packet.length ≤ pubKeyLen + sigLen then ([], link)
    else
      let pubKey := packet.take pubKeyLen
      if auth.isSelf pubKey then ([], link)
      else if auth.isRevoked pubKey then ([], link)
      else if auth.hasCA then link.recvCertified ed auth packet
      else link.recvOpen ed packet

/-- The length of `buf`: `MaxPacketSize + caHeaderLen`. -/
def bufferLen (link : MeshLink) : Nat :=
  (link.cfg.maxPacketSize + caHeaderLen).toNat

/-- `RecvLoop` over the datagrams the socket delivers, each truncated to `buf` by
`ReadFromUDP`: every event in order, and the link at the end. -/
def recvLoop (ed : Ed25519) (link : MeshLink) : List Bytes → List MeshEvent × MeshLink
  | [] => ([], link)
  | datagram :: rest =>
    let step := link.recvDatagram ed (datagram.take link.bufferLen)
    let run := step.2.recvLoop ed rest
    (step.1 ++ run.1, run.2)

end MeshLink

end MeshRelay
