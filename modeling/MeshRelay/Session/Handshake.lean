import MeshRelay.Wire.Frame
import MeshRelay.Pow.ProofOfWork

/-! The admission handshake, HELLO → CHALLENGE → SOLUTION → ACCEPT, on both sides. -/

namespace MeshRelay

/-- The errors `PerformHandshake` returns, one per `fmt.Errorf` in it. -/
inductive HandshakeError where
  /-- `read HELLO: %w`. -/
  | readHello (cause : ReadError)
  /-- `expected HELLO (0x%02x), got 0x%02x`. -/
  | expectedHello (got : UInt8)
  /-- `HELLO too short: %d bytes`. -/
  | helloTooShort (length : Nat)
  /-- `HELLO peer-ID length overflows payload`. -/
  | peerIdOverflow
  /-- `unsupported protocol version %d`. -/
  | unsupportedVersion (version : Nat)
  /-- `rejected cert hash %s from peer %s`. -/
  | certRejected (hashHex : String) (peerID : Bytes)
  /-- `peer %s did not provide cert hash (required)`. -/
  | certRequired (peerID : Bytes)
  /-- `generate challenge: %w`. -/
  | generateChallenge (cause : String)
  /-- `read SOLUTION: %w`. -/
  | readSolution (cause : ReadError)
  /-- `expected SOLUTION (0x%02x), got 0x%02x`. -/
  | expectedSolution (got : UInt8)
  /-- `SOLUTION wrong size: %d (expected 8)`. -/
  | solutionWrongSize (length : Nat)
  /-- `invalid PoW from peer %s`. -/
  | invalidPoW (peerID : Bytes)
  deriving DecidableEq, Repr

/-- What a handshake leaves behind: what it returned and the frames it wrote, in order. -/
structure HandshakeRun where
  result : GoResult HandshakeError Bytes
  written : List Frame
  deriving DecidableEq, Repr

/-- A REJECT frame carrying a UTF-8 reason. -/
def rejectFrame (reason : String) : Frame :=
  ⟨frameReject, utf8Bytes reason⟩

/-- A REJECT frame has the REJECT type. -/
@[simp] theorem rejectFrame_type (reason : String) : (rejectFrame reason).type = frameReject := rfl

/-- The checks of steps 1 and 1b on the HELLO frame read: its type, length, peer-ID length,
version and attestation hash. On success the peer ID; on failure the run the handshake ends
with, with any REJECT it writes. -/
def checkHelloFrame (cfg : Config) (hello : Frame) : Except HandshakeRun Bytes :=
  if hello.type ≠ frameHello then .error ⟨.error (.expectedHello hello.type), []⟩
  else if hello.payload.length < 3 then .error ⟨.error (.helloTooShort hello.payload.length), []⟩
  else
    let version := bigEndian (hello.payload.take 2)
    let peerIDLen := (hello.payload.getD 2 0).toNat
    if 3 + peerIDLen > hello.payload.length then .error ⟨.error .peerIdOverflow, []⟩
    else
      let peerID := (hello.payload.drop 3).take peerIDLen
      if version ≠ protocolVersion then
        .error ⟨.error (.unsupportedVersion version),
          [rejectFrame ("unsupported version " ++ toString version)]⟩
      else
        let certHashOffset := 3 + peerIDLen
        if certHashOffset + 32 ≤ hello.payload.length then
          let certHashHex := hexEncode ((hello.payload.drop certHashOffset).take 32)
          if cfg.allowedCertHashes.length > 0 then
            if certHashHex ∉ cfg.allowedCertHashes then
              .error ⟨.error (.certRejected certHashHex peerID),
                [rejectFrame "certificate not authorized"]⟩
            else .ok peerID
          else .ok peerID
        else if cfg.allowedCertHashes.length > 0 then
          .error ⟨.error (.certRequired peerID), [rejectFrame "certificate hash required"]⟩
        else .ok peerID

/-- Steps 1 and 1b of `PerformHandshake`: read HELLO and check it. On success the peer ID and
the unread input. -/
def checkHello (cfg : Config) (width : IntWidth) (input : Bytes) :
    Except HandshakeRun (Bytes × Bytes) :=
  match readFrame width cfg.maxPacketSize input with
  | .panicked reason => .error ⟨.panicked reason, []⟩
  | .error cause => .error ⟨.error (.readHello cause), []⟩
  | .ok (hello, rest) => (checkHelloFrame cfg hello).map fun peerID => (peerID, rest)

/-- The CHALLENGE payload: `make([]byte, 33)`, the nonce copied in, the difficulty last. -/
def challengePayload (nonce : Bytes) (difficulty : UInt8) : Bytes :=
  copyInto 32 nonce ++ [difficulty]

/-- Steps 3 to 5 on the SOLUTION frame read: its type and size, the proof of work, then ACCEPT
or REJECT; the frames are those written after CHALLENGE. -/
def judgeSolution (sha : Sha256) (cfg : Config) (peerID nonce : Bytes) (sol : Frame) :
    HandshakeRun :=
  if sol.type ≠ frameSolution then ⟨.error (.expectedSolution sol.type), []⟩
  else if sol.payload.length ≠ 8 then ⟨.error (.solutionWrongSize sol.payload.length), []⟩
  else
    match verifyPoW sha nonce (bigEndian sol.payload) cfg.powDifficulty with
    | none => ⟨.panicked "index out of range", []⟩
    | some false => ⟨.error (.invalidPoW peerID), [rejectFrame "invalid proof of work"]⟩
    | some true => ⟨.ok peerID, [⟨frameAccept, []⟩]⟩

/-- Steps 2 to 5 of `PerformHandshake` after a good HELLO: send CHALLENGE for the nonce
`GenerateChallenge` returned, then read and judge SOLUTION. Writes succeed. -/
def answerChallenge (sha : Sha256) (cfg : Config) (width : IntWidth) (peerID nonce input : Bytes) :
    HandshakeRun :=
  let written := [⟨frameChallenge, challengePayload nonce cfg.powDifficulty⟩]
  match readFrame width cfg.maxPacketSize input with
  | .panicked reason => ⟨.panicked reason, written⟩
  | .error cause => ⟨.error (.readSolution cause), written⟩
  | .ok (sol, _) =>
    let verdict := judgeSolution sha cfg peerID nonce sol
    ⟨verdict.result, written ++ verdict.written⟩

/-- `PerformHandshake(conn, cfg)` after its `conn.SetDeadline`, on the bytes `input` the client's
writes deliver before the deadline, with `generated` the result of `GenerateChallenge()`. A read
that needs a byte past `input` fails, at the deadline or at the end of the stream, and `ReadFrame`
wraps both failures alike. -/
def performHandshake (sha : Sha256) (cfg : Config) (width : IntWidth)
    (generated : Except String Bytes) (input : Bytes) : HandshakeRun :=
  match checkHello cfg width input with
  | .error run => run
  | .ok (peerID, rest) =>
    match generated with
    | .error cause => ⟨.error (.generateChallenge cause), []⟩
    | .ok nonce => answerChallenge sha cfg width peerID nonce rest

/-- The bytes of a connection that arrive before a deadline: the chunks the peer wrote, each with
the time in nanoseconds after the deadline was set at which it can be read. The stream keeps
their order, so nothing after the first late chunk is read. -/
def bytesBefore (deadline : Nat) (chunks : List (Nat × Bytes)) : Bytes :=
  (chunks.takeWhile fun chunk => chunk.1 < deadline).flatMap Prod.snd

/-- `PerformHandshake(conn, cfg)` from its first statement,
`conn.SetDeadline(time.Now().Add(cfg.HandshakeTimeout))`: it reads only the chunks that arrive
within `HandshakeTimeout`. -/
def performHandshakeTimed (sha : Sha256) (cfg : Config) (width : IntWidth)
    (generated : Except String Bytes) (chunks : List (Nat × Bytes)) : HandshakeRun :=
  performHandshake sha cfg width generated (bytesBefore cfg.handshakeTimeout chunks)

/-! ### Android side -/

namespace RelayConnection

/-- The exceptions the client's `performHandshake` ends with. -/
inductive HandshakeFailure where
  /-- `IOException("PeerID too long: …")`. -/
  | peerIdTooLong (size : Nat)
  /-- `BufferOverflowException` from a `put` past the allocated HELLO buffer. -/
  | bufferOverflow
  /-- An exception from `readFrame`. -/
  | read (cause : IOFailure)
  /-- `IOException("Expected CHALLENGE (0x02), got …")`. -/
  | expectedChallenge (got : UInt8)
  /-- `IOException("CHALLENGE wrong size: …")`. -/
  | challengeWrongSize (size : Nat)
  /-- An exception from `ProofOfWork.solve`. -/
  | solve (cause : String)
  /-- `IOException("Handshake rejected: $reason")`. -/
  | rejected (reason : Bytes)
  /-- `IOException("Unexpected frame …")`. -/
  | unexpectedFrame (got : UInt8)
  deriving DecidableEq, Repr

/-- What the client's handshake leaves behind: `none` while `solve` is still searching,
otherwise normal completion or the exception; and the bytes of each `writeFrame` it made, in
order. -/
structure ClientRun where
  result : Option (Except HandshakeFailure Unit)
  writes : List Bytes

/-- `ByteBuffer.allocate(size)` followed by `put`s of `content`, then `array()`: the buffer with
the content at its start, or a `BufferOverflowException`. -/
def allocatePut (size : Nat) (content : Bytes) : Except HandshakeFailure Bytes :=
  if content.length ≤ size then .ok (content ++ List.replicate (size - content.length) 0)
  else .error .bufferOverflow

/-- The HELLO payload: `putShort(PROTOCOL_VERSION)`, `put(size.toByte())`, the peer ID, and
the attestation hash when there is one. -/
def helloPayload (peerIdBytes : Bytes) (certHash : Option Bytes) : Except HandshakeFailure Bytes :=
  allocatePut (3 + peerIdBytes.length + (if certHash.isSome then WiFiMeshConfig.certHashSize else 0))
    (putSigned 2 WiFiMeshConfig.protocolVersion ++ [UInt8.ofNat peerIdBytes.length] ++ peerIdBytes ++
      certHash.getD [])

/-- From reading the relay's answer to the end: `ACCEPT` completes, `REJECT` throws its reason,
anything else throws. -/
def readResponse (input : Bytes) : Except HandshakeFailure Unit :=
  match readFrame input with
  | .error cause => .error (.read cause)
  | .ok (response, _) =>
    if response.type = WiFiMeshConfig.frameAccept then .ok ()
    else if response.type = WiFiMeshConfig.frameReject then .error (.rejected response.payload)
    else .error (.unexpectedFrame response.type)

/-- After HELLO is written: read CHALLENGE, solve it within `fuel` rounds, write SOLUTION and
read the response. -/
def answerChallenge (sha : Sha256) (fuel : Nat) (input : Bytes) : ClientRun :=
  match readFrame input with
  | .error cause => ⟨some (.error (.read cause)), []⟩
  | .ok (challenge, rest) =>
    if challenge.type ≠ WiFiMeshConfig.frameChallenge then
      ⟨some (.error (.expectedChallenge challenge.type)), []⟩
    else if challenge.payload.length ≠ 33 then
      ⟨some (.error (.challengeWrongSize challenge.payload.length)), []⟩
    else
      let nonce := challenge.payload.take 32
      let difficulty : Int := (challenge.payload.getD 32 0).toNat
      match ProofOfWork.solve sha nonce difficulty fuel with
      | none => ⟨none, []⟩
      | some (.error cause) => ⟨some (.error (.solve cause)), []⟩
      | some (.ok solution) =>
        ⟨some (readResponse rest), [writeFrame WiFiMeshConfig.frameSolution (putSigned 8 solution)]⟩

/-- `performHandshake(input, output)` for `peerID` and the attestation hash `certHash`, on the
bytes the relay sends, with `fuel` rounds for `ProofOfWork.solve`. -/
def performHandshake (sha : Sha256) (peerID : String) (certHash : Option Bytes) (fuel : Nat)
    (input : Bytes) : ClientRun :=
  let peerIdBytes := utf8Bytes peerID
  if peerIdBytes.length > 255 then ⟨some (.error (.peerIdTooLong peerIdBytes.length)), []⟩
  else
    match helloPayload peerIdBytes certHash with
    | .error failure => ⟨some (.error failure), []⟩
    | .ok hello =>
      let rest := answerChallenge sha fuel input
      ⟨rest.result, writeFrame WiFiMeshConfig.frameHello hello :: rest.writes⟩

end RelayConnection

end MeshRelay
