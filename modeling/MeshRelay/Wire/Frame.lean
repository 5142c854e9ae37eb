import MeshRelay.Config

/-! The length-prefixed frame codec, as the relay (Go) and the Android client (Kotlin) run it. -/

namespace MeshRelay

/-- A length-prefixed message: `[1-byte type][4-byte big-endian length][payload]`. -/
structure Frame where
  type : UInt8
  payload : Bytes
  deriving DecidableEq, Repr

/-- Width of Go's `int` on the target the relay is built for: 32 bits on the mipsle, mips and
arm router builds, 64 bits on arm64 and amd64. -/
inductive IntWidth where
  | w32
  | w64
  deriving DecidableEq, Repr

/-- The number of bits of Go's `int`. -/
def IntWidth.bits : IntWidth → Nat
  | .w32 => 32
  | .w64 => 64

/-- Go's conversion `int(x)` of a `uint32` value. -/
def IntWidth.ofUint32 (width : IntWidth) (value : Nat) : Int :=
  toSigned width.bits value

/-- What a Go call ends with: its result, an error it returns, or a run-time panic. Nothing
in the daemon recovers from a panic, so a panic ends the process. -/
inductive GoResult (ε α : Type) where
  | ok (value : α)
  | error (err : ε)
  | panicked (reason : String)
  deriving DecidableEq, Repr

/-! ### Relay side -/

/-- The errors `ReadFrame` wraps. -/
inductive ReadError where
  /-- `read header: …`: the stream ended before five bytes. -/
  | header
  /-- `frame too large: %d > %d`. -/
  | tooLarge (length : Nat) (maxPayload : Int)
  /-- `read payload: …`: the stream ended inside the payload. -/
  | payload
  deriving DecidableEq, Repr

/-- `ReadFrame(conn, maxPayload)` on the bytes `input` still unread on the connection;
on success the frame and the bytes left after it. -/
def readFrame (width : IntWidth) (maxPayload : Int) (input : Bytes) :
    GoResult ReadError (Frame × Bytes) :=
  if input.length < 5 then .error .header else
  -- `binary.BigEndian.Uint32(header[1:5])`, then the signed comparison `int(length) > maxPayload`.
  let length := bigEndian ((input.take 5).drop 1)
  if width.ofUint32 length > maxPayload then .error (.tooLarge length maxPayload)
  -- `make([]byte, length)` converts the `uint32` to `int` and panics on a negative length.
  else if width.ofUint32 length < 0 then .panicked "makeslice: len out of range"
  else
    let rest := input.drop 5
    if length > 0 ∧ rest.length < length then .error .payload
    else .ok (⟨input.getD 0 0, rest.take length⟩, rest.drop length)

/-- `WriteFrame(conn, frameType, payload)`: the bytes of the single `conn.Write`. The length
field is `uint32(len(payload))`. -/
def writeFrame (frameType : UInt8) (payload : Bytes) : Bytes :=
  frameType :: putBigEndian 4 payload.length ++ payload

/-! ### Android side -/

namespace RelayConnection

/-- The exceptions the client's frame reader throws. -/
inductive IOFailure where
  /-- `EOFException` from `readByte`, `readInt` or `readFully`. -/
  | eof
  /-- `IOException("Frame too large: $length")`. -/
  | frameTooLarge (length : Int)
  deriving DecidableEq, Repr

/-- `RelayConnection.readFrame(input)`: `readByte`, the signed `readInt`, its range check, then
`readFully` of the payload. -/
def readFrame (input : Bytes) : Except IOFailure (Frame × Bytes) :=
  match input with
  | [] => .error .eof
  | type :: rest =>
    if rest.length < 4 then .error .eof else
    let length := toSigned 32 (bigEndian (rest.take 4))
    if length < 0 ∨ length > WiFiMeshConfig.maxFramePayload then .error (.frameTooLarge length)
    else
      let rest := rest.drop 4
      if length > 0 ∧ rest.length < length.toNat then .error .eof
      else .ok (⟨type, rest.take length.toNat⟩, rest.drop length.toNat)

/-- `RelayConnection.writeFrame(output, type, payload)`: the bytes of the one `output.write`,
with the length written by `ByteBuffer.putInt(payload.size)`. -/
def writeFrame (type : UInt8) (payload : Bytes) : Bytes :=
  type :: putSigned 4 payload.length ++ payload

end RelayConnection

/-! ### Reading a stream of frames -/

/-- Reads `count` frames in a row with `decode`, as a read loop does, and the bytes left. -/
def readFrames (decode : Bytes → Option (Frame × Bytes)) : Nat → Bytes → Option (List Frame × Bytes)
  | 0, input => some ([], input)
  | count + 1, input =>
    (decode input).bind fun (frame, rest) =>
      (readFrames decode count rest).map fun (frames, left) => (frame :: frames, left)

/-- The bytes of a list of frames written one after another with `encode`. -/
def writeFrames (encode : Frame → Bytes) (frames : List Frame) : Bytes :=
  (frames.map encode).flatten

end MeshRelay
