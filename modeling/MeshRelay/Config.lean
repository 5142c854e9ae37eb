import MeshRelay.Wire.Bytes

/-! Wire constants of both peers and the relay's configuration record. -/

namespace MeshRelay

/-! ### Relay wire constants -/

/-- `FrameHello`: the client's opening frame. -/
def frameHello : UInt8 := 0x01
/-- `FrameChallenge`: the relay's nonce and difficulty. -/
def frameChallenge : UInt8 := 0x02
/-- `FrameSolution`: the client's proof of work. -/
def frameSolution : UInt8 := 0x03
/-- `FrameAccept`: the handshake succeeded. -/
def frameAccept : UInt8 := 0x04
/-- `FrameReject`: the handshake failed, with a reason. -/
def frameReject : UInt8 := 0x05
/-- `FrameData`: an opaque packet. -/
def frameData : UInt8 := 0x10
/-- `FramePing`: a client keepalive. -/
def framePing : UInt8 := 0x20
/-- `FramePong`: the relay's keepalive answer. -/
def framePong : UInt8 := 0x21

/-- `ProtocolVersion`. -/
def protocolVersion : Nat := 1

/-! ### Android client constants -/

namespace WiFiMeshConfig

/-- `PROTOCOL_VERSION`, a Kotlin `Short`. -/
def protocolVersion : Int := 1
/-- `MAX_FRAME_PAYLOAD`. -/
def maxFramePayload : Int := 65536
/-- `CERT_HASH_SIZE`. -/
def certHashSize : Nat := 32
/-- `FRAME_HELLO`. -/
def frameHello : UInt8 := 0x01
/-- `FRAME_CHALLENGE`. -/
def frameChallenge : UInt8 := 0x02
/-- `FRAME_SOLUTION`. -/
def frameSolution : UInt8 := 0x03
/-- `FRAME_ACCEPT`. -/
def frameAccept : UInt8 := 0x04
/-- `FRAME_REJECT`. -/
def frameReject : UInt8 := 0x05
/-- `FRAME_DATA`. -/
def frameData : UInt8 := 0x10
/-- `FRAME_PING`. -/
def framePing : UInt8 := 0x20
/-- `RECONNECT_BASE_DELAY_MS`. -/
def reconnectBaseDelayMs : Nat := 2000
/-- `RECONNECT_MAX_DELAY_MS`. -/
def reconnectMaxDelayMs : Nat := 60000

end WiFiMeshConfig

/-! ### Relay configuration -/

/-- The fields of the relay's `Config` that the modelled code reads. Go `int` fields are
integers, `uint8` a byte, `HandshakeTimeout` a `time.Duration` in nanoseconds, and
`AllowedCertHashes` the keys its map sets to `true`. -/
structure Config where
  maxClients : Int
  maxPacketSize : Int
  powDifficulty : UInt8
  bufferSize : Int
  dedupMaxEntries : Int
  handshakeTimeout : Nat
  allowedCertHashes : List String
  deriving DecidableEq, Repr

/-- `DefaultConfig()`. Only `MaxClients`, `PoWDifficulty` and `AllowedCertHashes` have
command-line flags, so every other field keeps this value in the running daemon. -/
def defaultConfig : Config where
  maxClients := 20
  maxPacketSize := 65536
  powDifficulty := 20
  bufferSize := 1000
  dedupMaxEntries := 10000
  handshakeTimeout := 30 * 1000000000
  allowedCertHashes := []

end MeshRelay
