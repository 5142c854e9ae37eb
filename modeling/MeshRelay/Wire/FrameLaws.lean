import MeshRelay.Wire.Frame

/-! What each frame reader does with a header, and that every writer's frames read back. -/

namespace MeshRelay

/-- Reading a header splits the stream into the type byte, the four length bytes and the rest. -/
theorem readFrame_header (width : IntWidth) (maxPayload : Int) (type : UInt8) {lengthBytes : Bytes}
    (four : lengthBytes.length = 4) (rest : Bytes) :
    readFrame width maxPayload (type :: (lengthBytes ++ rest)) =
      if width.ofUint32 (bigEndian lengthBytes) > maxPayload then
        .error (.tooLarge (bigEndian lengthBytes) maxPayload)
      else if width.ofUint32 (bigEndian lengthBytes) < 0 then
        .panicked "makeslice: len out of range"
      else if bigEndian lengthBytes > 0 ∧ rest.length < bigEndian lengthBytes then .error .payload
      else .ok (⟨type, rest.take (bigEndian lengthBytes)⟩, rest.drop (bigEndian lengthBytes)) := by
  -- The first five bytes are exactly the type and the length field.
  have header : (List.take 5 (type :: (lengthBytes ++ rest))).drop 1 = lengthBytes := by
    rw [List.take_succ_cons, List.drop_one, List.tail_cons,
      List.take_append_of_le_length (by omega), List.take_of_length_le (by omega)]
  have body : List.drop 5 (type :: (lengthBytes ++ rest)) = rest := by
    simp [List.drop_append_of_le_length, four]
  have long : ¬ (type :: (lengthBytes ++ rest)).length < 5 := by simp [four]
  simp only [readFrame, header, body, if_neg long, List.getD_cons_zero]

/-- A 64-bit `int` holds every `uint32`, so the size check compares the true length. -/
theorem IntWidth.w64_ofUint32 {value : Nat} (small : value < 2 ^ 32) :
    IntWidth.w64.ofUint32 value = value :=
  toSigned_of_lt (lt_of_lt_of_le small (by decide))

/-- A length below the sign bit of a 32-bit `int` converts unchanged on either target. -/
theorem IntWidth.ofUint32_of_lt (width : IntWidth) {value : Nat} (small : value < 2 ^ 31) :
    width.ofUint32 value = value := by
  cases width with
  | w32 => exact toSigned_of_lt small
  | w64 => exact IntWidth.w64_ofUint32 (by omega)

/-- On a 64-bit build `ReadFrame` rejects a header as oversized exactly when its length exceeds
the limit. -/
theorem readFrame_w64_tooLarge_iff (maxPayload : Int) (type : UInt8) {lengthBytes : Bytes}
    (four : lengthBytes.length = 4) (rest : Bytes) :
    readFrame .w64 maxPayload (type :: (lengthBytes ++ rest)) =
        .error (.tooLarge (bigEndian lengthBytes) maxPayload) ↔
      maxPayload < bigEndian lengthBytes := by
  -- Four bytes read below 2^32, which a 64-bit `int` holds exactly.
  have small : bigEndian lengthBytes < 2 ^ 32 := by simpa [four] using bigEndian_lt lengthBytes
  rw [readFrame_header .w64 maxPayload type four rest, IntWidth.w64_ofUint32 small]
  by_cases over : maxPayload < bigEndian lengthBytes
  · simp [over]
  · simp only [gt_iff_lt, over, if_false, iff_false]
    split_ifs <;> simp

/-- On a 32-bit build a length below `2^31` is rejected as oversized exactly when it exceeds
the limit. -/
theorem readFrame_w32_tooLarge_iff (maxPayload : Int) (type : UInt8) {lengthBytes : Bytes}
    (four : lengthBytes.length = 4) (small : bigEndian lengthBytes < 2 ^ 31) (rest : Bytes) :
    readFrame .w32 maxPayload (type :: (lengthBytes ++ rest)) =
        .error (.tooLarge (bigEndian lengthBytes) maxPayload) ↔
      maxPayload < bigEndian lengthBytes := by
  rw [readFrame_header .w32 maxPayload type four rest, IntWidth.ofUint32_of_lt .w32 small]
  by_cases over : maxPayload < bigEndian lengthBytes
  · simp [over]
  · simp only [gt_iff_lt, over, if_false, iff_false]
    split_ifs <;> simp

/-- On a 32-bit build a length with its top bit set passes the size check as a negative `int`,
and `make([]byte, length)` panics, whatever non-negative limit is configured. -/
theorem readFrame_w32_sign_bit (maxPayload : Int) (nonneg : 0 ≤ maxPayload) (type : UInt8)
    (lengthBytes : Bytes) (four : lengthBytes.length = 4) (signed : 2 ^ 31 ≤ bigEndian lengthBytes)
    (rest : Bytes) :
    readFrame .w32 maxPayload (type :: (lengthBytes ++ rest)) = .panicked "makeslice: len out of range" := by
  -- The conversion reads the length as a negative number, below any non-negative limit.
  have below : bigEndian lengthBytes < 2 ^ 32 := by simpa [four] using bigEndian_lt lengthBytes
  have negative : IntWidth.w32.ofUint32 (bigEndian lengthBytes) < 0 := toSigned_neg signed below
  rw [readFrame_header .w32 maxPayload type four rest]
  have passes : ¬ maxPayload < IntWidth.w32.ofUint32 (bigEndian lengthBytes) := by omega
  simp only [gt_iff_lt, negative, if_true, passes, if_false]

/-- The relay's default limit does not stop a DATA header declaring `2^31` bytes on a 32-bit
build: `ReadFrame` panics instead of returning the oversized-frame error. -/
theorem readFrame_w32_panics_at_2pow31 (rest : Bytes) :
    defaultConfig.maxPacketSize < bigEndian [0x80, 0, 0, 0] ∧
      readFrame .w32 defaultConfig.maxPacketSize ([0x10, 0x80, 0, 0, 0] ++ rest) =
        .panicked "makeslice: len out of range" :=
  ⟨by decide, readFrame_w32_sign_bit _ (by decide) 0x10 [0x80, 0, 0, 0] rfl
    (by decide) rest⟩

/-! ### Round trips -/

/-- The client writes the same bytes as the relay: `putInt` of a size is its unsigned encoding. -/
@[simp] theorem RelayConnection.writeFrame_eq (type : UInt8) (payload : Bytes) :
    RelayConnection.writeFrame type payload = MeshRelay.writeFrame type payload := by
  simp [RelayConnection.writeFrame, MeshRelay.writeFrame]

/-- A frame's length field reads back as the payload's length. -/
theorem bigEndian_length_field (payload : Bytes) (small : payload.length < 2 ^ 32) :
    bigEndian (putBigEndian 4 payload.length) = payload.length :=
  bigEndian_putBigEndian_of_lt (by simpa using small)

/-- The relay reads back any frame within its limit, and leaves the bytes after it. -/
theorem readFrame_writeFrame (width : IntWidth) (maxPayload : Int) (type : UInt8)
    (payload : Bytes) (fits : payload.length ≤ maxPayload) (small : payload.length < 2 ^ 31)
    (rest : Bytes) :
    readFrame width maxPayload (writeFrame type payload ++ rest) = .ok (⟨type, payload⟩, rest) := by
  -- The header carries the true length, which passes both checks and is all there.
  have field := bigEndian_length_field payload (by omega)
  simp only [writeFrame, List.cons_append, List.append_assoc]
  rw [readFrame_header width maxPayload type (putBigEndian_length 4 _), field,
    IntWidth.ofUint32_of_lt width small, if_neg (by omega), if_neg (by omega), if_neg (by simp),
    List.take_left' rfl, List.drop_left' rfl]

/-- The client reads back any frame within `MAX_FRAME_PAYLOAD`, and leaves the bytes after it. -/
theorem RelayConnection.readFrame_writeFrame (type : UInt8) {payload : Bytes}
    (fits : payload.length ≤ 65536) (rest : Bytes) :
    RelayConnection.readFrame (MeshRelay.writeFrame type payload ++ rest) =
      .ok (⟨type, payload⟩, rest) := by
  -- The signed reading of the length field is the length, within the accepted range.
  have field := bigEndian_length_field payload (by omega)
  have signed : toSigned 32 payload.length = payload.length := toSigned_of_lt (by omega)
  have within : ¬ ((payload.length : Int) < 0 ∨ (payload.length : Int) > 65536) := by omega
  simp only [RelayConnection.readFrame, MeshRelay.writeFrame, List.cons_append, List.append_assoc,
    List.length_append, putBigEndian_length, List.take_left', List.drop_left', field, signed,
    WiFiMeshConfig.maxFramePayload, within, if_false, Int.toNat_ofNat]
  rw [if_neg (by omega), if_neg (by omega)]

/-- Reading as many frames as were written returns them, and then the bytes after them. -/
theorem readFrames_writeFrames (decode : Bytes → Option (Frame × Bytes)) (encode : Frame → Bytes)
    (frames : List Frame) (rest : Bytes)
    (roundTrip : ∀ frame ∈ frames, ∀ after, decode (encode frame ++ after) = some (frame, after)) :
    readFrames decode frames.length (writeFrames encode frames ++ rest) = some (frames, rest) := by
  -- One frame per step, each leaving exactly the frames written after it.
  induction frames with
  | nil => rfl
  | cons frame others ih =>
    have tail := ih fun f member => roundTrip f (List.mem_cons_of_mem frame member)
    simp only [writeFrames] at tail
    simp [readFrames, writeFrames, List.append_assoc, roundTrip frame (List.mem_cons_self _ _), tail]

/-- What the relay's read loop makes of a stream, one frame at a time. -/
def GoResult.toOption {ε α : Type} : GoResult ε α → Option α
  | .ok value => some value
  | _ => none

/-- The relay's frame reader with `maxPayload = MaxPacketSize`, as a partial decoder. -/
def relayDecoder (width : IntWidth) (input : Bytes) : Option (Frame × Bytes) :=
  (readFrame width defaultConfig.maxPacketSize input).toOption

/-- The client's frame reader, as a partial decoder. -/
def clientDecoder (input : Bytes) : Option (Frame × Bytes) :=
  (RelayConnection.readFrame input).toOption

/-- Both readers return `frame` and leave `rest` on what either writer made of it. -/
def FrameReadsBack (width : IntWidth) (frame : Frame) (rest : Bytes) : Prop :=
  readFrame width defaultConfig.maxPacketSize (writeFrame frame.type frame.payload ++ rest) =
      .ok (frame, rest) ∧
    readFrame width defaultConfig.maxPacketSize
      (RelayConnection.writeFrame frame.type frame.payload ++ rest) = .ok (frame, rest) ∧
    RelayConnection.readFrame (writeFrame frame.type frame.payload ++ rest) = .ok (frame, rest) ∧
    RelayConnection.readFrame (RelayConnection.writeFrame frame.type frame.payload ++ rest) =
      .ok (frame, rest)

/-- Both readers, run once per frame, return `frames` and leave `rest` on what either writer
made of them. -/
def FramesReadBack (width : IntWidth) (frames : List Frame) (rest : Bytes) : Prop :=
  readFrames (relayDecoder width) frames.length
      (writeFrames (fun f => writeFrame f.type f.payload) frames ++ rest) = some (frames, rest) ∧
    readFrames (relayDecoder width) frames.length
      (writeFrames (fun f => RelayConnection.writeFrame f.type f.payload) frames ++ rest) =
        some (frames, rest) ∧
    readFrames clientDecoder frames.length
      (writeFrames (fun f => writeFrame f.type f.payload) frames ++ rest) = some (frames, rest) ∧
    readFrames clientDecoder frames.length
      (writeFrames (fun f => RelayConnection.writeFrame f.type f.payload) frames ++ rest) =
        some (frames, rest)

/-- Each frame within 64 KiB reads back under every pairing of writer and reader. -/
theorem frameReadsBack_of_fits (width : IntWidth) {frame : Frame}
    (fits : frame.payload.length ≤ 65536) (rest : Bytes) : FrameReadsBack width frame rest := by
  -- Both writers make the same bytes, so two decoder round trips cover all four pairings.
  have relay := readFrame_writeFrame width defaultConfig.maxPacketSize frame.type frame.payload
    (by simp only [defaultConfig]; omega) (by omega) rest
  have client := RelayConnection.readFrame_writeFrame frame.type fits rest
  simp only [FrameReadsBack, RelayConnection.writeFrame_eq, relay, client, and_self]

/-- The frame codec round-trips across both implementations: for every frame within 64 KiB and
every following bytes, and for every sequence of such frames, each reader returns exactly what
each writer wrote and leaves exactly the bytes after it. -/
theorem frame_codecs_agree (width : IntWidth) (frames : List Frame) (rest : Bytes)
    (fits : ∀ frame ∈ frames, frame.payload.length ≤ 65536) :
    (∀ frame ∈ frames, ∀ after, FrameReadsBack width frame after) ∧
      FramesReadBack width frames rest := by
  -- Single frames come from the decoder round trips, sequences from the read loop lemma.
  have single : ∀ frame ∈ frames, ∀ after, FrameReadsBack width frame after :=
    fun frame member after => frameReadsBack_of_fits width (fits frame member) after
  refine ⟨single, ?_⟩
  refine ⟨?_, ?_, ?_, ?_⟩ <;> apply readFrames_writeFrames <;> intro frame member after <;>
    have reads := single frame member after <;>
    simp only [relayDecoder, clientDecoder, reads.1, reads.2.1, reads.2.2.1, reads.2.2.2,
      GoResult.toOption, Except.toOption]

/-- One DATA frame of one byte, followed by nothing. -/
theorem frame_codecs_agree_data_frame :
    (∀ frame ∈ [Frame.mk 0x10 [7]], frame.payload.length ≤ 65536) ∧
      ((∀ frame ∈ [Frame.mk 0x10 [7]], ∀ after, FrameReadsBack .w32 frame after) ∧
        FramesReadBack .w32 [Frame.mk 0x10 [7]] []) :=
  ⟨by decide, frame_codecs_agree .w32 [Frame.mk 0x10 [7]] [] (by decide)⟩

end MeshRelay
