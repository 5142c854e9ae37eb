import Mathlib.Data.List.Basic
import Mathlib.Data.Nat.Defs
import Mathlib.Algebra.Group.Nat.Basic
import Mathlib.Algebra.Group.Int

/-! Octet strings, the big-endian and two's-complement readings both peers use, and hex text. -/

namespace MeshRelay

/-- A Go `[]byte` or a Kotlin `ByteArray`, as the octets it holds. -/
abbrev Bytes := List UInt8

/-- A byte built from a number keeps its low eight bits. -/
@[simp] theorem UInt8.toNat_ofNat' (value : Nat) : (UInt8.ofNat value).toNat = value % 256 := by
  simp [UInt8.toNat, UInt8.ofNat, Fin.ofNat]

/-- A byte's value is below 256. -/
theorem UInt8.toNat_lt_256 (byte : UInt8) : byte.toNat < 256 := byte.val.isLt

/-! ### Big-endian numbers -/

/-- The low `width` bytes of `value`, most significant first: `binary.BigEndian.PutUintN`,
and `ByteBuffer.putShort`/`putInt`/`putLong` of the same bit pattern. -/
def putBigEndian : Nat → Nat → Bytes
  -- The last byte written is the value's lowest byte; the rest encode the quotient.
  | 0, _ => []
  | width + 1, value => putBigEndian width (value / 256) ++ [UInt8.ofNat value]

/-- Bytes read as one unsigned number, most significant first: `binary.BigEndian.UintN`. -/
def bigEndian (bytes : Bytes) : Nat :=
  bytes.foldl (fun acc byte => acc * 256 + byte.toNat) 0

/-- A big-endian encoding has exactly its declared width. -/
@[simp] theorem putBigEndian_length (width value : Nat) :
    (putBigEndian width value).length = width := by
  induction width generalizing value with
  | zero => rfl
  | succ width ih => simp [putBigEndian, ih]

/-- Appending a byte shifts the number read so far by one byte. -/
@[simp] theorem bigEndian_append_single (bytes : Bytes) (byte : UInt8) :
    bigEndian (bytes ++ [byte]) = bigEndian bytes * 256 + byte.toNat := by
  simp [bigEndian, List.foldl_append]

/-- Reading an encoding gives back the encoded value modulo the width's range. -/
theorem bigEndian_putBigEndian (width value : Nat) :
    bigEndian (putBigEndian width value) = value % 256 ^ width := by
  -- Each step splits off the lowest byte, as `Nat.mod_mul` splits the modulus.
  induction width generalizing value with
  | zero => simp [putBigEndian, bigEndian, Nat.mod_one]
  | succ width ih =>
    rw [putBigEndian, bigEndian_append_single, ih, UInt8.toNat_ofNat', Nat.pow_succ',
      Nat.mod_mul]
    omega

/-- A value inside the width's range reads back unchanged. -/
theorem bigEndian_putBigEndian_of_lt {width value : Nat} (small : value < 256 ^ width) :
    bigEndian (putBigEndian width value) = value := by
  rw [bigEndian_putBigEndian, Nat.mod_eq_of_lt small]

/-- A number read from `n` bytes is below `256 ^ n`. -/
theorem bigEndian_lt (bytes : Bytes) : bigEndian bytes < 256 ^ bytes.length := by
  -- Induct from the right, where `bigEndian_append_single` describes one more byte.
  induction bytes using List.reverseRecOn with
  | nil => simp [bigEndian]
  | append_singleton bytes byte ih =>
    have byteSmall := UInt8.toNat_lt_256 byte
    simp only [bigEndian_append_single, List.length_append, List.length_singleton,
      Nat.pow_succ]
    omega

/-- Re-encoding the number read from `n` bytes gives those bytes back. -/
theorem putBigEndian_bigEndian (bytes : Bytes) :
    putBigEndian bytes.length (bigEndian bytes) = bytes := by
  -- The lowest byte of the number is the last byte, and the quotient is the number of the rest.
  induction bytes using List.reverseRecOn with
  | nil => rfl
  | append_singleton bytes byte ih =>
    have byteSmall := UInt8.toNat_lt_256 byte
    have quotient : (bigEndian bytes * 256 + byte.toNat) / 256 = bigEndian bytes := by omega
    have low : UInt8.ofNat (bigEndian bytes * 256 + byte.toNat) = byte := by
      apply UInt8.toNat.inj
      simp only [UInt8.toNat_ofNat']
      omega
    simp only [List.length_append, List.length_singleton, putBigEndian,
      bigEndian_append_single, quotient, ih, low]

/-- `ByteBuffer.putShort`/`putInt`/`putLong`: the two's-complement bytes of a signed value. -/
def putSigned (width : Nat) (value : Int) : Bytes :=
  putBigEndian width (value % (256 ^ width : Nat)).toNat

/-- An encoding only sees the value modulo its range. -/
theorem putBigEndian_mod (width value : Nat) :
    putBigEndian width (value % 256 ^ width) = putBigEndian width value := by
  -- Re-encoding what an encoding reads back gives the same bytes.
  simpa [bigEndian_putBigEndian] using putBigEndian_bigEndian (putBigEndian width value)

/-- `putSigned` writes `width` bytes. -/
@[simp] theorem putSigned_length (width : Nat) (value : Int) :
    (putSigned width value).length = width :=
  putBigEndian_length width _

/-- A non-negative value is written as its unsigned encoding. -/
@[simp] theorem putSigned_ofNat (width value : Nat) :
    putSigned width value = putBigEndian width value := by
  have residue : ((value : Int) % ((256 ^ width : Nat) : Int)).toNat = value % 256 ^ width := by
    omega
  rw [putSigned, residue, putBigEndian_mod]

/-! ### Two's complement -/

/-- The two's-complement reading of the low `bits` bits of `value`: Go's `int(x)` for a
`uint32` on a 32-bit target, Kotlin's `readInt`, `toByte` and `Byte.toInt`. -/
def toSigned (bits value : Nat) : Int :=
  if value % 2 ^ bits < 2 ^ (bits - 1) then (value % 2 ^ bits : Nat)
  else (value % 2 ^ bits : Nat) - 2 ^ bits

/-- A value below the sign bit reads as itself. -/
theorem toSigned_of_lt {bits value : Nat} (small : value < 2 ^ (bits - 1)) :
    toSigned bits value = value := by
  -- Below the sign bit the value is also below the modulus.
  have below : value < 2 ^ bits :=
    lt_of_lt_of_le small (Nat.pow_le_pow_right (by decide) (Nat.sub_le bits 1))
  simp [toSigned, Nat.mod_eq_of_lt below, small]

/-- A value with the sign bit set, and no higher bit, reads as a negative number. -/
theorem toSigned_neg {bits value : Nat} (signed : 2 ^ (bits - 1) ≤ value)
    (below : value < 2 ^ bits) : toSigned bits value < 0 := by
  -- The reading subtracts the full modulus from a value below it.
  have below' : (value : Int) < 2 ^ bits := by exact_mod_cast below
  simp only [toSigned, Nat.mod_eq_of_lt below, if_neg (Nat.not_lt.mpr signed)]
  omega

/-- Go's `copy(dst, src)` into a fresh zeroed region of `size` bytes. -/
def copyInto (size : Nat) (src : Bytes) : Bytes :=
  src.take size ++ List.replicate (size - src.length) 0

/-- Copying a source of exactly the region's size copies it whole. -/
@[simp] theorem copyInto_of_length {size : Nat} {src : Bytes} (exact : src.length = size) :
    copyInto size src = src := by
  simp [copyInto, exact, List.take_of_length_le (Nat.le_of_eq exact)]

/-- A copy fills exactly its region. -/
@[simp] theorem copyInto_length (size : Nat) (src : Bytes) : (copyInto size src).length = size := by
  simp only [copyInto, List.length_append, List.length_take, List.length_replicate]
  omega

/-! ### Text -/

/-- The UTF-8 bytes of a string: Go's `[]byte(s)` and Kotlin's `toByteArray(Charsets.UTF_8)`. -/
def utf8Bytes (text : String) : Bytes :=
  text.data.flatMap String.utf8EncodeChar

/-! ### Hex text -/

/-- One lower-case hex digit, as `encoding/hex` writes it. -/
def hexDigit (value : Nat) : Char :=
  if value < 10 then Char.ofNat (48 + value) else Char.ofNat (87 + value)

/-- `hex.EncodeToString`: two lower-case digits per byte, high half first. -/
def hexEncode (bytes : Bytes) : String :=
  ⟨bytes.flatMap fun byte => [hexDigit (byte.toNat / 16), hexDigit (byte.toNat % 16)]⟩

/-- The value of a digit `hexDigit` wrote. -/
private def hexValue (digit : Char) : Nat :=
  if digit.toNat < 58 then digit.toNat - 48 else digit.toNat - 87

/-- Reads two digits at a time back into bytes. -/
private def hexPairs : List Char → Bytes
  | high :: low :: rest => UInt8.ofNat (hexValue high * 16 + hexValue low) :: hexPairs rest
  | _ => []

/-- Each of the sixteen digits reads back as its value. -/
private theorem hexValue_hexDigit : ∀ value < 16, hexValue (hexDigit value) = value := by
  decide

/-- Reading the digits of a byte string gives that byte string back. -/
private theorem hexPairs_hexEncode (bytes : Bytes) : hexPairs (hexEncode bytes).data = bytes := by
  -- Two digits rebuild one byte, and the rest of the text follows.
  induction bytes with
  | nil => rfl
  | cons byte rest ih =>
    have small := UInt8.toNat_lt_256 byte
    have rebuilt : UInt8.ofNat (hexValue (hexDigit (byte.toNat / 16)) * 16 +
        hexValue (hexDigit (byte.toNat % 16))) = byte := by
      rw [hexValue_hexDigit _ (by omega), hexValue_hexDigit _ (by omega)]
      apply UInt8.toNat.inj
      simp only [UInt8.toNat_ofNat']
      omega
    simpa [hexEncode, hexPairs, rebuilt] using ih

/-- Distinct byte strings have distinct hex texts, so comparing texts compares bytes. -/
theorem hexEncode_injective {left right : Bytes} (same : hexEncode left = hexEncode right) :
    left = right := by
  rw [← hexPairs_hexEncode left, ← hexPairs_hexEncode right, same]

/-- Two texts are equal exactly when the bytes they encode are. -/
@[simp] theorem hexEncode_inj {left right : Bytes} : hexEncode left = hexEncode right ↔ left = right :=
  ⟨hexEncode_injective, congrArg hexEncode⟩

end MeshRelay
