import MeshRelay.Wire.Frame

/-! The proof-of-work check: the relay's `VerifyPoW` and the client's `ProofOfWork` solver. -/

namespace MeshRelay

/-- A SHA-256 implementation: `sha256.Sum256` on the relay, `MessageDigest("SHA-256")` on the
client. Only its 32-byte digest width is assumed. -/
structure Sha256 where
  sum256 : Bytes → Bytes
  sum256_length : ∀ message, (sum256 message).length = 32

/-- A stand-in hash for concrete instances of the general theorems: every message digests to
32 zero bytes. -/
def Sha256.allZero : Sha256 :=
  ⟨fun _ => List.replicate 32 0, fun _ => List.length_replicate 32 0⟩

/-- A stand-in hash for concrete instances that need distinct digests: the message's first 32
bytes, zero-padded. -/
def Sha256.truncate : Sha256 :=
  ⟨copyInto 32, copyInto_length 32⟩

/-- `for i := 0; i < count; i++ { if hash[i] != 0 { return false } }`, scanning from the first
byte; `none` is the index-out-of-range panic (Go) or exception (Kotlin). -/
def leadingBytesZero : Bytes → Nat → Option Bool
  -- Each step reads the next byte, which must exist, and stops at the first nonzero one.
  | _, 0 => some true
  | [], _ + 1 => none
  | byte :: rest, count + 1 => if byte ≠ 0 then some false else leadingBytesZero rest count

/-! ### Relay side -/

/-- `hasLeadingZeros(hash, n)`: the first `n / 8` bytes are zero and the next byte has its top
`n % 8` bits clear under `byte(0xFF << (8 - rem))`; `none` is an index-out-of-range panic. -/
def hasLeadingZeros (hash : Bytes) (n : UInt8) : Option Bool :=
  let full := n.toNat / 8
  let rem := n.toNat % 8
  match leadingBytesZero hash full with
  | some true =>
    if rem > 0 then
      let mask : UInt8 := UInt8.ofNat (0xFF * 2 ^ (8 - rem))
      (hash.get? full).map fun byte => byte &&& mask == 0
    else some true
  | result => result

/-- `VerifyPoW(nonce, solution, difficulty)`: hash the 32-byte nonce followed by the solution
in big-endian order, and test its leading zero bits. -/
def verifyPoW (sha : Sha256) (nonce : Bytes) (solution : Nat) (difficulty : UInt8) : Option Bool :=
  hasLeadingZeros (sha.sum256 (copyInto 32 nonce ++ putBigEndian 8 solution)) difficulty

/-- The `for sol := uint64(0); ; sol++` loop of `SolvePoW` from `sol`, given `fuel` rounds: `none`
while still searching. A round writes `sol` into the last eight bytes of the buffer and tests its
hash; it returns `sol` when the test passes, and gives up after `^uint64(0)` instead of wrapping. -/
def solvePoWFrom (sha : Sha256) (nonce : Bytes) (difficulty : UInt8) :
    Nat → UInt64 → Option (GoResult String UInt64)
  | 0, _ => none
  | fuel + 1, sol =>
    match hasLeadingZeros (sha.sum256 (copyInto 32 nonce ++ putBigEndian 8 sol.toNat)) difficulty with
    | some true => some (.ok sol)
    | some false =>
      if sol = ~~~0 then some (.error "exhausted uint64 space without solution")
      else solvePoWFrom sha nonce difficulty fuel (sol + 1)
    | none => some (.panicked "index out of range")

/-- `SolvePoW(nonce, difficulty)`, given `fuel` rounds: the search from `0`. -/
def solvePoW (sha : Sha256) (nonce : Bytes) (difficulty : UInt8) (fuel : Nat) :
    Option (GoResult String UInt64) :=
  solvePoWFrom sha nonce difficulty fuel 0

/-! ### Client side -/

namespace ProofOfWork

/-- Kotlin's 32-bit `Int.and`, on the two's-complement patterns of its operands. -/
def intAnd (x y : Int) : Int :=
  toSigned 32 ((x % 2 ^ 32).toNat &&& (y % 2 ^ 32).toNat)

/-- Kotlin's `Long.inc`: `Long.MAX_VALUE + 1` wraps to `Long.MIN_VALUE`. -/
def longInc (value : Int) : Int :=
  if value = 2 ^ 63 - 1 then -2 ^ 63 else value + 1

/-- `ProofOfWork.hasLeadingZeros(hash, n)`: the same scan on signed bytes, with the mask
`(0xFF shl (8 - remainBits)).toByte()` widened by `toInt()`; `none` is an
`ArrayIndexOutOfBoundsException`. -/
def hasLeadingZeros (hash : Bytes) (n : Int) : Option Bool :=
  let fullBytes := n.tdiv 8
  let remainBits := n.tmod 8
  match leadingBytesZero hash fullBytes.toNat with
  | some true =>
    if remainBits > 0 then
      let mask : Int := toSigned 8 (0xFF * 2 ^ (8 - remainBits).toNat)
      (hash.get? fullBytes.toNat).map fun byte => intAnd (toSigned 8 byte.toNat) mask == 0
    else some true
  | result => result

/-- `ProofOfWork.verify(nonce, solution, difficulty)`: `System.arraycopy` of 32 nonce bytes
(throwing on a shorter nonce), then `putLong(solution)`. -/
def verify (sha : Sha256) (nonce : Bytes) (solution : Int) (difficulty : Int) : Option Bool :=
  if nonce.length < 32 then none
  else hasLeadingZeros (sha.sum256 (nonce.take 32 ++ putSigned 8 solution)) difficulty

/-- The `while (true)` loop of `solve` from `solution`, run for at most `fuel` rounds: `none`
while still searching, then the returned solution or the exception thrown. -/
def solveFrom (sha : Sha256) (nonce : Bytes) (difficulty : Int) :
    Nat → Int → Option (Except String Int)
  | 0, _ => none
  | fuel + 1, solution =>
    match hasLeadingZeros (sha.sum256 (nonce ++ putSigned 8 solution)) difficulty with
    | some true => some (.ok solution)
    | some false => solveFrom sha nonce difficulty fuel (longInc solution)
    | none => some (.error "ArrayIndexOutOfBoundsException")

/-- `ProofOfWork.solve(nonce, difficulty)`, given `fuel` rounds of its search: the two
`require` checks, then the search from `0L`. -/
def solve (sha : Sha256) (nonce : Bytes) (difficulty : Int) (fuel : Nat) :
    Option (Except String Int) :=
  if nonce.length ≠ 32 then some (.error "Nonce must be 32 bytes")
  else if ¬ (1 ≤ difficulty ∧ difficulty ≤ 64) then some (.error "Difficulty must be 1..64")
  else solveFrom sha nonce difficulty fuel 0

end ProofOfWork

end MeshRelay
