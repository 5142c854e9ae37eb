import MeshRelay.Pow.ProofOfWork
import Mathlib.Data.Nat.Bitwise

/-! Leading zero bits of a hash, read bit by bit, and the relay's `hasLeadingZeros` deciding them
exactly. -/

namespace MeshRelay

/-! ### The bit-level predicate -/

/-- Bit `i` of a hash, counted from the most significant bit of its first byte. -/
def hashBit (hash : Bytes) (i : Nat) : Bool :=
  (hash.getD (i / 8) 0).toNat.testBit (7 - i % 8)

/-- The first `count` bits of the hash are zero. -/
def LeadingZeroBits (hash : Bytes) (count : Nat) : Prop :=
  ∀ i < count, hashBit hash i = false

/-- Whether the leading bits are zero is checked bit by bit. -/
instance (hash : Bytes) (count : Nat) : Decidable (LeadingZeroBits hash count) :=
  inferInstanceAs (Decidable (∀ i < count, hashBit hash i = false))

/-- Bit `k` of byte `j` is bit `8 * j + k` of the hash. -/
theorem hashBit_byte (hash : Bytes) (j : Nat) {k : Nat} (within : k < 8) :
    hashBit hash (8 * j + k) = (hash.getD j 0).toNat.testBit (7 - k) := by
  have div : (8 * j + k) / 8 = j := by omega
  have mod : (8 * j + k) % 8 = k := by omega
  rw [hashBit, div, mod]

/-- A number is zero exactly when none of its bits is set. -/
theorem Nat.eq_zero_iff_testBit (value : Nat) : value = 0 ↔ ∀ j, value.testBit j = false :=
  ⟨fun zero j => zero ▸ Nat.zero_testBit j,
    fun clear => Nat.eq_of_testBit_eq fun j => by rw [clear, Nat.zero_testBit]⟩

/-- A byte is zero exactly when its value is. -/
theorem byte_eq_zero_iff_toNat (byte : UInt8) : byte = 0 ↔ byte.toNat = 0 :=
  ⟨fun zero => zero ▸ rfl, fun zero => UInt8.toNat.inj zero⟩

/-- A byte is zero exactly when its eight bits are. -/
theorem byte_eq_zero_iff (byte : UInt8) :
    byte = 0 ↔ ∀ k < 8, byte.toNat.testBit (7 - k) = false := by
  -- Bits from 8 up are clear in any byte; the other eight are the ones listed.
  rw [byte_eq_zero_iff_toNat, Nat.eq_zero_iff_testBit]
  refine ⟨fun clear k _ => clear _, fun clear j => ?_⟩
  by_cases low : j < 8
  · simpa [show 7 - (7 - j) = j by omega] using clear (7 - j) (by omega)
  · have wide : 2 ^ 8 ≤ 2 ^ j := Nat.pow_le_pow_right (by decide) (by omega)
    exact Nat.testBit_lt_two_pow (lt_of_lt_of_le (UInt8.toNat_lt_256 byte) wide)

/-- The first `count` bits are zero exactly when the first `count / 8` bytes are, and the top
`count % 8` bits of the next. -/
theorem leadingZeroBits_iff (hash : Bytes) (count : Nat) :
    LeadingZeroBits hash count ↔ (∀ j < count / 8, hash.getD j 0 = 0) ∧
      ∀ k < count % 8, (hash.getD (count / 8) 0).toNat.testBit (7 - k) = false := by
  constructor
  · intro clear
    refine ⟨fun j below => (byte_eq_zero_iff _).mpr fun k within => ?_, fun k within => ?_⟩
    · rw [← hashBit_byte hash j within]
      exact clear _ (by omega)
    · rw [← hashBit_byte hash _ (by omega)]
      exact clear _ (by omega)
  · rintro ⟨full, top⟩ i below
    -- Bit `i` lies in a full byte, or among the first bits of the partial one.
    rw [show i = 8 * (i / 8) + i % 8 by omega, hashBit_byte hash _ (Nat.mod_lt _ (by decide))]
    rcases Nat.lt_or_ge (i / 8) (count / 8) with inFull | inPartial
    · rw [full _ inFull]
      exact Nat.zero_testBit _
    · rw [show i / 8 = count / 8 by omega]
      exact top _ (by omega)

/-! ### The relay's test -/

/-- The relay's mask `byte(0xFF << (8 - rem))` has the top `rem` bits of a byte set and no
other. -/
theorem relayMask_testBit (rem j : Nat) :
    (UInt8.ofNat (0xFF * 2 ^ (8 - rem))).toNat.testBit j = decide (j < 8 ∧ 8 - rem ≤ j) := by
  rw [UInt8.toNat_ofNat', show (256 : Nat) = 2 ^ 8 from rfl, Nat.testBit_mod_two_pow, Nat.mul_comm,
    Nat.testBit_mul_pow_two, show (0xFF : Nat) = 2 ^ 8 - 1 from rfl, Nat.testBit_two_pow_sub_one]
  simp only [← Bool.decide_and]
  exact decide_eq_decide.mpr (by omega)

/-- The relay's partial-byte test passes exactly when the byte's top `rem` bits are zero. -/
theorem relayMask_and_eq_zero (byte : UInt8) {rem : Nat} (below : rem < 8) :
    (byte &&& UInt8.ofNat (0xFF * 2 ^ (8 - rem)) == 0) =
      decide (∀ k < rem, byte.toNat.testBit (7 - k) = false) := by
  -- The `and` is zero when no bit of the byte is under the mask, and the mask covers bits
  -- `7 - k` for `k < rem`.
  have masked : (byte &&& UInt8.ofNat (0xFF * 2 ^ (8 - rem)) = 0) ↔
      ∀ j, (byte.toNat.testBit j && decide (j < 8 ∧ 8 - rem ≤ j)) = false := by
    rw [byte_eq_zero_iff_toNat, Nat.eq_zero_iff_testBit]
    simp only [show ∀ j, (byte &&& UInt8.ofNat (0xFF * 2 ^ (8 - rem))).toNat.testBit j =
      (byte.toNat.testBit j && (UInt8.ofNat (0xFF * 2 ^ (8 - rem))).toNat.testBit j) from
        fun j => Nat.testBit_land _ _ _, relayMask_testBit]
  rw [Bool.eq_iff_iff, beq_iff_eq, masked, decide_eq_true_iff]
  constructor
  · intro clear k within
    simpa [show 7 - k < 8 by omega, show 8 - rem ≤ 7 - k by omega] using clear (7 - k)
  · intro clear j
    by_cases under : j < 8 ∧ 8 - rem ≤ j
    · simpa [under, show 7 - (7 - j) = j by omega] using clear (7 - j) (by omega)
    · rw [decide_eq_false under, Bool.and_false]

/-- The full-byte scan over bytes that exist reports whether they are all zero. -/
theorem leadingBytesZero_eq : ∀ (hash : Bytes) (count : Nat), count ≤ hash.length →
    leadingBytesZero hash count = some (decide (∀ j < count, hash.getD j 0 = 0))
  | _, 0, _ => by simp [leadingBytesZero]
  | [], _ + 1, fits => absurd fits (by simp)
  | byte :: rest, count + 1, fits => by
    -- The scan stops at a nonzero first byte, and otherwise goes on with the rest.
    simp only [leadingBytesZero, Nat.forall_lt_succ_left]
    by_cases zero : byte = 0
    · rw [if_neg (not_not.mpr zero), leadingBytesZero_eq rest count (by simpa using fits)]
      simp [zero]
    · simp [zero]

/-- On a 32-byte hash, `hasLeadingZeros` reads only bytes that exist and returns whether the
first `n` bits are zero. -/
theorem hasLeadingZeros_eq_decide {hash : Bytes} (size : hash.length = 32) (n : UInt8) :
    hasLeadingZeros hash n = some (decide (LeadingZeroBits hash n.toNat)) := by
  have fullFits : n.toNat / 8 < 32 := by have := UInt8.toNat_lt_256 n; omega
  simp only [hasLeadingZeros, leadingBytesZero_eq hash (n.toNat / 8) (by omega)]
  by_cases full : ∀ j < n.toNat / 8, hash.getD j 0 = 0
  · -- The full bytes are zero, so the answer is the partial byte's test.
    simp only [decide_eq_true full]
    by_cases positive : n.toNat % 8 > 0
    · rw [if_pos positive, List.get?_eq_getElem? hash, List.getElem?_eq_getElem (by omega),
        Option.map_some', relayMask_and_eq_zero _ (Nat.mod_lt _ (by decide))]
      simp only [leadingZeroBits_iff, List.getD_eq_getElem _ 0 (by omega : n.toNat / 8 < hash.length)]
      exact congrArg some (decide_eq_decide.mpr (and_iff_right full).symm)
    · rw [if_neg positive]
      exact congrArg some (decide_eq_true
        ((leadingZeroBits_iff _ _).mpr ⟨full, fun _ below => absurd below (by omega)⟩)).symm
  · -- A nonzero full byte fails both.
    have fails : ¬ LeadingZeroBits hash n.toNat := fun clear => full ((leadingZeroBits_iff _ _).mp clear).1
    rw [decide_eq_false full, decide_eq_false fails]

/-- `VerifyPoW` never panics: the hash it tests is 32 bytes, and the answer is whether its first
`difficulty` bits are zero. -/
theorem verifyPoW_eq_decide (sha : Sha256) (nonce : Bytes) (solution : Nat) (difficulty : UInt8) :
    verifyPoW sha nonce solution difficulty = some (decide (LeadingZeroBits
      (sha.sum256 (copyInto 32 nonce ++ putBigEndian 8 solution)) difficulty.toNat)) :=
  hasLeadingZeros_eq_decide (sha.sum256_length _) difficulty

/-- A hash with `count` leading zero bits has every smaller number of them. -/
theorem LeadingZeroBits.mono {hash : Bytes} {count lower : Nat} (clear : LeadingZeroBits hash count)
    (le : lower ≤ count) : LeadingZeroBits hash lower :=
  fun i below => clear i (lt_of_lt_of_le below le)

/-- `hasLeadingZeros` decides the proof-of-work predicate exactly: on every 32-byte hash and every
`uint8` difficulty it reads only bytes that exist and answers whether the first `n` bits, from the
most significant bit of byte 0, are zero. So `VerifyPoW` holds exactly when the hash of the nonce
and the solution's big-endian bytes has `difficulty` leading zero bits, and a solution valid at
one difficulty is valid at every lower one. -/
theorem hasLeadingZeros_exact (sha : Sha256) :
    (∀ hash : Bytes, hash.length = 32 → ∀ n : UInt8,
      hasLeadingZeros hash n = some (decide (LeadingZeroBits hash n.toNat))) ∧
    (∀ nonce solution difficulty, verifyPoW sha nonce solution difficulty = some (decide
      (LeadingZeroBits (sha.sum256 (copyInto 32 nonce ++ putBigEndian 8 solution)) difficulty.toNat))) ∧
    ∀ nonce solution difficulty lower, lower ≤ difficulty →
      verifyPoW sha nonce solution difficulty = some true →
        verifyPoW sha nonce solution lower = some true := by
  refine ⟨fun _ size n => hasLeadingZeros_eq_decide size n, verifyPoW_eq_decide sha, ?_⟩
  -- The lower difficulty asks for a prefix of the same zero bits.
  intro nonce solution difficulty lower le passes
  rw [verifyPoW_eq_decide, Option.some.injEq, decide_eq_true_iff] at passes ⊢
  exact passes.mono le

end MeshRelay
