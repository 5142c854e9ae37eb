import MeshRelay.Pow.LeadingZeros

/-! The client's leading-zero test agrees with the relay's, and a solution it finds verifies. -/

namespace MeshRelay

/-- A number below 256 has no bit from 8 up. -/
theorem testBit_of_byte {byte : Nat} (small : byte < 256) {j : Nat} (high : 8 ≤ j) :
    byte.testBit j = false :=
  Nat.testBit_lt_two_pow (lt_of_lt_of_le small (Nat.pow_le_pow_right (by decide) high : 2 ^ 8 ≤ 2 ^ j))

/-- A byte's top `rem` bits are clear exactly when it is below `2 ^ (8 - rem)`. -/
theorem topBits_clear_iff {byte : Nat} (small : byte < 256) {rem : Nat} (below : rem ≤ 8) :
    (∀ k < rem, byte.testBit (7 - k) = false) ↔ byte < 2 ^ (8 - rem) := by
  constructor
  · -- Every bit from `8 - rem` up is clear: the top ones by assumption, the rest by size.
    intro clear
    refine Nat.lt_pow_two_of_testBit byte fun i high => ?_
    by_cases inByte : i < 8
    · simpa [show 7 - (7 - i) = i by omega] using clear (7 - i) (by omega)
    · exact testBit_of_byte small (not_lt.mp inByte)
  · intro low k within
    exact Nat.testBit_lt_two_pow (lt_of_lt_of_le low (Nat.pow_le_pow_right (by decide) (by omega)))

/-- Kotlin's `Byte.toInt()` as a 32-bit pattern: a byte with its top bit set gains bits 8 to 31. -/
theorem toSigned_eight_pattern (value : Nat) :
    ((toSigned 8 value) % 2 ^ 32).toNat =
      if value % 256 < 128 then value % 256 else 2 ^ 8 * (2 ^ 24 - 1) + value % 256 := by
  unfold toSigned
  split <;> split <;> omega

/-- The bits of a sign-extended byte. -/
theorem testBit_signExtended {low : Nat} (small : low < 256) (j : Nat) :
    (2 ^ 8 * (2 ^ 24 - 1) + low).testBit j = if j < 8 then low.testBit j else decide (j < 32) := by
  rw [Nat.testBit_mul_pow_two_add _ (small : low < 2 ^ 8), Nat.testBit_two_pow_sub_one]
  split
  · rfl
  · exact decide_eq_decide.mpr (by omega)

/-- A 32-bit pattern reads as zero exactly when it is zero. -/
theorem toSigned_thirtyTwo_eq_zero {value : Nat} (small : value < 2 ^ 32) :
    toSigned 32 value = 0 ↔ value = 0 := by
  unfold toSigned
  rw [Nat.mod_eq_of_lt small]
  split <;> omega

/-- The client's sign-extended mask clears a sign-extended byte exactly when the byte is below
`2 ^ (8 - rem)`: sign extension sets no bit the 32-bit `and` keeps. -/
private theorem clientMask_clear {byte : Nat} (small : byte < 256) {rem : Nat} (positive : 0 < rem)
    (below : rem < 8) :
    ProofOfWork.intAnd (toSigned 8 byte) (toSigned 8 (0xFF * 2 ^ (8 - rem))) = 0 ↔
      byte < 2 ^ (8 - rem) := by
  -- The mask's low byte has bits `8 - rem` to `7`, so its top bit, and is sign-extended.
  have maskSmall : (0xFF * 2 ^ (8 - rem)) % 256 < 256 := Nat.mod_lt _ (by decide)
  have maskBits : ∀ j, ((0xFF * 2 ^ (8 - rem)) % 256).testBit j = decide (j < 8 ∧ 8 - rem ≤ j) :=
    fun j => by rw [← UInt8.toNat_ofNat', relayMask_testBit]
  have maskHigh : 128 ≤ (0xFF * 2 ^ (8 - rem)) % 256 :=
    (Nat.testBit_implies_ge (by rw [maskBits]; exact decide_eq_true (by omega)) : 2 ^ 7 ≤ _)
  unfold ProofOfWork.intAnd
  rw [toSigned_eight_pattern, toSigned_eight_pattern, if_neg (not_lt.mpr maskHigh),
    Nat.mod_eq_of_lt small, toSigned_thirtyTwo_eq_zero (Nat.and_lt_two_pow _ (by omega)),
    Nat.eq_zero_iff_testBit]
  simp only [Nat.testBit_land, testBit_signExtended maskSmall, maskBits]
  by_cases low : byte < 128
  · -- A byte without its top bit meets the mask only in bits `8 - rem` to `7`.
    rw [if_pos low, ← topBits_clear_iff small below.le]
    constructor
    · intro clear k within
      have := clear (7 - k)
      rwa [if_pos (by omega), decide_eq_true (by omega), Bool.and_true] at this
    · intro clear j
      by_cases inByte : j < 8
      · rw [if_pos inByte]
        by_cases masked : 8 - rem ≤ j
        · rw [decide_eq_true ⟨inByte, masked⟩, Bool.and_true, ← show 7 - (7 - j) = j by omega]
          exact clear (7 - j) (by omega)
        · rw [decide_eq_false fun inside => masked inside.2, Bool.and_false]
      · rw [testBit_of_byte small (not_lt.mp inByte), Bool.false_and]
  · -- A byte with its top bit set meets the mask at bit 8, and is too large.
    have tooLarge : ¬ byte < 2 ^ (8 - rem) := fun below' =>
      low (lt_of_lt_of_le below' (Nat.pow_le_pow_right (by decide) (by omega) : 2 ^ (8 - rem) ≤ 2 ^ 7))
    rw [if_neg low]
    refine iff_of_false (fun clear => ?_) tooLarge
    have := clear 8
    rw [testBit_signExtended small, if_neg (lt_irrefl 8), if_neg (lt_irrefl 8)] at this
    exact absurd this (by decide)

/-- The two partial-byte tests agree on every byte. -/
theorem partialByte_tests_agree (byte : UInt8) {rem : Nat} (positive : 0 < rem) (below : rem < 8) :
    (ProofOfWork.intAnd (toSigned 8 byte.toNat) (toSigned 8 (0xFF * 2 ^ (8 - rem))) == 0) =
      (byte &&& UInt8.ofNat (0xFF * 2 ^ (8 - rem)) == 0) := by
  -- Both sides say the byte is below `2 ^ (8 - rem)`.
  have small := UInt8.toNat_lt_256 byte
  rw [relayMask_and_eq_zero byte below, Bool.eq_iff_iff, beq_iff_eq, decide_eq_true_iff,
    topBits_clear_iff small below.le]
  exact clientMask_clear small positive below

/-- The client's `hasLeadingZeros` is the relay's on every difficulty a byte can carry. -/
theorem ProofOfWork.hasLeadingZeros_eq (hash : Bytes) {difficulty : Nat} (small : difficulty < 256) :
    ProofOfWork.hasLeadingZeros hash difficulty =
      MeshRelay.hasLeadingZeros hash (UInt8.ofNat difficulty) := by
  -- Truncating division of a non-negative number is `/`, so both scan the same bytes.
  have toNat : (UInt8.ofNat difficulty).toNat = difficulty := by simp [Nat.mod_eq_of_lt small]
  have full : ((difficulty : Int).tdiv 8).toNat = difficulty / 8 := rfl
  have rem : (difficulty : Int).tmod 8 = ((difficulty % 8 : Nat) : Int) := rfl
  simp only [ProofOfWork.hasLeadingZeros, MeshRelay.hasLeadingZeros, toNat, full, rem]
  split
  · by_cases positive : 0 < difficulty % 8
    · have positive' : ((difficulty % 8 : Nat) : Int) > 0 := by omega
      simp only [if_pos positive', if_pos positive, Int.toNat_ofNat]
      rw [show (8 - ((difficulty % 8 : Nat) : Int)).toNat = 8 - difficulty % 8 by omega]
      cases hash.get? (difficulty / 8) with
      | none => rfl
      | some byte =>
        simp only [Option.map_some', partialByte_tests_agree byte positive (Nat.mod_lt _ (by decide))]
    · have zero : ¬ ((difficulty % 8 : Nat) : Int) > 0 := by omega
      simp only [if_neg zero, if_neg positive]
  · rfl

/-- The bytes `putLong` writes read back, on the relay, as the solution's `uint64` pattern. -/
theorem bigEndian_putSigned_long (solution : Int) :
    putBigEndian 8 (bigEndian (putSigned 8 solution)) = putSigned 8 solution := by
  simpa using putBigEndian_bigEndian (putSigned 8 solution)

/-- A solution the client's search returns passes the client's own leading-zero test. -/
theorem ProofOfWork.solveFrom_found (sha : Sha256) (nonce : Bytes) (difficulty : Int) :
    ∀ fuel start solution, ProofOfWork.solveFrom sha nonce difficulty fuel start = some (.ok solution) →
      ProofOfWork.hasLeadingZeros (sha.sum256 (nonce ++ putSigned 8 solution)) difficulty =
        some true := by
  -- Each round either returns the solution it just tested or searches on.
  intro fuel
  induction fuel with
  | zero => intro start solution found; cases found
  | succ fuel ih =>
    intro start solution found
    simp only [ProofOfWork.solveFrom] at found
    split at found
    · rename_i passes
      cases found
      exact passes
    · exact ih _ _ found
    · cases found

/-- A solution `solve` returns for a 32-byte nonce passes the relay's `VerifyPoW` on the value
the relay reads from its eight bytes, at the same difficulty. -/
theorem ProofOfWork.solve_verifies (sha : Sha256) {nonce : Bytes} (size : nonce.length = 32)
    {difficulty : Nat} (small : difficulty < 256) {fuel : Nat} {solution : Int}
    (returned : ProofOfWork.solve sha nonce difficulty fuel = some (.ok solution)) :
    verifyPoW sha nonce (bigEndian (putSigned 8 solution)) (UInt8.ofNat difficulty) = some true := by
  -- The relay hashes the same forty bytes, and its test agrees with the client's.
  have sized : ¬ nonce.length ≠ 32 := not_not.mpr size
  have range : 1 ≤ (difficulty : Int) ∧ (difficulty : Int) ≤ 64 := by
    by_contra outside
    rw [ProofOfWork.solve, if_neg sized, if_pos outside] at returned
    cases returned
  rw [ProofOfWork.solve, if_neg sized, if_neg (not_not.mpr range)] at returned
  have found := ProofOfWork.solveFrom_found sha nonce difficulty fuel 0 solution returned
  rw [verifyPoW, copyInto_of_length size, bigEndian_putSigned_long,
    ← ProofOfWork.hasLeadingZeros_eq _ small, found]

/-! ### The two verifiers agree -/

/-- `putLong` writes a `Long` as the big-endian bytes of the `uint64` with the same bits. -/
theorem putSigned_long (solution : Int) :
    putSigned 8 solution = putBigEndian 8 (solution % 2 ^ 64).toNat :=
  rfl

/-- The client's `verify` is the relay's `VerifyPoW`: for every 32-byte nonce, every `Long`
solution, which the relay reads as the `uint64` with the same bits, and every difficulty from 1
to 64, passed to the relay as `uint8(d)`. -/
theorem verify_eq_verifyPoW (sha : Sha256) {nonce : Bytes} (size : nonce.length = 32)
    (solution : Int) {difficulty : Int} (atLeastOne : 1 ≤ difficulty) (atMost : difficulty ≤ 64) :
    ProofOfWork.verify sha nonce solution difficulty =
      verifyPoW sha nonce (solution % 2 ^ 64).toNat (UInt8.ofNat difficulty.toNat) := by
  -- Both hash the same forty bytes, and the two leading-zero tests agree below 256.
  have whole : nonce.take 32 = copyInto 32 nonce := by
    rw [copyInto_of_length size, List.take_of_length_le (Nat.le_of_eq size)]
  have asNat : difficulty = (difficulty.toNat : Int) := (Int.toNat_of_nonneg (by omega)).symm
  rw [ProofOfWork.verify, if_neg (by omega), whole, putSigned_long, verifyPoW, asNat,
    ProofOfWork.hasLeadingZeros_eq _ (by omega), Int.toNat_ofNat]

/-- `verify_eq_verifyPoW` at a negative solution, whose bytes the relay reads as a large
`uint64`. -/
theorem verify_eq_verifyPoW_negative_solution :
    (List.replicate 32 0 : Bytes).length = 32 ∧ (1 : Int) ≤ 20 ∧ (20 : Int) ≤ 64 ∧
      ProofOfWork.verify Sha256.truncate (List.replicate 32 0) (-1) 20 =
        verifyPoW Sha256.truncate (List.replicate 32 0) ((-1 : Int) % 2 ^ 64).toNat
          (UInt8.ofNat (20 : Int).toNat) :=
  ⟨List.length_replicate 32 0, by decide, by decide,
    verify_eq_verifyPoW Sha256.truncate (List.length_replicate 32 0) (-1) (by decide) (by decide)⟩

/-! ### The relay's search -/

/-- `^uint64(0)`, where the search gives up. -/
theorem complement_zero_toNat : (~~~(0 : UInt64)).toNat = 2 ^ 64 - 1 := rfl

/-- Below `^uint64(0)`, `sol++` does not wrap. -/
theorem toNat_add_one_of_ne {sol : UInt64} (notLast : sol ≠ ~~~0) : (sol + 1).toNat = sol.toNat + 1 := by
  have below : sol.toNat ≠ 2 ^ 64 - 1 := fun last =>
    notLast (UInt64.toNat.inj (last.trans complement_zero_toNat.symm))
  have bounded : sol.toNat < 2 ^ 64 := sol.toBitVec.isLt
  show (sol.toNat + 1) % 2 ^ 64 = _
  exact Nat.mod_eq_of_lt (by omega)

/-- A `VerifyPoW` that does not pass fails: it never panics. -/
theorem verifyPoW_eq_false {sha : Sha256} {nonce : Bytes} {solution : Nat} {difficulty : UInt8}
    (fails : verifyPoW sha nonce solution difficulty ≠ some true) :
    verifyPoW sha nonce solution difficulty = some false := by
  rw [verifyPoW_eq_decide] at fails ⊢
  simpa using fails

/-- One round of the search: it returns a solution that passes `VerifyPoW`, gives up at
`^uint64(0)`, and otherwise tries the next value. -/
theorem solvePoWFrom_succ (sha : Sha256) (nonce : Bytes) (difficulty : UInt8) (fuel : Nat)
    (sol : UInt64) :
    solvePoWFrom sha nonce difficulty (fuel + 1) sol =
      if verifyPoW sha nonce sol.toNat difficulty = some true then some (.ok sol)
      else if sol = ~~~0 then some (.error "exhausted uint64 space without solution")
      else solvePoWFrom sha nonce difficulty fuel (sol + 1) := by
  -- The round's test is `VerifyPoW` on `sol`, which answers `some`.
  have answer := verifyPoW_eq_decide sha nonce sol.toNat difficulty
  rw [verifyPoW] at answer
  rw [solvePoWFrom, answer, verifyPoW, answer]
  by_cases passes : LeadingZeroBits (sha.sum256 (copyInto 32 nonce ++ putBigEndian 8 sol.toNat))
    difficulty.toNat <;> simp [passes]

/-- A search from `sol` with enough rounds left to reach `^uint64(0)` returns. -/
theorem solvePoWFrom_returns (sha : Sha256) (nonce : Bytes) (difficulty : UInt8) :
    ∀ (fuel : Nat) (sol : UInt64), 2 ^ 64 - sol.toNat ≤ fuel →
      ∃ result, solvePoWFrom sha nonce difficulty fuel sol = some result
  | 0, sol, enough => absurd enough (by have : sol.toNat < 2 ^ 64 := sol.toBitVec.isLt; omega)
  | fuel + 1, sol, enough => by
    rw [solvePoWFrom_succ]
    split_ifs with passes last
    · exact ⟨_, rfl⟩
    · exact ⟨_, rfl⟩
    · exact solvePoWFrom_returns sha nonce difficulty fuel (sol + 1)
        (by rw [toNat_add_one_of_ne last]; omega)

/-- The search never panics. -/
theorem solvePoWFrom_ne_panicked (sha : Sha256) (nonce : Bytes) (difficulty : UInt8) (reason : String) :
    ∀ (fuel : Nat) (sol : UInt64), solvePoWFrom sha nonce difficulty fuel sol ≠ some (.panicked reason)
  | 0, _ => nofun
  | fuel + 1, sol => by
    rw [solvePoWFrom_succ]
    split_ifs
    · exact nofun
    · exact nofun
    · exact solvePoWFrom_ne_panicked sha nonce difficulty reason fuel (sol + 1)

/-- A solution the search from `sol` returns passes, and every value from `sol` up to it fails. -/
theorem solvePoWFrom_ok (sha : Sha256) (nonce : Bytes) (difficulty : UInt8) :
    ∀ (fuel : Nat) (sol found : UInt64), solvePoWFrom sha nonce difficulty fuel sol = some (.ok found) →
      verifyPoW sha nonce found.toNat difficulty = some true ∧
        ∀ other : UInt64, sol.toNat ≤ other.toNat → other.toNat < found.toNat →
          verifyPoW sha nonce other.toNat difficulty = some false
  | 0, _, _, returned => by cases returned
  | fuel + 1, sol, found, returned => by
    rw [solvePoWFrom_succ] at returned
    split_ifs at returned with passes last
    · -- This round's value is the solution, and nothing lies between it and itself.
      cases returned
      exact ⟨passes, fun other low high => absurd high (by omega)⟩
    · cases returned
    · -- The search continues from `sol + 1`, and `sol` itself failed.
      obtain ⟨solution, earlier⟩ := solvePoWFrom_ok sha nonce difficulty fuel (sol + 1) found returned
      refine ⟨solution, fun other low high => ?_⟩
      rcases Nat.eq_or_lt_of_le low with same | above
      · rw [← UInt64.toNat.inj same]
        exact verifyPoW_eq_false passes
      · exact earlier other (by rw [toNat_add_one_of_ne last]; omega) high

/-- The search from `sol` gives up only when every value from `sol` on fails. -/
theorem solvePoWFrom_error (sha : Sha256) (nonce : Bytes) (difficulty : UInt8) :
    ∀ (fuel : Nat) (sol : UInt64) (err : String),
      solvePoWFrom sha nonce difficulty fuel sol = some (.error err) →
        ∀ other : UInt64, sol.toNat ≤ other.toNat → verifyPoW sha nonce other.toNat difficulty = some false
  | 0, _, _, returned => by cases returned
  | fuel + 1, sol, err, returned => by
    rw [solvePoWFrom_succ] at returned
    split_ifs at returned with passes last
    · cases returned
    · -- At `^uint64(0)` the only value left is `sol`.
      intro other low
      have top : other.toNat ≤ sol.toNat := by
        have : other.toNat < 2 ^ 64 := other.toBitVec.isLt
        rw [last, complement_zero_toNat]
        omega
      rw [UInt64.toNat.inj (Nat.le_antisymm top low)]
      exact verifyPoW_eq_false passes
    · intro other low
      rcases Nat.eq_or_lt_of_le low with same | above
      · rw [← UInt64.toNat.inj same]
        exact verifyPoW_eq_false passes
      · exact solvePoWFrom_error sha nonce difficulty fuel (sol + 1) err returned other
          (by rw [toNat_add_one_of_ne last]; omega)

/-- `SolvePoW` finds the least solution or proves there is none, for any hash function: within
`2 ^ 64` rounds it returns, and never panics; a solution it returns passes `VerifyPoW` and every
smaller `uint64` fails; and it returns an error only when every `uint64` fails. -/
theorem solvePoW_least (sha : Sha256) (nonce : Bytes) (difficulty : UInt8) :
    (∃ result, solvePoW sha nonce difficulty (2 ^ 64) = some result) ∧
    (∀ fuel reason, solvePoW sha nonce difficulty fuel ≠ some (.panicked reason)) ∧
    (∀ fuel solution, solvePoW sha nonce difficulty fuel = some (.ok solution) →
      verifyPoW sha nonce solution.toNat difficulty = some true ∧
        ∀ other : UInt64, other < solution → verifyPoW sha nonce other.toNat difficulty = some false) ∧
    ∀ fuel err, solvePoW sha nonce difficulty fuel = some (.error err) →
      ∀ other : UInt64, verifyPoW sha nonce other.toNat difficulty = some false := by
  -- The search starts at `0`, below every `uint64`.
  refine ⟨solvePoWFrom_returns sha nonce difficulty _ 0 (Nat.sub_le _ _),
    fun fuel reason => solvePoWFrom_ne_panicked sha nonce difficulty reason fuel 0, ?_, ?_⟩
  · intro fuel solution returned
    obtain ⟨passes, earlier⟩ := solvePoWFrom_ok sha nonce difficulty fuel 0 solution returned
    exact ⟨passes, fun other below => earlier other (Nat.zero_le _) below⟩
  · intro fuel err returned other
    exact solvePoWFrom_error sha nonce difficulty fuel 0 err returned other (Nat.zero_le _)

end MeshRelay
