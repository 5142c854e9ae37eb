import MeshRelay.Session.HandshakeLaws
import MeshRelay.Pow.PowLaws

/-! The Android client's side of the handshake, and the two parties run against each other. -/

namespace MeshRelay

/-! ### The solver always answers a well-formed challenge -/

/-- The scan of `count` leading bytes never runs off a hash that has them. -/
theorem leadingBytesZero_isSome : ∀ (hash : Bytes) (count : Nat), count ≤ hash.length →
    (leadingBytesZero hash count).isSome
  | hash, 0, _ => by cases hash <;> rfl
  | [], _ + 1, within => absurd within (by simp)
  | byte :: rest, count + 1, within => by
    by_cases zero : byte ≠ 0
    · simp [leadingBytesZero, zero]
    · simpa [leadingBytesZero, zero] using
        leadingBytesZero_isSome rest count (by simpa using within)

/-- The client's test reads only bytes a hash has when the difficulty's whole bytes are fewer
than the hash's. -/
theorem ProofOfWork.hasLeadingZeros_isSome (hash : Bytes) (n : Int)
    (within : (n.tdiv 8).toNat < hash.length) : (ProofOfWork.hasLeadingZeros hash n).isSome := by
  -- The scan stays inside the hash, and so does the one partial byte it reads after it.
  have scanned := leadingBytesZero_isSome hash _ (Nat.le_of_lt within)
  unfold ProofOfWork.hasLeadingZeros
  dsimp only
  split
  · split
    · simp [List.get?_eq_getElem?, within]
    · rfl
  · exact scanned

/-- `solve` on a 32-byte nonce and a difficulty in `1..64` never throws: its search either
returns a solution or is still running. -/
theorem ProofOfWork.solve_ne_error (sha : Sha256) {nonce : Bytes} (nonceSize : nonce.length = 32)
    {difficulty : Int} (range : 1 ≤ difficulty ∧ difficulty ≤ 64) (fuel : Nat) (cause : String) :
    ProofOfWork.solve sha nonce difficulty fuel ≠ some (.error cause) := by
  -- Every round tests a 32-byte digest, whose first `difficulty / 8 ≤ 8` bytes exist.
  have tested : ∀ solution, (ProofOfWork.hasLeadingZeros
      (sha.sum256 (nonce ++ putSigned 8 solution)) difficulty).isSome := fun solution =>
    ProofOfWork.hasLeadingZeros_isSome _ _ (by
      rw [sha.sum256_length, Int.tdiv_eq_ediv (by omega) (by decide)]; omega)
  have searching : ∀ fuel start, ProofOfWork.solveFrom sha nonce difficulty fuel start ≠
      some (.error cause) := by
    intro fuel
    induction fuel with
    | zero => intro start; simp [ProofOfWork.solveFrom]
    | succ fuel ih =>
      intro start
      have answered := tested start
      simp only [ProofOfWork.solveFrom]
      split
      · simp
      · exact ih _
      · rename_i thrown
        rw [thrown] at answered
        cases answered
  rw [ProofOfWork.solve, if_neg (not_not.mpr nonceSize), if_neg (not_not.mpr range)]
  exact searching fuel 0

/-! ### The client's frames -/

namespace RelayConnection

/-- The client's HELLO payload is exactly the version, the peer-ID length byte, the peer ID
and the hash: with a 32-byte hash the buffer has no room left over. -/
theorem helloPayload_eq (peerIdBytes : Bytes) {certHash : Option Bytes}
    (hashSize : ∀ hash ∈ certHash, hash.length = 32) :
    helloPayload peerIdBytes certHash =
      .ok ([0, 1, UInt8.ofNat peerIdBytes.length] ++ peerIdBytes ++ certHash.getD []) := by
  -- The content fills the allocated size, so no padding follows it.
  have version : putSigned 2 WiFiMeshConfig.protocolVersion = [0, 1] := rfl
  have filled : (putSigned 2 WiFiMeshConfig.protocolVersion ++ [UInt8.ofNat peerIdBytes.length] ++
      peerIdBytes ++ certHash.getD []).length =
        3 + peerIdBytes.length + (if certHash.isSome then WiFiMeshConfig.certHashSize else 0) := by
    cases certHash with
    | none => simp [version]; omega
    | some hash => simp [version, hashSize hash rfl, WiFiMeshConfig.certHashSize]; omega
  rw [helloPayload, allocatePut, if_pos (Nat.le_of_eq filled), filled, Nat.sub_self,
    List.replicate_zero, List.append_nil, version]
  rfl

/-- The client answers a CHALLENGE for a 32-byte nonce with the SOLUTION `solve` finds, then
reads the relay's response from the bytes after it. -/
theorem answerChallenge_solved (sha : Sha256) (fuel : Nat) {nonce : Bytes} (nonceSize : nonce.length = 32)
    (difficulty : UInt8) {solution : Int}
    (returned : ProofOfWork.solve sha nonce difficulty.toNat fuel = some (.ok solution)) (rest : Bytes) :
    answerChallenge sha fuel (MeshRelay.writeFrame frameChallenge (challengePayload nonce difficulty) ++ rest) =
      ⟨some (readResponse rest), [MeshRelay.writeFrame frameSolution (putSigned 8 solution)]⟩ := by
  -- The 33-byte payload reads back whole and splits into the nonce and the difficulty.
  have payload : challengePayload nonce difficulty = nonce ++ [difficulty] := by
    rw [challengePayload, copyInto_of_length nonceSize]
  have read := @RelayConnection.readFrame_writeFrame frameChallenge
    (challengePayload nonce difficulty) (by simp [payload, nonceSize]) rest
  rw [payload] at read ⊢
  have taken : (nonce ++ [difficulty]).take 32 = nonce := List.take_left' nonceSize
  have last : (nonce ++ [difficulty]).getD 32 0 = difficulty := by
    simp [List.getD_eq_getElem?_getD, nonceSize]
  simp only [answerChallenge, read, taken, last, returned, List.length_append, nonceSize]
  rfl

/-- An ACCEPT frame completes the client's handshake. -/
theorem readResponse_accept (rest : Bytes) :
    readResponse (MeshRelay.writeFrame frameAccept [] ++ rest) = .ok () := by
  rw [readResponse, @RelayConnection.readFrame_writeFrame frameAccept [] (by decide) rest]
  rfl

end RelayConnection

/-! ### Both parties -/

/-- The client's HELLO for a peer ID of at most 255 bytes and an optional 32-byte hash is
acceptable to a relay whose allowlist is empty or lists the hash, and carries that peer ID. -/
theorem clientHello_acceptable (cfg : Config) {peerIdBytes : Bytes} {certHash : Option Bytes}
    (idSize : peerIdBytes.length ≤ 255) (hashSize : ∀ hash ∈ certHash, hash.length = 32)
    (allowed : cfg.allowedCertHashes = [] ∨
      ∃ hash ∈ certHash, hexEncode hash ∈ cfg.allowedCertHashes) :
    let hello := [0, 1, UInt8.ofNat peerIdBytes.length] ++ peerIdBytes ++ certHash.getD []
    HelloAcceptable cfg hello ∧ helloPeerID hello = peerIdBytes := by
  intro hello
  -- The length byte is the peer ID's length, and the hash follows the peer ID.
  have idLength : helloPeerIDLen hello = peerIdBytes.length := by
    simp [helloPeerIDLen, hello, Nat.mod_eq_of_lt (Nat.lt_succ_of_le idSize)]
  have length : hello.length = 3 + peerIdBytes.length + (certHash.getD []).length := by
    simp only [hello, List.length_append, List.length_cons, List.length_nil]
  have afterID : hello.drop (3 + peerIdBytes.length) = certHash.getD [] := by
    rw [← List.drop_drop]
    exact List.drop_left _ _
  refine ⟨⟨by omega, by omega, rfl, ?_⟩, ?_⟩
  · rcases allowed with empty | ⟨hash, present, listed⟩
    · exact .inl empty
    · -- A listed hash is the one the client sent, all 32 bytes of it.
      rw [Option.mem_def] at present
      have size := hashSize hash present
      rw [present, Option.getD_some] at afterID length
      refine .inr ⟨by omega, ?_⟩
      rwa [idLength, afterID, List.take_of_length_le (Nat.le_of_eq size)]
  · rw [helloPeerID, idLength]
    exact List.take_left _ _

/-- The relay reads nothing past an empty stream: its SOLUTION read fails at the header, after
CHALLENGE. -/
theorem answerChallenge_nothing (sha : Sha256) (cfg : Config) (width : IntWidth) (peerID nonce : Bytes) :
    answerChallenge sha cfg width peerID nonce [] =
      ⟨.error (.readSolution .header), [⟨frameChallenge, challengePayload nonce cfg.powDifficulty⟩]⟩ :=
  rfl

/-- The chunks of two writes, the first arriving in time: the relay reads both when the second
arrives before the deadline too, and the first alone otherwise. -/
theorem bytesBefore_two {deadline first second : Nat} {early late : Bytes} (inTime : first < deadline) :
    bytesBefore deadline [(first, early), (second, late)] =
      if second < deadline then early ++ late else early := by
  by_cases arrived : second < deadline <;> simp [bytesBefore, inTime, arrived]

/-- An honest client whose SOLUTION reaches the relay in time completes the handshake with its
own peer ID. The Android client, given the bytes of the relay's answers, writes a HELLO and then,
once `ProofOfWork.solve` returns, a SOLUTION; the relay reads them as they arrive, at `helloAt`
and `solvedAt` nanoseconds after `PerformHandshake` set its deadline. For peer IDs of up to 255
bytes, any optional 32-byte hash, any 32-byte nonce and any difficulty in `1..64`, when the
allowlist is empty or lists the hash and the search ends within its rounds: if the SOLUTION
arrives within `HandshakeTimeout`, `PerformHandshake` admits the client with its UTF-8 peer ID,
writing exactly CHALLENGE and ACCEPT, and the client finishes without exception; if it arrives
later, the relay's read of it times out, it returns the read-SOLUTION error having written
CHALLENGE alone, and the client, finding no answer after CHALLENGE, throws. -/
theorem honest_client_admitted_in_time (sha : Sha256) (cfg : Config) (width : IntWidth)
    (peerID : String) (certHash : Option Bytes) (nonce : Bytes) (fuel helloAt solvedAt : Nat)
    (idSize : (utf8Bytes peerID).length ≤ 255) (hashSize : ∀ hash ∈ certHash, hash.length = 32)
    (nonceSize : nonce.length = 32)
    (difficulty : 1 ≤ cfg.powDifficulty.toNat ∧ cfg.powDifficulty.toNat ≤ 64)
    (allowed : cfg.allowedCertHashes = [] ∨
      ∃ hash ∈ certHash, hexEncode hash ∈ cfg.allowedCertHashes)
    (returns : (ProofOfWork.solve sha nonce cfg.powDifficulty.toNat fuel).isSome)
    (fits : 290 ≤ cfg.maxPacketSize) (helloInTime : helloAt < cfg.handshakeTimeout) :
    let client := RelayConnection.performHandshake sha peerID certHash fuel
      (writeFrames (fun frame => writeFrame frame.type frame.payload)
        (acceptTranscript nonce cfg.powDifficulty))
    let relay := performHandshakeTimed sha cfg width (.ok nonce) ([helloAt, solvedAt].zip client.writes)
    (solvedAt < cfg.handshakeTimeout → client.result = some (.ok ()) ∧
        relay = ⟨.ok (utf8Bytes peerID), acceptTranscript nonce cfg.powDifficulty⟩) ∧
      (cfg.handshakeTimeout ≤ solvedAt →
        relay = ⟨.error (.readSolution .header),
          [⟨frameChallenge, challengePayload nonce cfg.powDifficulty⟩]⟩ ∧
        (RelayConnection.performHandshake sha peerID certHash fuel
          (writeFrames (fun frame => writeFrame frame.type frame.payload) relay.written)).result =
            some (.error (.read .eof))) := by
  intro client relay
  -- The search ends with a solution, since it cannot throw.
  obtain ⟨solution, solved⟩ : ∃ solution,
      ProofOfWork.solve sha nonce cfg.powDifficulty.toNat fuel = some (.ok solution) := by
    cases found : ProofOfWork.solve sha nonce cfg.powDifficulty.toNat fuel with
    | none => simp [found] at returns
    | some answer =>
      cases answer with
      | error cause =>
        exact absurd found (ProofOfWork.solve_ne_error sha nonceSize (by omega) fuel cause)
      | ok solution => exact ⟨solution, rfl⟩
  obtain ⟨acceptable, carried⟩ := clientHello_acceptable cfg idSize hashSize allowed
  set hello := [0, 1, UInt8.ofNat (utf8Bytes peerID).length] ++ utf8Bytes peerID ++ certHash.getD []
    with helloBytes
  -- Whatever follows CHALLENGE, the client writes its HELLO and then that SOLUTION.
  have answered : ∀ rest, RelayConnection.performHandshake sha peerID certHash fuel
      (writeFrame frameChallenge (challengePayload nonce cfg.powDifficulty) ++ rest) =
        ⟨some (RelayConnection.readResponse rest),
          [writeFrame frameHello hello, writeFrame frameSolution (putSigned 8 solution)]⟩ := by
    intro rest
    simp only [RelayConnection.performHandshake, if_neg (Nat.not_lt.mpr idSize),
      RelayConnection.helloPayload_eq _ hashSize,
      RelayConnection.answerChallenge_solved sha fuel nonceSize _ solved, RelayConnection.writeFrame_eq]
    rfl
  have ran : client = ⟨some (.ok ()),
      [writeFrame frameHello hello, writeFrame frameSolution (putSigned 8 solution)]⟩ := by
    simp only [client, writeFrames, acceptTranscript, List.map, List.flatten, answered,
      RelayConnection.readResponse_accept]
  -- The HELLO is small and acceptable, and the SOLUTION verifies.
  have helloSmall : hello.length ≤ 290 := by
    rw [helloBytes]
    cases certHash with
    | none => simp; omega
    | some hash => simp [hashSize hash rfl]; omega
  have sameDifficulty : UInt8.ofNat cfg.powDifficulty.toNat = cfg.powDifficulty :=
    UInt8.toNat.inj (by simp [Nat.mod_eq_of_lt (UInt8.toNat_lt_256 _)])
  have verified := ProofOfWork.solve_verifies sha nonceSize (UInt8.toNat_lt_256 _) solved
  rw [sameDifficulty] at verified
  have read : relay = performHandshake sha cfg width (.ok nonce)
      (if solvedAt < cfg.handshakeTimeout then writeFrame frameHello hello ++
        writeFrame frameSolution (putSigned 8 solution) else writeFrame frameHello hello) := by
    simp only [relay, performHandshakeTimed, ran, List.zip_cons_cons, List.zip_nil_right,
      bytesBefore_two helloInTime]
  refine ⟨fun inTime => ?_, fun late => ?_⟩
  · -- In time the relay reads both frames and admits the client.
    rw [read, if_pos inTime, ran, ← List.append_nil (_ ++ _),
      performHandshake_admits sha cfg width (by omega) (by omega) (by simp; omega) acceptable
        (by simp) verified [], carried]
    exact ⟨rfl, rfl⟩
  · -- Late, the relay reads HELLO alone, and its SOLUTION read runs out of bytes.
    have checked := checkHello_of_acceptable cfg width (by omega) (by omega) acceptable []
    rw [List.append_nil] at checked
    have timedOut : relay = ⟨.error (.readSolution .header),
        [⟨frameChallenge, challengePayload nonce cfg.powDifficulty⟩]⟩ := by
      rw [read, if_neg (Nat.not_lt.mpr late)]
      simp only [performHandshake, checked, answerChallenge_nothing]
    refine ⟨timedOut, ?_⟩
    rw [timedOut]
    simp only [writeFrames, List.map, List.flatten, List.append_nil]
    rw [← List.append_nil (writeFrame _ _), answered]
    rfl

/-- A one-byte peer ID without a hash, at the daemon's defaults, whose SOLUTION arrives after one
second: it is admitted. -/
theorem honest_client_admitted_in_time_default_config :
    ((utf8Bytes "a").length ≤ 255 ∧ (∀ hash ∈ (none : Option Bytes), hash.length = 32) ∧
      (List.replicate 32 0 : Bytes).length = 32 ∧
      (1 ≤ defaultConfig.powDifficulty.toNat ∧ defaultConfig.powDifficulty.toNat ≤ 64) ∧
      (defaultConfig.allowedCertHashes = [] ∨
        ∃ hash ∈ (none : Option Bytes), hexEncode hash ∈ defaultConfig.allowedCertHashes) ∧
      (ProofOfWork.solve Sha256.allZero (List.replicate 32 0) defaultConfig.powDifficulty.toNat 1).isSome ∧
      290 ≤ defaultConfig.maxPacketSize ∧ 0 < defaultConfig.handshakeTimeout) ∧
    let client := RelayConnection.performHandshake Sha256.allZero "a" none 1
      (writeFrames (fun frame => writeFrame frame.type frame.payload)
        (acceptTranscript (List.replicate 32 0) defaultConfig.powDifficulty))
    let relay := performHandshakeTimed Sha256.allZero defaultConfig .w32 (.ok (List.replicate 32 0))
      ([0, 1000000000].zip client.writes)
    (1000000000 < defaultConfig.handshakeTimeout → client.result = some (.ok ()) ∧
        relay = ⟨.ok (utf8Bytes "a"), acceptTranscript (List.replicate 32 0) defaultConfig.powDifficulty⟩) ∧
      (defaultConfig.handshakeTimeout ≤ 1000000000 →
        relay = ⟨.error (.readSolution .header),
          [⟨frameChallenge, challengePayload (List.replicate 32 0) defaultConfig.powDifficulty⟩]⟩ ∧
        (RelayConnection.performHandshake Sha256.allZero "a" none 1
          (writeFrames (fun frame => writeFrame frame.type frame.payload) relay.written)).result =
            some (.error (.read .eof))) :=
  ⟨⟨by decide, by simp, by simp, by decide, .inl rfl, by decide, by decide, by decide⟩,
    honest_client_admitted_in_time Sha256.allZero defaultConfig .w32 "a" none (List.replicate 32 0) 1 0
      1000000000 (by decide) (by simp) (by simp) (by decide) (.inl rfl) (by decide) (by decide)
      (by decide)⟩

/-- A daemon started with `-pow-difficulty 40`, and a phone with peer ID `"a"` whose search ends,
but whose SOLUTION reaches the relay thirty seconds after `PerformHandshake` set its deadline, as
a search of about `2^40` hashes takes: the relay's read of SOLUTION times out after CHALLENGE,
and it returns an error and writes no ACCEPT: the client is not admitted. -/
theorem slow_solution_refused :
    let cfg := { defaultConfig with powDifficulty := 40 }
    let client := RelayConnection.performHandshake Sha256.allZero "a" none 1
      (writeFrames (fun frame => writeFrame frame.type frame.payload)
        (acceptTranscript (List.replicate 32 0) cfg.powDifficulty))
    (ProofOfWork.solve Sha256.allZero (List.replicate 32 0) cfg.powDifficulty.toNat 1).isSome ∧
      performHandshakeTimed Sha256.allZero cfg .w64 (.ok (List.replicate 32 0))
          ([0, 30 * 1000000000].zip client.writes) =
        ⟨.error (.readSolution .header), [⟨frameChallenge, challengePayload (List.replicate 32 0) 40⟩]⟩ :=
  ⟨by decide, by decide⟩

end MeshRelay
