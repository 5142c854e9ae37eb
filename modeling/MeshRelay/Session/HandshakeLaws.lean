import MeshRelay.Session.Handshake
import MeshRelay.Wire.FrameLaws
import MeshRelay.Pow.LeadingZeros

/-! Which clients `PerformHandshake` admits, and the frames it writes on the way. -/

namespace MeshRelay

/-! ### The admission contract -/

/-- The declared peer-ID length, the third HELLO byte. -/
def helloPeerIDLen (hello : Bytes) : Nat :=
  (hello.getD 2 0).toNat

/-- The peer ID a HELLO payload carries. -/
def helloPeerID (hello : Bytes) : Bytes :=
  (hello.drop 3).take (helloPeerIDLen hello)

/-- The HELLO payload conditions of the contract: long enough, a peer ID that fits, the
protocol version, and an allowed attestation hash when an allowlist is configured. -/
def HelloAcceptable (cfg : Config) (hello : Bytes) : Prop :=
  3 ≤ hello.length ∧ 3 + helloPeerIDLen hello ≤ hello.length ∧
    bigEndian (hello.take 2) = protocolVersion ∧
    (cfg.allowedCertHashes = [] ∨
      3 + helloPeerIDLen hello + 32 ≤ hello.length ∧
        hexEncode ((hello.drop (3 + helloPeerIDLen hello)).take 32) ∈ cfg.allowedCertHashes)

/-- The contract's admission condition for `peerID`: an acceptable HELLO and then an eight-byte
SOLUTION whose value passes `VerifyPoW` for the nonce, both within the size limit. -/
def Admits (sha : Sha256) (cfg : Config) (nonce input peerID : Bytes) : Prop :=
  ∃ hello solution rest,
    input = writeFrame frameHello hello ++ writeFrame frameSolution solution ++ rest ∧
      (hello.length : Int) ≤ cfg.maxPacketSize ∧ (solution.length : Int) ≤ cfg.maxPacketSize ∧
      HelloAcceptable cfg hello ∧ solution.length = 8 ∧
      verifyPoW sha nonce (bigEndian solution) cfg.powDifficulty = some true ∧
      peerID = helloPeerID hello

/-- The frames an admitting handshake writes: CHALLENGE for the nonce, then ACCEPT. -/
def acceptTranscript (nonce : Bytes) (difficulty : UInt8) : List Frame :=
  [⟨frameChallenge, challengePayload nonce difficulty⟩, ⟨frameAccept, []⟩]

/-- A run succeeds with some peer ID. -/
def HandshakeRun.Succeeded (run : HandshakeRun) : Prop :=
  ∃ peerID, run.result = .ok peerID

/-! ### HELLO -/

/-- The attestation checks pass exactly when the contract's allowlist condition holds. -/
private theorem certChecks_pass (cfg : Config) (hello : Bytes) :
    ((3 + helloPeerIDLen hello + 32 ≤ hello.length →
        cfg.allowedCertHashes.length > 0 →
          hexEncode ((hello.drop (3 + helloPeerIDLen hello)).take 32) ∈ cfg.allowedCertHashes) ∧
      (¬ 3 + helloPeerIDLen hello + 32 ≤ hello.length → ¬ cfg.allowedCertHashes.length > 0)) ↔
    (cfg.allowedCertHashes = [] ∨
      3 + helloPeerIDLen hello + 32 ≤ hello.length ∧
        hexEncode ((hello.drop (3 + helloPeerIDLen hello)).take 32) ∈ cfg.allowedCertHashes) := by
  -- An empty allowlist passes both branches; a non-empty one needs a present, listed hash.
  rcases List.eq_nil_or_concat cfg.allowedCertHashes with empty | ⟨others, last, nonempty⟩
  · simp [empty]
  · have positive : cfg.allowedCertHashes.length > 0 := by simp [nonempty]
    have notEmpty : cfg.allowedCertHashes ≠ [] := by simp [nonempty]
    simp only [positive, notEmpty, false_or, not_true, imp_false, not_not, true_implies]
    tauto

/-- The HELLO checks pass exactly on an acceptable HELLO, and return its peer ID. -/
theorem checkHelloFrame_ok_iff (cfg : Config) (hello : Frame) (peerID : Bytes) :
    checkHelloFrame cfg hello = .ok peerID ↔
      hello.type = frameHello ∧ HelloAcceptable cfg hello.payload ∧
        peerID = helloPeerID hello.payload := by
  have certs := certChecks_pass cfg hello.payload
  unfold HelloAcceptable helloPeerID helloPeerIDLen at *
  constructor
  · -- Each accepting branch passed the checks before it, and one of the hash branches; the
    -- checks are split one at a time, as `split_ifs` on the whole body is slow.
    intro checked
    unfold checkHelloFrame at checked
    by_cases isHello : hello.type ≠ frameHello
    · rw [if_pos isHello] at checked
      cases checked
    rw [if_neg isHello] at checked
    by_cases short : hello.payload.length < 3
    · rw [if_pos short] at checked
      cases checked
    rw [if_neg short] at checked
    dsimp only at checked
    by_cases overflow : 3 + (hello.payload.getD 2 0).toNat > hello.payload.length
    · rw [if_pos overflow] at checked
      cases checked
    rw [if_neg overflow] at checked
    by_cases version : bigEndian (hello.payload.take 2) ≠ protocolVersion
    · rw [if_pos version] at checked
      cases checked
    rw [if_neg version] at checked
    split_ifs at checked with room listed absent <;> cases checked
    all_goals
      refine ⟨not_not.mp isHello, ⟨by omega, by omega, not_not.mp version, certs.mp ?_⟩, rfl⟩
      constructor <;> intros <;> first | contradiction | omega | assumption
  · -- Acceptable bytes pass each check in turn, whichever hash branch they take.
    rintro ⟨isHello, ⟨long, fits, version, allowed⟩, rfl⟩
    obtain ⟨passesRoom, passesAbsent⟩ := certs.mpr allowed
    unfold checkHelloFrame
    dsimp only
    rw [if_neg (not_not.mpr isHello), if_neg (by omega), if_neg (by omega),
      if_neg (not_not.mpr version)]
    by_cases room : 3 + (hello.payload.getD 2 0).toNat + 32 ≤ hello.payload.length
    · rw [if_pos room]
      by_cases listed : cfg.allowedCertHashes.length > 0
      · rw [if_pos listed, if_neg (not_not.mpr (passesRoom room listed))]
      · rw [if_neg listed]
    · rw [if_neg room, if_neg (passesAbsent room)]

/-- An acceptable HELLO frame within the limit passes the HELLO step, leaving the bytes after
it. -/
theorem checkHello_of_acceptable (cfg : Config) (width : IntWidth) {hello : Bytes}
    (fits : (hello.length : Int) ≤ cfg.maxPacketSize) (small : hello.length < 2 ^ 31)
    (acceptable : HelloAcceptable cfg hello) (rest : Bytes) :
    checkHello cfg width (writeFrame frameHello hello ++ rest) = .ok (helloPeerID hello, rest) := by
  -- The frame reads back and passes the checks.
  have read := readFrame_writeFrame width cfg.maxPacketSize frameHello hello fits small rest
  have passes := (checkHelloFrame_ok_iff cfg ⟨frameHello, hello⟩ (helloPeerID hello)).mpr
    ⟨rfl, acceptable, rfl⟩
  simp [checkHello, read, passes, Except.map]

/-- The SOLUTION checks succeed exactly on an eight-byte SOLUTION that passes `VerifyPoW`, and
return the peer ID from HELLO. -/
theorem judgeSolution_ok_iff (sha : Sha256) (cfg : Config) (peerID nonce : Bytes) (sol : Frame)
    (id : Bytes) :
    (judgeSolution sha cfg peerID nonce sol).result = .ok id ↔
      sol.type = frameSolution ∧ sol.payload.length = 8 ∧
        verifyPoW sha nonce (bigEndian sol.payload) cfg.powDifficulty = some true ∧ id = peerID := by
  unfold judgeSolution
  split_ifs with wrongType wrongSize
  · simp [wrongType]
  · simp [wrongSize]
  · cases verified : verifyPoW sha nonce (bigEndian sol.payload) cfg.powDifficulty with
    | none => simp
    | some passed => cases passed <;> simp_all [eq_comm]

/-- Judging SOLUTION either succeeds and writes ACCEPT alone, or fails and writes only REJECT. -/
theorem judgeSolution_written (sha : Sha256) (cfg : Config) (peerID nonce : Bytes) (sol : Frame) :
    let verdict := judgeSolution sha cfg peerID nonce sol
    (verdict.Succeeded ∧ verdict.written = [⟨frameAccept, []⟩]) ∨
      (¬ verdict.Succeeded ∧ ∀ frame ∈ verdict.written, frame.type = frameReject) := by
  unfold judgeSolution
  split_ifs
  · simp [HandshakeRun.Succeeded]
  · simp [HandshakeRun.Succeeded]
  · split <;> simp [HandshakeRun.Succeeded, rejectFrame]

/-- An acceptable HELLO and a passing eight-byte SOLUTION, both within the limit and the HELLO
short enough to convert exactly, are admitted with the HELLO's peer ID after CHALLENGE and
ACCEPT. -/
theorem performHandshake_admits (sha : Sha256) (cfg : Config) (width : IntWidth)
    {nonce hello solution : Bytes} (helloFits : (hello.length : Int) ≤ cfg.maxPacketSize)
    (small : hello.length < 2 ^ 31) (solutionFits : (solution.length : Int) ≤ cfg.maxPacketSize)
    (acceptable : HelloAcceptable cfg hello) (eight : solution.length = 8)
    (verified : verifyPoW sha nonce (bigEndian solution) cfg.powDifficulty = some true)
    (after : Bytes) :
    performHandshake sha cfg width (.ok nonce)
        (writeFrame frameHello hello ++ writeFrame frameSolution solution ++ after) =
      ⟨.ok (helloPeerID hello), acceptTranscript nonce cfg.powDifficulty⟩ := by
  -- HELLO passes and leaves the SOLUTION frame, which reads back and is judged good.
  have checked := checkHello_of_acceptable cfg width helloFits small acceptable
    (writeFrame frameSolution solution ++ after)
  have read := readFrame_writeFrame width cfg.maxPacketSize frameSolution solution solutionFits
    (by omega) after
  have judged := (judgeSolution_ok_iff sha cfg (helloPeerID hello) nonce ⟨frameSolution, solution⟩
    (helloPeerID hello)).mpr ⟨rfl, eight, verified, rfl⟩
  rcases judgeSolution_written sha cfg (helloPeerID hello) nonce ⟨frameSolution, solution⟩ with
    ⟨_, accept⟩ | ⟨bad, _⟩
  · rw [List.append_assoc]
    simp only [performHandshake, checked, answerChallenge, read, judged, accept, acceptTranscript,
      List.singleton_append]
  · exact absurd ⟨_, judged⟩ bad

end MeshRelay
