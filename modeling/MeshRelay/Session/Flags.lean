import MeshRelay.Wire.Hex
import MeshRelay.Session.HandshakeLaws

/-! The daemon's command line: the `Config` `main` builds from its flags, and what two of them do
to `PerformHandshake`. -/

namespace MeshRelay

/-- The flags of `main` that set fields the model reads: `-max-clients`, `-pow-difficulty` and
`-allowed-cert-hash`, as `flag.Int` and `flag.String` return them. -/
structure Flags where
  maxClients : Int
  powDifficulty : Int
  allowedCertHash : String

/-- `main`'s `-allowed-cert-hash` loop: comma-separated hashes, each lowercased and trimmed, empty
ones skipped; an empty flag leaves the map `nil`. -/
def parseAllowedCertHashes (unicode : UnicodeCase) (certHashes : String) : List String :=
  if certHashes ≠ "" then listedKeys unicode ',' (fun _ => true) certHashes else []

/-- The `Config` `main` hands to `NewRouter` and `NewServer`: `DefaultConfig()` with the flags'
values, the difficulty converted by `uint8(*difficulty)`, which keeps the low eight bits. -/
def mainConfig (unicode : UnicodeCase) (flags : Flags) : Config :=
  { defaultConfig with
    maxClients := flags.maxClients
    powDifficulty := UInt8.ofNat (flags.powDifficulty % 256).toNat
    allowedCertHashes := parseAllowedCertHashes unicode flags.allowedCertHash }

/-- A daemon started with `-allowed-cert-hash` passes the HELLO of a phone whose attestation hash
is written, letters in either case and with any spaces around it, between two commas of the flag:
the allowlist check accepts it as if no list were set. -/
theorem listed_cert_hash_passes (unicode : UnicodeCase) (flags : Flags) (piece : String)
    (hello : Bytes) (listed : piece ∈ goSplit ',' flags.allowedCertHash)
    (names : hexDecodeString (trimSpace piece) =
      .ok ((hello.drop (3 + helloPeerIDLen hello)).take 32))
    (long : 3 + helloPeerIDLen hello + 32 ≤ hello.length)
    (version : bigEndian (hello.take 2) = protocolVersion) :
    checkHelloFrame (mainConfig unicode flags) ⟨frameHello, hello⟩ = .ok (helloPeerID hello) := by
  -- the hash's hex is on the parsed list, so the contract's allowlist condition holds
  have nonempty : (hello.drop (3 + helloPeerIDLen hello)).take 32 ≠ [] := by
    simp only [ne_eq, List.take_eq_nil_iff, List.drop_eq_nil_iff]
    omega
  have filled : flags.allowedCertHash ≠ "" := fun empty => by
    rw [empty] at listed
    rcases List.mem_singleton.mp listed with rfl
    have blank : hexDecodeString (trimSpace ⟨[]⟩) = .ok [] := rfl
    exact nonempty (Except.ok.inj (blank.symm.trans names)).symm
  have onList := @mem_listedKeys unicode ',' (fun _ => true) _ _ listed _ nonempty names rfl
  refine (checkHelloFrame_ok_iff _ _ _).mpr ⟨rfl, ?_, rfl⟩
  show HelloAcceptable _ hello
  refine ⟨by omega, by omega, version, .inr ⟨long, ?_⟩⟩
  simpa [mainConfig, parseAllowedCertHashes, filled] using onList

/-- A phone whose hash is `0xAB…AB`, written in upper case behind spaces as the second entry of
the flag, passes HELLO. -/
theorem listed_cert_hash_passes_upper_case :
    let hello : Bytes := [0, 1, 0] ++ List.replicate 32 0xAB
    let flags : Flags := ⟨20, 20, "00, ABABABABABABABABABABABABABABABABABABABABABABABABABABABABABABABAB "⟩
    (" ABABABABABABABABABABABABABABABABABABABABABABABABABABABABABABABAB " ∈
        goSplit ',' flags.allowedCertHash ∧
      hexDecodeString (trimSpace " ABABABABABABABABABABABABABABABABABABABABABABABABABABABABABABABAB ") =
        .ok ((hello.drop (3 + helloPeerIDLen hello)).take 32) ∧
      3 + helloPeerIDLen hello + 32 ≤ hello.length ∧ bigEndian (hello.take 2) = protocolVersion) ∧
    checkHelloFrame (mainConfig UnicodeCase.asciiOnly flags) ⟨frameHello, hello⟩ =
      .ok (helloPeerID hello) :=
  ⟨⟨by decide, by rfl, by decide, by decide⟩,
    listed_cert_hash_passes UnicodeCase.asciiOnly _
      " ABABABABABABABABABABABABABABABABABABABABABABABABABABABABABABABAB "
      _ (by decide) (by rfl) (by decide) (by decide)⟩

/-- Any `-pow-difficulty` that is a multiple of 256 wraps to difficulty 0 under `uint8(...)` and
turns the proof of work off: `PerformHandshake` admits every client with an acceptable HELLO,
whatever eight-byte SOLUTION it sends. -/
theorem wrapped_difficulty_admits_any_solution (sha : Sha256) (unicode : UnicodeCase)
    (flags : Flags) (width : IntWidth) (wraps : flags.powDifficulty % 256 = 0)
    {nonce hello solution : Bytes} (helloFits : hello.length ≤ 65536)
    (acceptable : HelloAcceptable (mainConfig unicode flags) hello) (eight : solution.length = 8)
    (after : Bytes) :
    performHandshake sha (mainConfig unicode flags) width (.ok nonce)
        (writeFrame frameHello hello ++ writeFrame frameSolution solution ++ after) =
      ⟨.ok (helloPeerID hello), acceptTranscript nonce 0⟩ := by
  -- the difficulty is 0, at which `VerifyPoW` passes every solution
  have zero : (mainConfig unicode flags).powDifficulty = 0 := by
    simp [mainConfig, wraps]
  have verified : verifyPoW sha nonce (bigEndian solution) (mainConfig unicode flags).powDifficulty =
      some true := by
    simp [zero, verifyPoW, hasLeadingZeros, leadingBytesZero]
  rw [← zero]
  exact performHandshake_admits sha (mainConfig unicode flags) width
    (by simp [mainConfig, defaultConfig]; omega) (by omega)
    (by simp [mainConfig, defaultConfig, eight]) acceptable eight verified after

/-- `-pow-difficulty 256` admits a client whose eight-byte SOLUTION is all zeros. -/
theorem wrapped_difficulty_admits_zero_solution :
    let flags : Flags := ⟨20, 256, ""⟩
    let hello : Bytes := [0, 1, 0]
    ((256 : Int) % 256 = 0 ∧ hello.length ≤ 65536 ∧
      HelloAcceptable (mainConfig UnicodeCase.asciiOnly flags) hello ∧
      (List.replicate 8 0 : Bytes).length = 8) ∧
    performHandshake Sha256.allZero (mainConfig UnicodeCase.asciiOnly flags) .w64
        (.ok (List.replicate 32 7))
        (writeFrame frameHello hello ++ writeFrame frameSolution (List.replicate 8 0) ++ []) =
      ⟨.ok (helloPeerID hello), acceptTranscript (List.replicate 32 7) 0⟩ := by
  have acceptable : HelloAcceptable (mainConfig UnicodeCase.asciiOnly ⟨20, 256, ""⟩) [0, 1, 0] :=
    ⟨by decide, by decide, by decide, .inl (by simp [mainConfig, parseAllowedCertHashes])⟩
  exact ⟨⟨by decide, by decide, acceptable, by decide⟩,
    wrapped_difficulty_admits_any_solution Sha256.allZero UnicodeCase.asciiOnly ⟨20, 256, ""⟩ .w64
      (by decide) (by decide) acceptable (by decide) []⟩

end MeshRelay
