import MeshRelay.Wire.Hex
import MeshRelay.Mesh.LinkLaws

/-! The trust material `NewRelayAuth` reads as text: the CA key given in hex, the relay's
certificate file, and the revocation list `loadCRL` reloads from disk. -/

namespace MeshRelay

/-! ### `NewRelayAuth`: the CA key and the certificate -/

/-- The error `NewRelayAuth` returns for a CA key that is not 32 bytes in hex. -/
def invalidCAKeyError : String := "invalid CA public key hex (need 32 bytes)"

/-- `NewRelayAuth`'s CA key: open mode for empty text, else the trimmed text must decode to a
32-byte key. -/
def loadCAKey (caKeyHex : String) : Except String (Option Bytes) :=
  if caKeyHex = "" then .ok none
  else
    match hexDecodeString (trimSpace caKeyHex) with
    | .ok caPub => if caPub.length ≠ pubKeyLen then .error invalidCAKeyError else .ok (some caPub)
    | .error _ => .error invalidCAKeyError

/-- `NewRelayAuth`'s certificate from the contents of `relay.cert` (`none` when the read fails):
kept when the trimmed text decodes to a 64-byte signature, and none otherwise. -/
def loadCertificate (certData : Option String) : Bytes :=
  match certData with
  | none => []
  | some text =>
    match hexDecodeString (trimSpace text) with
    | .ok cert => if cert.length = sigLen then cert else []
    | .error _ => []

/-- `loadCAKey` fails only on non-empty text, and always with `invalidCAKeyError`. -/
theorem loadCAKey_error {caKeyHex message : String} (failed : loadCAKey caKeyHex = .error message) :
    caKeyHex ≠ "" ∧ message = invalidCAKeyError := by
  -- every failing branch returns the one error
  unfold loadCAKey at failed
  split_ifs at failed with empty
  refine ⟨empty, ?_⟩
  split at failed
  · split_ifs at failed
    exact (Except.error.inj failed).symm
  · exact (Except.error.inj failed).symm

/-- `NewRelayAuth` trusts the CA key `key` exactly when the text is not empty and, trimmed, is the
64 hex digits of `key` with letters in either case; and it keeps `key` as its certificate exactly
when `relay.cert` could be read and its trimmed text is the 128 hex digits of `key`. -/
theorem newRelayAuth_hex_keys (caKeyHex : String) (certData : Option String) (key : Bytes) :
    (loadCAKey caKeyHex = .ok (some key) ↔
      caKeyHex ≠ "" ∧ key.length = pubKeyLen ∧ hexEncode key = (trimSpace caKeyHex).toLower) ∧
    (loadCertificate certData = key ∧ key ≠ [] ↔
      ∃ text, certData = some text ∧ key.length = sigLen ∧ hexEncode key = (trimSpace text).toLower) := by
  -- both read the trimmed text with `hex.DecodeString`, then check the length
  simp only [← hexDecodeString_ok_iff]
  constructor
  · unfold loadCAKey
    split_ifs with empty
    · simp [empty]
    · rcases hexDecodeString (trimSpace caKeyHex) with _ | caPub
      · simp
      · by_cases size : caPub.length = pubKeyLen <;> simp [size, empty] <;> aesop
  · cases certData with
    | none => simp [loadCertificate]
    | some text =>
      simp only [loadCertificate, Option.some.injEq, exists_eq_left']
      rcases hexDecodeString (trimSpace text) with _ | cert
      · simp
      · have long : cert.length = sigLen → cert ≠ [] := by rintro size rfl; cases size
        by_cases size : cert.length = sigLen <;> simp [size] <;> aesop

/-! ### `loadCRL` -/

/-- The keys a revocation file lists: its lines lowercased and trimmed, without empty lines and
lines starting with `#`. -/
def parseCRL (unicode : UnicodeCase) (data : String) : List String :=
  listedKeys unicode '\n' (fun line => line.data.head? != some '#') data

/-- What `loadCRL` finds on disk in one call: the modification time `os.Stat` reports and the
contents `os.ReadFile` returns, each `none` when the call fails. -/
structure CrlFile where
  modTime : Option Nat
  contents : Option String

/-- `loadCRL`: nothing changes for an empty path, a failed `Stat`, an unchanged modification time
or a failed read; otherwise the file's list replaces the old one, stamped with the file's time. -/
def loadCRL (unicode : UnicodeCase) (crlPath : String) (file : CrlFile) (auth : RelayAuth)
    (crlModTime : Nat) : RelayAuth × Nat :=
  if crlPath = "" then (auth, crlModTime)
  else
    match file.modTime with
    | none => (auth, crlModTime)
    | some modTime =>
      if modTime = crlModTime then (auth, crlModTime)
      else
        match file.contents with
        | none => (auth, crlModTime)
        | some data => ({ auth with revokedKeys := parseCRL unicode data }, modTime)

/-- `hex.EncodeToString` of a non-empty key starts with a digit, never with `#`. -/
theorem hexEncode_comment_free {key : Bytes} (nonempty : key ≠ []) :
    (hexEncode key).data.head? != some '#' := by
  -- the first character is the digit of the first byte's high half
  obtain ⟨b, rest, rfl⟩ := List.exists_cons_of_ne_nil nonempty
  have digit : (hexDigit (b.toNat / 16)).toNat ≠ 35 := by
    rw [hexDigit_toNat _ (toNat_div_sixteen_lt b)]
    split_ifs <;> omega
  simpa [hexEncode] using fun same => digit (by rw [same]; rfl)

/-- Once `loadCRL` reads a changed revocation file with a line whose trimmed text is a relay key
in hex, letters in either case, `RecvLoop` drops every datagram signed with that key. -/
theorem crl_line_drops_sender (ed : Ed25519) (unicode : UnicodeCase) (cfg : Config) (router : Bool)
    (auth : RelayAuth) (crlPath : String) (crlModTime modTime : Nat) (data line : String)
    (packet : Bytes) (configured : crlPath ≠ "") (changed : modTime ≠ crlModTime)
    (listed : line ∈ goSplit '\n' data)
    (names : hexDecodeString (trimSpace line) = .ok (packet.take pubKeyLen)) :
    let reloaded := (loadCRL unicode crlPath ⟨some modTime, some data⟩ auth crlModTime).1
    (MeshLink.recvDatagram ed ⟨cfg, router, some reloaded⟩ packet).1 = [] := by
  intro reloaded
  -- an empty datagram is too short; any other names a key now on the list
  by_cases empty : packet = []
  · simp [MeshLink.recvDatagram, empty]
  have revoked : hexEncode (packet.take pubKeyLen) ∈ reloaded.revokedKeys := by
    have fresh : reloaded.revokedKeys = parseCRL unicode data := by
      simp [reloaded, loadCRL, configured, changed]
    rw [fresh]
    have nonempty : packet.take pubKeyLen ≠ [] := by simp [empty, pubKeyLen]
    exact mem_listedKeys unicode listed nonempty names (hexEncode_comment_free nonempty)
  rcases MeshLink.recvDatagram_cases ed cfg router reloaded packet with dropped | ⟨-, kept, -⟩
  · rw [dropped]
  · exact absurd revoked kept

/-- A revocation file with one CRLF line naming the key `0xAB…AB` in upper case: once it is read,
a datagram from that key is dropped. -/
theorem crl_line_drops_sender_upper_case :
    ("relay.crl" ≠ "" ∧ 1 ≠ 0 ∧ "ABABABABABABABABABABABABABABABABABABABABABABABABABABABABABABABAB\r" ∈ goSplit '\n' "ABABABABABABABABABABABABABABABABABABABABABABABABABABABABABABABAB\r" ∧
      hexDecodeString (trimSpace "ABABABABABABABABABABABABABABABABABABABABABABABABABABABABABABABAB\r") = .ok ((List.replicate 97 0xAB).take pubKeyLen)) ∧
    (MeshLink.recvDatagram Ed25519.acceptAll ⟨defaultConfig, false, some
      (loadCRL UnicodeCase.asciiOnly "relay.crl" ⟨some 1, some "ABABABABABABABABABABABABABABABABABABABABABABABABABABABABABABABAB\r"⟩ (RelayAuth.openRelay 1) 0).1⟩
      (List.replicate 97 0xAB)).1 = [] :=
  ⟨⟨by decide, by decide, by decide, rfl⟩,
    crl_line_drops_sender Ed25519.acceptAll UnicodeCase.asciiOnly defaultConfig false
      (RelayAuth.openRelay 1) "relay.crl" 0 1 "ABABABABABABABABABABABABABABABABABABABABABABABABABABABABABABABAB\r" "ABABABABABABABABABABABABABABABABABABABABABABABABABABABABABABABAB\r" _ (by decide) (by decide) (by decide)
      (by rfl)⟩

end MeshRelay
