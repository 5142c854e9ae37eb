import MeshRelay.Mesh.Link

/-! Which datagrams `RecvLoop` lets through to the router, and that it parses what `Send` writes. -/

namespace MeshRelay

/-! ### The checks of `RelayAuth` -/

namespace RelayAuth

/-- `Verify` passes exactly on a 32-byte key and a 64-byte signature that Ed25519 accepts. -/
theorem verify_eq_true {ed : Ed25519} {pubKey signature data : Bytes} :
    verify ed pubKey signature data = true ↔
      pubKey.length = pubKeyLen ∧ signature.length = sigLen ∧
        ed.verify pubKey data signature = true := by
  unfold verify
  split_ifs with wrongSize
  · simp only [Bool.false_eq_true, false_iff, not_and]
    intro keySize sigSize
    omega
  · simp only [not_or, not_not] at wrongSize
    simp [wrongSize]

/-- `VerifyCertificate` passes exactly when a CA is set and signed the key with a 64-byte
certificate. -/
theorem verifyCertificate_fst {ed : Ed25519} {auth : RelayAuth} {pubKey cert : Bytes} :
    (auth.verifyCertificate ed pubKey cert).1 = true ↔
      ∃ ca, auth.caPubKey = some ca ∧ cert.length = sigLen ∧ ed.verify ca pubKey cert = true := by
  unfold verifyCertificate
  split
  · rename_i none
    simp [none]
  · rename_i ca some
    split_ifs <;> simp_all

/-- `VerifyCertificate` changes nothing but the certificate cache. -/
theorem verifyCertificate_snd (ed : Ed25519) (auth : RelayAuth) (pubKey cert : Bytes) :
    ∃ cache, (auth.verifyCertificate ed pubKey cert).2 = { auth with certCache := cache } := by
  unfold verifyCertificate
  split
  · exact ⟨auth.certCache, rfl⟩
  · split_ifs
    · exact ⟨auth.certCache, rfl⟩
    · exact ⟨auth.certCache, rfl⟩
    · exact ⟨_, rfl⟩

/-- `IsSelf` holds of the relay's own key only. -/
@[simp] theorem isSelf_eq_true {auth : RelayAuth} {pubKey : Bytes} :
    auth.isSelf pubKey = true ↔ pubKey = auth.publicKey := by
  simp [isSelf]

/-- `IsRevoked` holds of a key whose hex encoding is listed. -/
@[simp] theorem isRevoked_eq_true {auth : RelayAuth} {pubKey : Bytes} :
    auth.isRevoked pubKey = true ↔ hexEncode pubKey ∈ auth.revokedKeys := by
  simp [isRevoked]

end RelayAuth

/-! ### An authenticated datagram -/

/-- The conditions under which the payload `data` of the bytes `packet` read may reach the
router: the sender key `k = packet[0:32]` is not ours and not revoked, and the signatures of
the relay's mode verify, with `data` the bytes after the header. -/
def Authenticated (ed : Ed25519) (auth : RelayAuth) (packet data : Bytes) : Prop :=
  let k := packet.take 32
  k ≠ auth.publicKey ∧ hexEncode k ∉ auth.revokedKeys ∧
    match auth.caPubKey with
    | some ca =>
      160 < packet.length ∧ ed.verify ca k ((packet.drop 32).take 64) = true ∧
        ed.verify k data ((packet.drop 96).take 64) = true ∧ data = packet.drop 160
    | none =>
      96 < packet.length ∧ ed.verify k data ((packet.drop 32).take 64) = true ∧
        data = packet.drop 96

namespace MeshLink

/-! ### One datagram -/

/-- Delivery hands the router the payload and nothing else. -/
theorem eq_of_mem_deliver {link : MeshLink} {data : Bytes} {event : MeshEvent}
    (member : event ∈ link.deliver data) : event = .routeFromMesh data := by
  unfold deliver at member
  split at member <;> simp_all

/-- The open-mode branch leaves the link as it was. -/
theorem recvOpen_snd (ed : Ed25519) (link : MeshLink) (packet : Bytes) :
    (link.recvOpen ed packet).2 = link := by
  unfold recvOpen
  dsimp only
  split_ifs <;> rfl

/-- The open-mode branch checks only the datagram's own key. -/
theorem recvOpen_checkedKey {ed : Ed25519} {link : MeshLink} {packet pubKey : Bytes}
    {event : MeshEvent} (member : event ∈ (link.recvOpen ed packet).1)
    (checked : event.checkedKey = some pubKey) : pubKey = packet.take pubKeyLen := by
  unfold recvOpen at member
  dsimp only at member
  split_ifs at member
  · simp at member
  · simp only [List.mem_singleton] at member
    subst member
    simpa [MeshEvent.checkedKey] using checked.symm
  · rcases List.mem_append.mp member with check | delivered
    · simp only [List.mem_singleton] at check
      subst check
      simpa [MeshEvent.checkedKey] using checked.symm
    · rw [eq_of_mem_deliver delivered] at checked
      cases checked

/-- The open-mode branch delivers only the payload after a 96-byte header whose signature
over it verifies under the sender key. -/
theorem recvOpen_routed {ed : Ed25519} {link : MeshLink} {packet data : Bytes}
    (routed : .routeFromMesh data ∈ (link.recvOpen ed packet).1) :
    pubKeyLen + sigLen < packet.length ∧
      ed.verify (packet.take pubKeyLen) data ((packet.drop pubKeyLen).take sigLen) = true ∧
        data = packet.drop (pubKeyLen + sigLen) := by
  unfold recvOpen at routed
  dsimp only at routed
  split_ifs at routed with short failed
  · simp at routed
  · simp at routed
  · rcases List.mem_append.mp routed with check | delivered
    · simp at check
    · cases eq_of_mem_deliver delivered
      simp only [Bool.not_eq_true', Bool.not_eq_false', Bool.not_eq_false] at failed
      exact ⟨by omega, (RelayAuth.verify_eq_true.mp failed).2.2, rfl⟩

/-- The CA-mode branch changes nothing but the certificate cache. -/
theorem recvCertified_snd (ed : Ed25519) (cfg : Config) (router : Bool) (auth : RelayAuth)
    (packet : Bytes) : ∃ cache, ((⟨cfg, router, some auth⟩ : MeshLink).recvCertified ed auth packet).2 =
      ⟨cfg, router, some { auth with certCache := cache }⟩ := by
  unfold recvCertified
  dsimp only
  obtain ⟨cache, checked⟩ := RelayAuth.verifyCertificate_snd ed auth (packet.take pubKeyLen)
    ((packet.drop pubKeyLen).take certLen)
  split_ifs
  · exact ⟨auth.certCache, rfl⟩
  all_goals exact ⟨cache, by rw [← checked]⟩

/-- The CA-mode branch checks only the datagram's own key. -/
theorem recvCertified_checkedKey {ed : Ed25519} {link : MeshLink} {auth : RelayAuth}
    {packet pubKey : Bytes} {event : MeshEvent} (member : event ∈ (link.recvCertified ed auth packet).1)
    (checked : event.checkedKey = some pubKey) : pubKey = packet.take pubKeyLen := by
  unfold recvCertified at member
  dsimp only at member
  split_ifs at member
  · simp at member
  · simp only [List.mem_singleton] at member
    subst member
    simpa [MeshEvent.checkedKey] using checked.symm
  · simp only [List.mem_cons, List.mem_singleton, List.not_mem_nil, or_false] at member
    rcases member with rfl | rfl <;> simpa [MeshEvent.checkedKey] using checked.symm
  · rcases List.mem_append.mp member with check | delivered
    · simp only [List.mem_cons, List.mem_singleton, List.not_mem_nil, or_false] at check
      rcases check with rfl | rfl <;> simpa [MeshEvent.checkedKey] using checked.symm
    · rw [eq_of_mem_deliver delivered] at checked
      cases checked

/-- The CA-mode branch delivers only the payload after a 160-byte header whose certificate the
CA signed and whose signature over the payload verifies under the sender key. -/
theorem recvCertified_routed {ed : Ed25519} {link : MeshLink} {auth : RelayAuth}
    {packet data : Bytes} (routed : .routeFromMesh data ∈ (link.recvCertified ed auth packet).1) :
    ∃ ca, auth.caPubKey = some ca ∧ caHeaderLen < packet.length ∧
      ed.verify ca (packet.take pubKeyLen) ((packet.drop pubKeyLen).take certLen) = true ∧
      ed.verify (packet.take pubKeyLen) data ((packet.drop (pubKeyLen + certLen)).take sigLen) =
        true ∧ data = packet.drop caHeaderLen := by
  unfold recvCertified at routed
  dsimp only at routed
  split_ifs at routed with short uncertified failed
  · simp at routed
  · simp at routed
  · simp at routed
  · rcases List.mem_append.mp routed with check | delivered
    · simp at check
    · cases eq_of_mem_deliver delivered
      simp only [Bool.not_eq_true', Bool.not_eq_false', Bool.not_eq_false] at uncertified failed
      obtain ⟨ca, some, -, signed⟩ := RelayAuth.verifyCertificate_fst.mp uncertified
      exact ⟨ca, some, by omega, signed, (RelayAuth.verify_eq_true.mp failed).2.2, rfl⟩

/-- A pass of `RecvLoop` either drops the datagram untouched, or finds it long enough, from
another relay and unrevoked, and runs the branch of the relay's mode. -/
theorem recvDatagram_cases (ed : Ed25519) (cfg : Config) (router : Bool) (auth : RelayAuth)
    (packet : Bytes) :
    let link : MeshLink := ⟨cfg, router, some auth⟩
    link.recvDatagram ed packet = ([], link) ∨
      (packet.take pubKeyLen ≠ auth.publicKey ∧ hexEncode (packet.take pubKeyLen) ∉ auth.revokedKeys ∧
        link.recvDatagram ed packet =
          if auth.hasCA then link.recvCertified ed auth packet else link.recvOpen ed packet) := by
  intro link
  -- The three drops leave the link as it was; past them the mode decides the branch.
  have self : auth.isSelf (packet.take pubKeyLen) = true ↔ _ := RelayAuth.isSelf_eq_true
  have revoked : auth.isRevoked (packet.take pubKeyLen) = true ↔ _ := RelayAuth.isRevoked_eq_true
  by_cases short : packet.length ≤ pubKeyLen + sigLen
  · exact .inl (by simp [link, recvDatagram, short])
  by_cases echo : packet.take pubKeyLen = auth.publicKey
  · exact .inl (by simp [link, recvDatagram, short, self.mpr echo])
  by_cases listed : hexEncode (packet.take pubKeyLen) ∈ auth.revokedKeys
  · exact .inl (by simp [link, recvDatagram, short, self, echo, revoked.mpr listed])
  · exact .inr ⟨echo, listed, by simp [link, recvDatagram, short, self, echo, revoked, listed]⟩

/-- A pass of `RecvLoop` changes nothing but the certificate cache. -/
theorem recvDatagram_snd (ed : Ed25519) (cfg : Config) (router : Bool) (auth : RelayAuth)
    (packet : Bytes) : ∃ cache, ((⟨cfg, router, some auth⟩ : MeshLink).recvDatagram ed packet).2 =
      ⟨cfg, router, some { auth with certCache := cache }⟩ := by
  rcases recvDatagram_cases ed cfg router auth packet with dropped | ⟨-, -, checked⟩
  · exact ⟨auth.certCache, by rw [dropped]⟩
  · rw [checked]
    split
    · exact recvCertified_snd ed cfg router auth packet
    · exact ⟨auth.certCache, recvOpen_snd ed _ packet⟩

/-- A pass of `RecvLoop` delivers only the payload of an authenticated datagram. -/
theorem recvDatagram_routed {ed : Ed25519} {cfg : Config} {router : Bool} {auth : RelayAuth}
    {packet data : Bytes}
    (routed : .routeFromMesh data ∈ ((⟨cfg, router, some auth⟩ : MeshLink).recvDatagram ed packet).1) :
    Authenticated ed auth packet data := by
  rcases recvDatagram_cases ed cfg router auth packet with dropped | ⟨echo, listed, checked⟩
  · rw [dropped] at routed
    cases routed
  · refine ⟨echo, listed, ?_⟩
    rw [checked] at routed
    split at routed
    · -- CA mode: both signatures verified over the 160-byte header's slices.
      obtain ⟨ca, some, long, signed, verified, rfl⟩ := recvCertified_routed routed
      rw [some]
      exact ⟨long, signed, verified, rfl⟩
    · -- Open mode: the signature over the payload verified.
      rename_i noCA
      have none : auth.caPubKey = none := by simpa [RelayAuth.hasCA] using noCA
      obtain ⟨long, verified, rfl⟩ := recvOpen_routed routed
      rw [none]
      exact ⟨long, verified, rfl⟩

/-- A pass of `RecvLoop` calls no signature check with our own key or a revoked one. -/
theorem recvDatagram_checkedKey {ed : Ed25519} {cfg : Config} {router : Bool} {auth : RelayAuth}
    {packet pubKey : Bytes} {event : MeshEvent}
    (member : event ∈ ((⟨cfg, router, some auth⟩ : MeshLink).recvDatagram ed packet).1)
    (checked : event.checkedKey = some pubKey) :
    pubKey ≠ auth.publicKey ∧ hexEncode pubKey ∉ auth.revokedKeys := by
  -- Only a datagram past both drops is checked, and only with its own key.
  rcases recvDatagram_cases ed cfg router auth packet with dropped | ⟨echo, listed, branch⟩
  · rw [dropped] at member
    cases member
  · rw [branch] at member
    split at member
    · rw [recvCertified_checkedKey member checked]
      exact ⟨echo, listed⟩
    · rw [recvOpen_checkedKey member checked]
      exact ⟨echo, listed⟩

/-! ### The receive loop -/

/-- Every event of a run of `RecvLoop` is an event of its pass over one of the datagrams, from a
state that differs from the first only in the certificate cache. -/
theorem mem_recvLoop {ed : Ed25519} {cfg : Config} {router : Bool} {auth : RelayAuth}
    {datagrams : List Bytes} {event : MeshEvent}
    (member : event ∈ ((⟨cfg, router, some auth⟩ : MeshLink).recvLoop ed datagrams).1) :
    ∃ datagram ∈ datagrams, ∃ cache, event ∈ ((⟨cfg, router, some { auth with certCache := cache }⟩ :
      MeshLink).recvDatagram ed (datagram.take (⟨cfg, router, some auth⟩ : MeshLink).bufferLen)).1 := by
  -- Each pass keeps the configuration and every key, so the rest of the run starts alike.
  induction datagrams generalizing auth with
  | nil => cases member
  | cons datagram rest ih =>
    obtain ⟨cache, after⟩ := recvDatagram_snd ed cfg router auth (datagram.take _)
    simp only [recvLoop, List.mem_append] at member
    rcases member with here | later
    · exact ⟨datagram, List.mem_cons_self _ _, auth.certCache, here⟩
    · rw [after] at later
      obtain ⟨found, mem, cache', stepped⟩ := ih later
      exact ⟨found, List.mem_cons_of_mem _ mem, cache', stepped⟩

/-- Only authenticated, unrevoked datagrams from other relays reach the router: in every run of
`RecvLoop`, from any state and on any datagrams, each payload handed to `RouteFromMesh` is the
payload of a datagram read (truncated to `buf`) that passes every check of the relay's mode, and
no signature check is ever called with the relay's own key or a revoked one. -/
theorem recvLoop_delivers_only_authenticated (ed : Ed25519) (cfg : Config) (router : Bool)
    (auth : RelayAuth) (datagrams : List Bytes) :
    let link : MeshLink := ⟨cfg, router, some auth⟩
    let events := (link.recvLoop ed datagrams).1
    (∀ data, .routeFromMesh data ∈ events →
      ∃ datagram ∈ datagrams, Authenticated ed auth (datagram.take link.bufferLen) data) ∧
    (∀ event ∈ events, ∀ pubKey, event.checkedKey = some pubKey →
      pubKey ≠ auth.publicKey ∧ hexEncode pubKey ∉ auth.revokedKeys) := by
  intro link events
  constructor
  · intro data routed
    obtain ⟨datagram, mem, cache, stepped⟩ := mem_recvLoop routed
    -- The cache is the only field a pass changes, and no check reads it.
    exact ⟨datagram, mem, @recvDatagram_routed ed cfg router { auth with certCache := cache } _ _
      stepped⟩
  · intro event member pubKey checked
    obtain ⟨datagram, -, cache, stepped⟩ := mem_recvLoop member
    exact @recvDatagram_checkedKey ed cfg router { auth with certCache := cache } _ _ _ stepped
      checked

/-! ### Send against the receive loop -/

/-- A relay with a CA and a certificate sends `[pubkey][cert][sig][payload]`, the signature
over the payload alone. -/
theorem send_certified (ed : Ed25519) (cfg : Config) (router : Bool) (auth : RelayAuth)
    (data : Bytes) (certified : (auth.hasCA && auth.hasCertificate) = true) :
    send ed ⟨cfg, router, some auth⟩ data =
      some (auth.publicKey ++ auth.certificate ++ ed.sign auth.privateKey data ++ data) := by
  -- Each header field has exactly its region's size.
  have cert : auth.certificate.length = certLen := by
    simp only [Bool.and_eq_true, RelayAuth.hasCertificate, beq_iff_eq] at certified
    exact certified.2
  simp only [send, if_pos certified, RelayAuth.sign, copyInto_of_length auth.publicKey_size,
    copyInto_of_length cert, copyInto_of_length (ed.sign_length _ _)]

/-- Any other relay sends `[pubkey][sig][payload]`, the signature over the payload alone. -/
theorem send_open (ed : Ed25519) (cfg : Config) (router : Bool) (auth : RelayAuth)
    (data : Bytes) (uncertified : (auth.hasCA && auth.hasCertificate) = false) :
    send ed ⟨cfg, router, some auth⟩ data =
      some (auth.publicKey ++ ed.sign auth.privateKey data ++ data) := by
  simp only [send, uncertified, Bool.false_eq_true, if_false, RelayAuth.sign,
    copyInto_of_length auth.publicKey_size, copyInto_of_length (ed.sign_length _ _)]

/-- A relay in open mode delivers the payload of an open-layout datagram from another,
unrevoked relay whose signature over the payload verifies. -/
theorem recvDatagram_open_layout (ed : Ed25519) (cfg : Config) (router : Bool)
    {auth : RelayAuth} {pubKey sig data : Bytes} (keySize : pubKey.length = pubKeyLen)
    (sigSize : sig.length = sigLen) (nonempty : 0 < data.length) (other : pubKey ≠ auth.publicKey)
    (unrevoked : hexEncode pubKey ∉ auth.revokedKeys) (noCA : auth.caPubKey = none)
    (signed : ed.verify pubKey data sig = true) :
    ((⟨cfg, router, some auth⟩ : MeshLink).recvDatagram ed (pubKey ++ sig ++ data)).1 =
      .verify pubKey sig data :: (⟨cfg, router, some auth⟩ : MeshLink).deliver data := by
  -- The slices `RecvLoop` takes are the fields `Send` wrote.
  have long : ¬ (pubKey ++ sig ++ data).length ≤ pubKeyLen + sigLen := by
    simp only [List.length_append, keySize, sigSize]
    omega
  have key : (pubKey ++ sig ++ data).take pubKeyLen = pubKey := by
    rw [List.append_assoc]
    exact List.take_left' keySize
  have signature : ((pubKey ++ sig ++ data).drop pubKeyLen).take sigLen = sig := by
    rw [List.append_assoc, List.drop_left' keySize]
    exact List.take_left' sigSize
  have payload : (pubKey ++ sig ++ data).drop (pubKeyLen + sigLen) = data :=
    List.drop_left' (by simp [keySize, sigSize])
  have self : auth.isSelf pubKey = false :=
    Bool.eq_false_iff.mpr fun echo => other (RelayAuth.isSelf_eq_true.mp echo)
  have revoked : auth.isRevoked pubKey = false :=
    Bool.eq_false_iff.mpr fun listed => unrevoked (RelayAuth.isRevoked_eq_true.mp listed)
  have openMode : auth.hasCA = false := by simp [RelayAuth.hasCA, noCA]
  have verified := RelayAuth.verify_eq_true.mpr ⟨keySize, sigSize, signed⟩
  simp only [recvDatagram, recvOpen, long, key, signature, payload, self, revoked, openMode,
    verified, Bool.false_eq_true, Bool.not_true, if_false, List.singleton_append]

/-- A relay in CA mode delivers the payload of a CA-layout datagram from another, unrevoked
relay whose certificate the CA signed and whose signature over the payload verifies. -/
theorem recvDatagram_certified_layout (ed : Ed25519) (cfg : Config) (router : Bool)
    {auth : RelayAuth} {pubKey cert sig data ca : Bytes} (keySize : pubKey.length = pubKeyLen)
    (certSize : cert.length = certLen) (sigSize : sig.length = sigLen) (nonempty : 0 < data.length)
    (other : pubKey ≠ auth.publicKey) (unrevoked : hexEncode pubKey ∉ auth.revokedKeys)
    (caKey : auth.caPubKey = some ca) (endorsed : ed.verify ca pubKey cert = true)
    (signed : ed.verify pubKey data sig = true) :
    ((⟨cfg, router, some auth⟩ : MeshLink).recvDatagram ed (pubKey ++ cert ++ sig ++ data)).1 =
      .verifyCertificate pubKey cert :: .verify pubKey sig data ::
        (⟨cfg, router, some auth⟩ : MeshLink).deliver data := by
  -- The slices `RecvLoop` takes are the fields `Send` wrote.
  have short : ¬ (pubKey ++ cert ++ sig ++ data).length ≤ pubKeyLen + sigLen := by
    simp only [List.length_append, keySize, certSize, sigSize]
    omega
  have long : ¬ (pubKey ++ cert ++ sig ++ data).length ≤ caHeaderLen := by
    simp only [List.length_append, keySize, certSize, sigSize, caHeaderLen]
    omega
  have key : (pubKey ++ cert ++ sig ++ data).take pubKeyLen = pubKey := by
    rw [List.append_assoc, List.append_assoc]
    exact List.take_left' keySize
  have certificate : ((pubKey ++ cert ++ sig ++ data).drop pubKeyLen).take certLen = cert := by
    rw [List.append_assoc, List.append_assoc, List.drop_left' keySize]
    exact List.take_left' certSize
  have signature : ((pubKey ++ cert ++ sig ++ data).drop (pubKeyLen + certLen)).take sigLen = sig := by
    rw [List.append_assoc, List.drop_left' (by simp [keySize, certSize])]
    exact List.take_left' sigSize
  have payload : (pubKey ++ cert ++ sig ++ data).drop caHeaderLen = data :=
    List.drop_left' (by simp [keySize, certSize, sigSize, caHeaderLen, Nat.add_assoc])
  have self : auth.isSelf pubKey = false :=
    Bool.eq_false_iff.mpr fun echo => other (RelayAuth.isSelf_eq_true.mp echo)
  have revoked : auth.isRevoked pubKey = false :=
    Bool.eq_false_iff.mpr fun listed => unrevoked (RelayAuth.isRevoked_eq_true.mp listed)
  have caMode : auth.hasCA = true := by simp [RelayAuth.hasCA, caKey]
  have passes := RelayAuth.verifyCertificate_fst.mpr ⟨ca, caKey, certSize, endorsed⟩
  have verified := RelayAuth.verify_eq_true.mpr ⟨keySize, sigSize, signed⟩
  simp only [recvDatagram, recvCertified, short, long, key, certificate, signature, payload, self,
    revoked, caMode, passes, verified, Bool.false_eq_true, Bool.not_true, if_false, if_true,
    List.cons_append, List.singleton_append]
  rfl

/-- Mesh datagrams round-trip from sender to receiver: under Ed25519 correctness for the
sender's keys, when the sender's layout is the one the receiver's mode expects, the sender key
is neither the receiver's nor revoked there and, in CA mode, the CA signed it, the receiver's
`RecvLoop` hands exactly the payload `Send` signed to `RouteFromMesh`, once. The datagram is the
header followed by the signature over the payload alone and the payload. -/
theorem send_recvLoop_roundTrip (ed : Ed25519) (senderCfg cfg : Config) (senderRouter : Bool)
    (sender receiver : RelayAuth) (payload : Bytes)
    (nonempty : 1 ≤ payload.length) (fits : payload.length ≤ cfg.maxPacketSize)
    (correct : ∀ message,
      ed.verify sender.publicKey message (ed.sign sender.privateKey message) = true)
    (layout : (sender.hasCA && sender.hasCertificate) = receiver.hasCA)
    (notSelf : sender.publicKey ≠ receiver.publicKey)
    (notRevoked : hexEncode sender.publicKey ∉ receiver.revokedKeys)
    (certified : ∀ ca ∈ receiver.caPubKey,
      ed.verify ca sender.publicKey sender.certificate = true) :
    ∃ datagram, send ed ⟨senderCfg, senderRouter, some sender⟩ payload = some datagram ∧
      (∃ header, datagram = header ++ ed.sign sender.privateKey payload ++ payload) ∧
      ((⟨cfg, true, some receiver⟩ : MeshLink).recvLoop ed [datagram]).1.filterMap
        MeshEvent.routed = [payload] := by
  -- A datagram of at most `MaxPacketSize + caHeaderLen` bytes is read whole.
  have whole : ∀ header : Bytes, header.length ≤ caHeaderLen →
      (header ++ payload).take (⟨cfg, true, some receiver⟩ : MeshLink).bufferLen = header ++ payload :=
    fun header short => List.take_of_length_le (by simp [bufferLen, caHeaderLen] at short ⊢; omega)
  have sigSize := ed.sign_length sender.privateKey payload
  cases mode : receiver.caPubKey with
  | none =>
    have uncertified : (sender.hasCA && sender.hasCertificate) = false := by
      rw [layout]
      simp [RelayAuth.hasCA, mode]
    refine ⟨_, send_open ed senderCfg senderRouter sender payload uncertified, ⟨_, rfl⟩, ?_⟩
    rw [recvLoop, whole _ (by simp [sender.publicKey_size, sigSize, caHeaderLen]),
      recvDatagram_open_layout ed cfg true sender.publicKey_size sigSize (by omega) notSelf
        notRevoked mode (correct payload)]
    rfl
  | some ca =>
    have withCert : (sender.hasCA && sender.hasCertificate) = true := by
      rw [layout]
      simp [RelayAuth.hasCA, mode]
    have certSize : sender.certificate.length = certLen := by
      simp only [Bool.and_eq_true, RelayAuth.hasCertificate, beq_iff_eq] at withCert
      exact withCert.2
    refine ⟨_, send_certified ed senderCfg senderRouter sender payload withCert, ⟨_, rfl⟩, ?_⟩
    rw [recvLoop, List.append_assoc _ _ (ed.sign _ _),
      whole _ (by simp [sender.publicKey_size, certSize, sigSize, caHeaderLen, Nat.add_assoc]),
      ← List.append_assoc,
      recvDatagram_certified_layout ed cfg true sender.publicKey_size certSize sigSize (by omega)
        notSelf notRevoked mode (certified ca mode) (correct payload)]
    rfl

/-- Two open-mode relays with different keys carry a one-byte payload across the mesh. -/
theorem send_recvLoop_roundTrip_open_relays :
    (1 ≤ ([7] : Bytes).length ∧ (([7] : Bytes).length : Int) ≤ defaultConfig.maxPacketSize ∧
      (∀ message, Ed25519.acceptAll.verify (RelayAuth.openRelay 1).publicKey message
        (Ed25519.acceptAll.sign (RelayAuth.openRelay 1).privateKey message) = true) ∧
      ((RelayAuth.openRelay 1).hasCA && (RelayAuth.openRelay 1).hasCertificate) =
        (RelayAuth.openRelay 2).hasCA ∧
      (RelayAuth.openRelay 1).publicKey ≠ (RelayAuth.openRelay 2).publicKey ∧
      hexEncode (RelayAuth.openRelay 1).publicKey ∉ (RelayAuth.openRelay 2).revokedKeys ∧
      (∀ ca ∈ (RelayAuth.openRelay 2).caPubKey, Ed25519.acceptAll.verify ca
        (RelayAuth.openRelay 1).publicKey (RelayAuth.openRelay 1).certificate = true)) ∧
    ∃ datagram, send Ed25519.acceptAll ⟨defaultConfig, false, some (RelayAuth.openRelay 1)⟩ [7] =
        some datagram ∧
      (∃ header, datagram =
        header ++ Ed25519.acceptAll.sign (RelayAuth.openRelay 1).privateKey [7] ++ [7]) ∧
      ((⟨defaultConfig, true, some (RelayAuth.openRelay 2)⟩ : MeshLink).recvLoop Ed25519.acceptAll
        [datagram]).1.filterMap MeshEvent.routed = [[7]] :=
  ⟨⟨by decide, by decide, fun _ => rfl, rfl, by decide, by simp [RelayAuth.openRelay],
      by simp [RelayAuth.openRelay]⟩,
    send_recvLoop_roundTrip Ed25519.acceptAll defaultConfig defaultConfig false
      (RelayAuth.openRelay 1) (RelayAuth.openRelay 2) [7] (by decide) (by decide) (fun _ => rfl) rfl
      (by decide) (by simp [RelayAuth.openRelay]) (by simp [RelayAuth.openRelay])⟩

end MeshLink

end MeshRelay
