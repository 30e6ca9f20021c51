import OmarchySync.Pairing.Transcript
import OmarchySync.Trust.Lookup

/-!
# Peer validation

An end of a handshake accepts its peer either from a certificate of the pinned root or, when
the two are already paired, against the exact identities of their record. Both ways the
accepted DeviceID is that of the accepted key.
-/

namespace OmarchySync

open Logic Wire

variable [Crypto]

/-- A certificate that names the device holding the key. -/
structure DeviceCertificate.Names (c : DeviceCertificate) (deviceId : Text)
    (publicKey : Array8 32) : Prop where
  derived : deviceId = deviceIdForPublicKey publicKey
  deviceId : c.deviceId = deviceId
  publicKey : c.publicKey = publicKey

namespace PairedIdentityContext

def roleFor (context : PairedIdentityContext) (identity : DeviceIdentity) : Result UInt8 :=
  if identity.deviceId = context.initiatorDeviceId ∧
      identity.publicKey = context.initiatorPublicKey then
    .ok roleInitiator
  else if identity.deviceId = context.responderDeviceId ∧
      identity.publicKey = context.responderPublicKey then
    .ok roleResponder
  else .error "device identity is not a participant in this pairing"

def localCertificate (context : PairedIdentityContext) (role : UInt8) : DeviceCertificate :=
  if role = roleInitiator then context.initiatorCertificate else context.responderCertificate

def peerDeviceId (context : PairedIdentityContext) (role : UInt8) : Text :=
  if role = roleInitiator then context.responderDeviceId else context.initiatorDeviceId

def identityForRole (context : PairedIdentityContext) (role : UInt8) :
    Text × Array8 32 × DeviceCertificate :=
  if role = roleInitiator then
    (context.initiatorDeviceId, context.initiatorPublicKey, context.initiatorCertificate)
  else
    (context.responderDeviceId, context.responderPublicKey, context.responderCertificate)

/-- Two distinct devices, each with a certificate that names it. -/
structure Sound (context : PairedIdentityContext) : Prop where
  distinct : context.initiatorDeviceId ≠ context.responderDeviceId
  initiator : context.initiatorCertificate.Names context.initiatorDeviceId
    context.initiatorPublicKey
  responder : context.responderCertificate.Names context.responderDeviceId
    context.responderPublicKey

variable {store : PairingStore} {record : PairingRecord} {initiator responder : DeviceCertificate}
  {context : PairedIdentityContext}

private theorem sound_of_parts (hattested : Attested store.root record record.authorizedAt)
    (hinitiator : DeviceCertificate.fromBytes record.initiatorCertificate = .ok initiator)
    (hresponder : DeviceCertificate.fromBytes record.responderCertificate = .ok responder)
    (hcontext : PairingStore.contextFromRecordParts record initiator responder = .ok context) :
    context.Sound := by
  obtain ⟨c, c', hcert, -, -⟩ := hattested
  rw [DeviceCertificate.fromBytes_eq_ok] at hinitiator hresponder
  obtain rfl := DeviceCertificate.toBytes_injective hcert.initiatorBytes hinitiator
  obtain rfl := DeviceCertificate.toBytes_injective hcert.responderBytes hresponder
  simp only [PairingStore.contextFromRecordParts, fromValidatedRecord, bind_eq_ok, bailIf_eq_ok,
    exists_const, pure_eq_ok] at hcontext
  obtain ⟨-, rfl⟩ := hcontext
  constructor
  · exact hcert.distinct
  · have hderived := hcert.initiatorIssued.deviceId
    rw [hcert.initiatorFields.1, hcert.initiatorFields.2] at hderived
    exact ⟨hderived, hcert.initiatorFields.1, hcert.initiatorFields.2⟩
  · have hderived := hcert.responderIssued.deviceId
    rw [hcert.responderFields.1, hcert.responderFields.2] at hderived
    exact ⟨hderived, hcert.responderFields.1, hcert.responderFields.2⟩

theorem sound_of_contextFromRecord {identity : DeviceIdentity}
    (h : store.contextFromRecord record identity = .ok context) : context.Sound := by
  simp only [PairingStore.contextFromRecord, bind_eq_ok, bailIf_eq_ok, exists_const] at h
  obtain ⟨_, hvalid, _, hinitiator, _, hresponder, -, hparts⟩ := h
  have hattested := ((PairingStore.validatePendingStored_eq_ok ..).mp hvalid).2
  exact sound_of_parts hattested hinitiator hresponder hparts

theorem sound_of_reconnectContext [Serde] {host : Host} {identity : DeviceIdentity}
    {pairId : Text} (h : store.reconnectContext host identity pairId = .ok context) :
    context.Sound := by
  simp only [PairingStore.reconnectContext, bind_eq_ok, bailIf_eq_ok, exists_const,
    someOr_eq_ok] at h
  obtain ⟨_, hload, record, rfl, -, _, hinitiator, _, hresponder, -, hparts⟩ := h
  simp only [PairingStore.load, bind_eq_ok] at hload
  obtain ⟨_, -, found, -, hload⟩ := hload
  cases found with
  | none => cases hload
  | some r =>
      simp only [bind_eq_ok, bailIf_eq_ok, pure_eq_ok, exists_const, Option.some.injEq] at hload
      obtain ⟨-, _, hvalid, rfl⟩ := hload
      have hattested := ((PairingStore.validateStored_eq_ok ..).mp hvalid).2
      exact sound_of_parts hattested hinitiator hresponder hparts

end PairedIdentityContext

/-- A peer whose authentication payload was accepted. -/
structure PeerAuth where
  deviceId : Text
  publicKey : Array8 32
  certificate : DeviceCertificate
  signature : Option (Array8 64)

/-- How an end of a handshake accepts its peer. -/
inductive PeerValidation where
  | current (root : PinnedOmarchyRoot) (now : UInt64)
  | paired (context : PairedIdentityContext)

namespace PeerValidation

def mode : PeerValidation → UInt8
  | current _ _ => modeFirstContact
  | paired _ => modeReconnect

/-- A pinned context is one of two distinct certified devices. -/
def Sound : PeerValidation → Prop
  | current _ _ => True
  | paired context => context.Sound

end PeerValidation

/-- Parse a payload whose certificate must verify against the pinned root. -/
def parseCurrentAuth (requireSignature : Bool) (message : String) (payload : Bytes)
    (root : PinnedOmarchyRoot) (now : UInt64) : Result PeerAuth := do
  let fields ← parseAuth payload
  bailIf (fields.signature.isSome ≠ requireSignature) message
  fields.certificate.verify root now
  bailIf (fields.certificate.deviceId ≠ fields.deviceId ∨
    fields.certificate.publicKey ≠ fields.publicKey) "peer certificate/key mismatch"
  return ⟨fields.deviceId, fields.publicKey, fields.certificate, fields.signature⟩

def parseAuthHello : Bytes → PinnedOmarchyRoot → UInt64 → Result PeerAuth :=
  parseCurrentAuth false "authentication hello unexpectedly contains signature"

def parseAuthProof : Bytes → PinnedOmarchyRoot → UInt64 → Result PeerAuth :=
  parseCurrentAuth true "authentication proof signature missing"

/-- Parse a reconnect payload against the pinned identity of `role`. The stored certificate is
compared and not verified at the current time. -/
def parsePairedAuth (payload : Bytes) (context : PairedIdentityContext) (role : UInt8)
    (requireSignature : Bool) : Result PeerAuth := do
  let fields ← parseAuth payload
  bailIf (fields.signature.isSome ≠ requireSignature)
    "unexpected reconnect authentication signature state"
  let (expectedId, expectedKey, expectedCert) := context.identityForRole role
  bailIf (fields.deviceId ≠ expectedId ∨ fields.publicKey ≠ expectedKey ∨
    fields.certificate ≠ expectedCert) "reconnect peer identity differs from active pairing"
  return ⟨fields.deviceId, fields.publicKey, fields.certificate, fields.signature⟩

/-- The certificate an accepted peer presented names it. -/
def PeerAuth.Named (peer : PeerAuth) : Prop := peer.certificate.Names peer.deviceId peer.publicKey

theorem parseCurrentAuth_named {requireSignature : Bool} {message : String} {payload : Bytes}
    {root : PinnedOmarchyRoot} {now : UInt64} {peer : PeerAuth}
    (h : parseCurrentAuth requireSignature message payload root now = .ok peer) : peer.Named := by
  simp only [parseCurrentAuth, bind_eq_ok, bailIf_eq_ok, exists_const, pure_eq_ok, not_or,
    not_not, DeviceCertificate.verify_eq_ok] at h
  obtain ⟨fields, -, -, ⟨hissued, -⟩, ⟨hid, hkey⟩, rfl⟩ := h
  have hderived := hissued.deviceId
  rw [hid, hkey] at hderived
  exact ⟨hderived, hid, hkey⟩

theorem parsePairedAuth_named {payload : Bytes} {context : PairedIdentityContext} {role : UInt8}
    {requireSignature : Bool} {peer : PeerAuth} (hsound : context.Sound)
    (h : parsePairedAuth payload context role requireSignature = .ok peer) : peer.Named := by
  simp only [parsePairedAuth, bind_eq_ok, bailIf_eq_ok, exists_const, pure_eq_ok, not_or,
    not_not] at h
  obtain ⟨fields, -, -, ⟨hid, hkey, hcert⟩, rfl⟩ := h
  rw [PeerAuth.Named, hid, hkey, hcert]
  unfold PairedIdentityContext.identityForRole
  split
  · exact hsound.initiator
  · exact hsound.responder

/-- What an end of a handshake signs. -/
def signedMessage (transcript : Bytes) (role : UInt8) : Bytes :=
  signatureMagic ++ (transcript ++ [role])

/-- The payload of an identity signature. -/
def signedAuthPayload (identity : DeviceIdentity) (transcript : Bytes) (role : UInt8) : Bytes :=
  (identity.sign (signedMessage transcript role)).toList

def authProof (cert : DeviceCertificate) (identity : DeviceIdentity) (transcript : Bytes)
    (role : UInt8) : Result Bytes := do
  return (← authHello cert) ++ signedAuthPayload identity transcript role

def verifySignature (peer : PeerAuth) (transcript : Bytes) (role : UInt8) : Result Unit := do
  let signature ← someOr "peer identity signature missing" peer.signature
  verifyWithKey "peer identity signature invalid" peer.publicKey
    (signedMessage transcript role) signature

def verifySignaturePayload (peer : PeerAuth) (transcript : Bytes) (role : UInt8)
    (payload : Bytes) : Result Unit := do
  let signature ← exactly 64 "invalid identity signature size" payload
  verifyWithKey "peer identity signature invalid" peer.publicKey
    (signedMessage transcript role) signature

/-- The bytes are a signature on the message that verifies strictly under the key. -/
def VerifiesStrictly (publicKey : Array8 32) (message signature : Bytes) : Prop :=
  ∃ s : Array8 64, s.toList = signature ∧ Crypto.verifyStrict publicKey message s = true

theorem verifiesStrictly_of_verifySignature {peer : PeerAuth} {transcript : Bytes} {role : UInt8}
    {u : Unit} (h : verifySignature peer transcript role = .ok u) :
    VerifiesStrictly peer.publicKey (signedMessage transcript role)
      (signatureBytes peer.signature) := by
  simp only [verifySignature, bind_eq_ok, someOr_eq_ok, verifyWithKey_eq_ok] at h
  obtain ⟨s, hs, -, hverify⟩ := h
  exact ⟨s, by rw [hs]; rfl, hverify⟩

theorem verifiesStrictly_of_verifySignaturePayload {peer : PeerAuth} {transcript payload : Bytes}
    {role : UInt8} {u : Unit} (h : verifySignaturePayload peer transcript role payload = .ok u) :
    VerifiesStrictly peer.publicKey (signedMessage transcript role) payload := by
  simp only [verifySignaturePayload, bind_eq_ok, exactly_eq_ok, verifyWithKey_eq_ok] at h
  obtain ⟨s, hs, -, hverify⟩ := h
  exact ⟨s, hs.symm, hverify⟩

theorem authProof_eq_ok (cert : DeviceCertificate) (identity : DeviceIdentity)
    (transcript : Bytes) (role : UInt8) (out : Bytes) :
    authProof cert identity transcript role = .ok out ↔ ∃ bytes, cert.toBytes = .ok bytes ∧
      out = authLayout cert.deviceId cert.publicKey bytes
        (signatureBytes (some (identity.sign (signedMessage transcript role)))) := by
  simp only [authProof, bind_eq_ok, authHello_eq_ok, pure_eq_ok]
  constructor
  · intro h
    obtain ⟨_, ⟨bytes, hbytes, rfl⟩, rfl⟩ := h
    exact ⟨bytes, hbytes, by simp [authLayout, signatureBytes, signedAuthPayload]⟩
  · intro h
    obtain ⟨bytes, hbytes, rfl⟩ := h
    exact ⟨_, ⟨bytes, hbytes, rfl⟩, by simp [authLayout, signatureBytes, signedAuthPayload]⟩

theorem authProof_ne_ack {cert : DeviceCertificate} {identity : DeviceIdentity}
    {transcript : Bytes} {role : UInt8} {out : Bytes}
    (h : authProof cert identity transcript role = .ok out) : out ≠ ackMagic := by
  obtain ⟨bytes, -, rfl⟩ := (authProof_eq_ok ..).mp h
  have hne := append_ne_of_getElem? (m := authMagic) (n := ackMagic) (y := [])
    (x := protocolVersion :: (cert.deviceId.bytes ++ (cert.publicKey.toList ++
      (beBytes 2 bytes.length ++ (bytes ++ signatureBytes (some (identity.sign
        (signedMessage transcript role))))))))
    13 rfl rfl (by decide)
  rwa [List.append_nil] at hne

end OmarchySync
