import OmarchySync.Session
import OmarchySync.Trust.Record

/-!
# The three record validators

`validateRecord` checks a record against a live session, `validateStored` and
`validatePendingStored` check files. All three establish the same attestation; they differ
in the time at which the certificates must be valid and in what else they ask for.
-/

namespace OmarchySync

open Logic Wire

section Peers

variable [Noise]

/-- The record names the session's two identities in their roles. -/
structure NamesPeers (r : PairingRecord) (session : AuthenticatedPairingSession) : Prop where
  initiatorId : session.certificatesByRole.1.deviceId = r.initiatorDeviceId
  responderId : session.certificatesByRole.2.deviceId = r.responderDeviceId
  initiatorKey : session.certificatesByRole.1.publicKey = r.initiatorPublicKey
  responderKey : session.certificatesByRole.2.publicKey = r.responderPublicKey

theorem namesPeers_iff (r : PairingRecord) (session : AuthenticatedPairingSession) :
    NamesPeers r session ↔
      (session.localCertificate.deviceId =
          (if session.isInitiator then r.initiatorDeviceId else r.responderDeviceId) ∧
        session.peerCertificate.deviceId =
          (if session.isInitiator then r.responderDeviceId else r.initiatorDeviceId)) ∧
      session.localCertificate.publicKey =
          (if session.isInitiator then r.initiatorPublicKey else r.responderPublicKey) ∧
        session.peerCertificate.publicKey =
          (if session.isInitiator then r.responderPublicKey else r.initiatorPublicKey) := by
  have hfields : NamesPeers r session ↔
      session.certificatesByRole.1.deviceId = r.initiatorDeviceId ∧
        session.certificatesByRole.2.deviceId = r.responderDeviceId ∧
        session.certificatesByRole.1.publicKey = r.initiatorPublicKey ∧
        session.certificatesByRole.2.publicKey = r.responderPublicKey :=
    ⟨fun h => ⟨h.initiatorId, h.responderId, h.initiatorKey, h.responderKey⟩,
      fun h => ⟨h.1, h.2.1, h.2.2.1, h.2.2.2⟩⟩
  rw [hfields]
  cases h : session.isInitiator with
  | true =>
      simp only [AuthenticatedPairingSession.certificatesByRole, h, if_true, and_assoc]
  | false =>
      simp only [AuthenticatedPairingSession.certificatesByRole, h, Bool.false_eq_true, if_false]
      tauto

end Peers

variable [Crypto]

/-- A store opened on one installation's directories. -/
structure PairingStore where
  root : PinnedOmarchyRoot
  now : UInt64

/-- Verify a signature where there is one. -/
def PairingRecord.verifyPresent (r : PairingRecord) (role : UInt8) : Option Bytes → Result Unit
  | none => .ok ()
  | some signature => r.verifyRecordSignature role signature

/-- Version, certificates of the pinned root, identity fields, distinct devices and every
present signature agree. -/
structure Certified (root : PinnedOmarchyRoot) (r : PairingRecord)
    (initiator responder : DeviceCertificate) : Prop where
  shaped : r.Shaped
  version : r.protocolVersion = protocolVersion ∧ r.domain = recordDomain
  initiatorBytes : initiator.toBytes = .ok r.initiatorCertificate
  responderBytes : responder.toBytes = .ok r.responderCertificate
  initiatorIssued : initiator.IssuedBy root
  responderIssued : responder.IssuedBy root
  initiatorFields : initiator.deviceId = r.initiatorDeviceId ∧
    initiator.publicKey = r.initiatorPublicKey
  responderFields : responder.deviceId = r.responderDeviceId ∧
    responder.publicKey = r.responderPublicKey
  distinct : r.initiatorDeviceId ≠ r.responderDeviceId
  initiatorSigned : ∀ signature, r.initiatorSignature = some signature →
    r.SignedAs roleInitiator r.initiatorPublicKey signature
  responderSigned : ∀ signature, r.responderSignature = some signature →
    r.SignedAs roleResponder r.responderPublicKey signature

/-- A certified record whose certificates are valid at `time`. -/
def Attested (root : PinnedOmarchyRoot) (r : PairingRecord) (time : UInt64) : Prop :=
  ∃ initiator responder, Certified root r initiator responder ∧ initiator.ValidAt time ∧
    responder.ValidAt time

theorem Attested.shaped {root : PinnedOmarchyRoot} {r : PairingRecord} {time : UInt64}
    (h : Attested root r time) : r.Shaped := by
  obtain ⟨_, _, hcert, _⟩ := h
  exact hcert.shaped

private theorem verifyPresent_initiator (r : PairingRecord) (u : Unit) :
    r.verifyPresent roleInitiator r.initiatorSignature = .ok u ↔
      ∀ signature, r.initiatorSignature = some signature →
        r.SignedAs roleInitiator r.initiatorPublicKey signature := by
  cases h : r.initiatorSignature with
  | none => simp [PairingRecord.verifyPresent]
  | some signature =>
      simp only [PairingRecord.verifyPresent, PairingRecord.verifyRecordSignature_initiator,
        Option.some.injEq, forall_eq']

private theorem verifyPresent_responder (r : PairingRecord) (u : Unit) :
    r.verifyPresent roleResponder r.responderSignature = .ok u ↔
      ∀ signature, r.responderSignature = some signature →
        r.SignedAs roleResponder r.responderPublicKey signature := by
  cases h : r.responderSignature with
  | none => simp [PairingRecord.verifyPresent]
  | some signature =>
      simp only [PairingRecord.verifyPresent, PairingRecord.verifyRecordSignature_responder,
        Option.some.injEq, forall_eq']

namespace PairingStore

def validateStored (store : PairingStore) (record : PairingRecord) : Result Unit := do
  record.validateShape
  bailIf (record.protocolVersion ≠ protocolVersion ∨ record.domain ≠ recordDomain)
    "pairing record protocol or domain mismatch"
  bailIf (¬record.isComplete) "active pairing record is incomplete"
  let initiator ← DeviceCertificate.fromBytes record.initiatorCertificate
  let responder ← DeviceCertificate.fromBytes record.responderCertificate
  initiator.verify store.root record.authorizedAt
  responder.verify store.root record.authorizedAt
  bailIf (initiator.deviceId ≠ record.initiatorDeviceId ∨
    initiator.publicKey ≠ record.initiatorPublicKey ∨
    responder.deviceId ≠ record.responderDeviceId ∨
    responder.publicKey ≠ record.responderPublicKey ∨
    record.initiatorDeviceId = record.responderDeviceId)
    "stored pairing certificate and identity fields differ"
  record.verifyPresent roleInitiator record.initiatorSignature
  record.verifyPresent roleResponder record.responderSignature

def validatePendingStored (store : PairingStore) (record : PairingRecord) : Result Unit := do
  record.validateShape
  bailIf (record.protocolVersion ≠ protocolVersion ∨ record.domain ≠ recordDomain)
    "pending pairing record protocol or domain mismatch"
  let initiator ← DeviceCertificate.fromBytes record.initiatorCertificate
  let responder ← DeviceCertificate.fromBytes record.responderCertificate
  initiator.verify store.root record.authorizedAt
  responder.verify store.root record.authorizedAt
  bailIf (initiator.deviceId ≠ record.initiatorDeviceId ∨
    initiator.publicKey ≠ record.initiatorPublicKey ∨
    responder.deviceId ≠ record.responderDeviceId ∨
    responder.publicKey ≠ record.responderPublicKey ∨
    record.initiatorDeviceId = record.responderDeviceId ∨
    (record.initiatorSignature = none ∧ record.responderSignature = none))
    "pending pairing certificate and identity fields differ"
  record.verifyPresent roleInitiator record.initiatorSignature
  record.verifyPresent roleResponder record.responderSignature

theorem validateStored_eq_ok (store : PairingStore) (r : PairingRecord) (u : Unit) :
    store.validateStored r = .ok u ↔
      r.isComplete = true ∧ Attested store.root r r.authorizedAt := by
  simp only [validateStored, bind_eq_ok, PairingRecord.validateShape_eq_ok, bailIf_eq_ok,
    DeviceCertificate.fromBytes_eq_ok, DeviceCertificate.verify_eq_ok, verifyPresent_initiator,
    verifyPresent_responder, exists_const, not_or, not_not]
  constructor
  · intro h
    obtain ⟨hshape, hversion, hcomplete, i, hi, rsp, hr, ⟨hissue, hvalid⟩, ⟨hissue', hvalid'⟩,
      ⟨hid, hkey, hid', hkey', hne⟩, hsig, hsig'⟩ := h
    exact ⟨hcomplete, i, rsp, ⟨hshape, hversion, hi, hr, hissue, hissue', ⟨hid, hkey⟩,
      ⟨hid', hkey'⟩, hne, hsig, hsig'⟩, hvalid, hvalid'⟩
  · intro h
    obtain ⟨hcomplete, i, rsp, hc, hvalid, hvalid'⟩ := h
    exact ⟨hc.shaped, hc.version, hcomplete, i, hc.initiatorBytes, rsp, hc.responderBytes,
      ⟨hc.initiatorIssued, hvalid⟩, ⟨hc.responderIssued, hvalid'⟩,
      ⟨hc.initiatorFields.1, hc.initiatorFields.2, hc.responderFields.1, hc.responderFields.2,
        hc.distinct⟩, hc.initiatorSigned, hc.responderSigned⟩

theorem validatePendingStored_eq_ok (store : PairingStore) (r : PairingRecord) (u : Unit) :
    store.validatePendingStored r = .ok u ↔
      ¬(r.initiatorSignature = none ∧ r.responderSignature = none) ∧
        Attested store.root r r.authorizedAt := by
  simp only [validatePendingStored, bind_eq_ok, PairingRecord.validateShape_eq_ok, bailIf_eq_ok,
    DeviceCertificate.fromBytes_eq_ok, DeviceCertificate.verify_eq_ok, verifyPresent_initiator,
    verifyPresent_responder, exists_const, not_or, not_not]
  constructor
  · intro h
    obtain ⟨hshape, hversion, i, hi, rsp, hr, ⟨hissue, hvalid⟩, ⟨hissue', hvalid'⟩,
      ⟨hid, hkey, hid', hkey', hne, hsigned⟩, hsig, hsig'⟩ := h
    exact ⟨hsigned, i, rsp, ⟨hshape, hversion, hi, hr, hissue, hissue', ⟨hid, hkey⟩,
      ⟨hid', hkey'⟩, hne, hsig, hsig'⟩, hvalid, hvalid'⟩
  · intro h
    obtain ⟨hsigned, i, rsp, hc, hvalid, hvalid'⟩ := h
    exact ⟨hc.shaped, hc.version, i, hc.initiatorBytes, rsp, hc.responderBytes,
      ⟨hc.initiatorIssued, hvalid⟩, ⟨hc.responderIssued, hvalid'⟩,
      ⟨hc.initiatorFields.1, hc.initiatorFields.2, hc.responderFields.1, hc.responderFields.2,
        hc.distinct, hsigned⟩, hc.initiatorSigned, hc.responderSigned⟩

section Session

variable [Noise]

def validateRecord (store : PairingStore) (record : PairingRecord)
    (session : AuthenticatedPairingSession) (identity : DeviceIdentity)
    (requireComplete bindSession storedCertificateTime : Bool) : Result Unit := do
  record.validateShape
  bailIf (record.protocolVersion ≠ protocolVersion ∨ record.domain ≠ recordDomain)
    "pairing record protocol or domain mismatch"
  bailIf (requireComplete ∧ ¬record.isComplete) "pairing record is not fully bilateral"
  let initiator ← DeviceCertificate.fromBytes record.initiatorCertificate
  let responder ← DeviceCertificate.fromBytes record.responderCertificate
  let certificateTime := if storedCertificateTime then record.authorizedAt else store.now
  initiator.verify store.root certificateTime
  responder.verify store.root certificateTime
  bailIf (initiator.deviceId ≠ record.initiatorDeviceId ∨
    initiator.publicKey ≠ record.initiatorPublicKey ∨
    responder.deviceId ≠ record.responderDeviceId ∨
    responder.publicKey ≠ record.responderPublicKey)
    "pairing certificate and identity fields differ"
  bailIf (record.initiatorDeviceId = record.responderDeviceId)
    "pairing roles must identify different devices"
  bailIf ((bindSession ∧ session.sessionBinding ≠ record.sessionBinding) ∨
    session.localCertificate.deviceId ≠
      (if session.isInitiator then record.initiatorDeviceId else record.responderDeviceId) ∨
    session.peerCertificate.deviceId ≠
      (if session.isInitiator then record.responderDeviceId else record.initiatorDeviceId))
    "pairing record is bound to another session"
  bailIf (session.localCertificate.publicKey ≠
      (if session.isInitiator then record.initiatorPublicKey else record.responderPublicKey) ∨
    session.peerCertificate.publicKey ≠
      (if session.isInitiator then record.responderPublicKey else record.initiatorPublicKey))
    "pairing record public keys differ from session"
  validateDeviceId record.authorizingDeviceId
  bailIf (record.authorizingDeviceId ≠ record.initiatorDeviceId ∧
    record.authorizingDeviceId ≠ record.responderDeviceId)
    "authorization marker device is not a pairing participant"
  bailIf (record.userPresence.bytes = [] ∨ record.userPresence.len > maxMarkerBytes)
    "invalid user-presence marker"
  bailIf (record.authorizedAt = 0) "invalid authorization time"
  bailIf (identity.deviceId ≠ session.localDeviceId)
    "local identity does not match authenticated session"
  record.verifyPresent roleInitiator record.initiatorSignature
  record.verifyPresent roleResponder record.responderSignature

/-- What `validateRecord` establishes. -/
structure FitsSession (store : PairingStore) (r : PairingRecord)
    (session : AuthenticatedPairingSession) (identity : DeviceIdentity)
    (requireComplete bindSession storedCertificateTime : Bool) : Prop where
  attested : Attested store.root r (if storedCertificateTime then r.authorizedAt else store.now)
  complete : requireComplete = true → r.isComplete = true
  binding : bindSession = true → session.sessionBinding = r.sessionBinding
  peers : NamesPeers r session
  authorizing : r.authorizingDeviceId = r.initiatorDeviceId ∨
    r.authorizingDeviceId = r.responderDeviceId
  localDevice : identity.deviceId = session.localDeviceId

theorem validateRecord_eq_ok (store : PairingStore) (r : PairingRecord)
    (session : AuthenticatedPairingSession) (identity : DeviceIdentity)
    (complete bound stored : Bool) (u : Unit) :
    store.validateRecord r session identity complete bound stored = .ok u ↔
      FitsSession store r session identity complete bound stored := by
  simp only [validateRecord, validateDeviceId, bind_eq_ok, PairingRecord.validateShape_eq_ok,
    bailIf_eq_ok, DeviceCertificate.fromBytes_eq_ok, DeviceCertificate.verify_eq_ok,
    verifyPresent_initiator, verifyPresent_responder, exists_const, not_or, not_and, not_not,
    not_badHexId_iff]
  constructor
  · intro h
    obtain ⟨hshape, hversion, hcomplete, i, hi, rsp, hr, ⟨hissue, hvalid⟩, ⟨hissue', hvalid'⟩,
      ⟨hid, hkey, hid', hkey'⟩, hne, ⟨hbind, hlocal, hpeer⟩, ⟨hlk, hpk⟩, _, hauth, _, _, hdev,
      hsig, hsig'⟩ := h
    refine ⟨⟨i, rsp, ⟨hshape, hversion, hi, hr, hissue, hissue', ⟨hid, hkey⟩, ⟨hid', hkey'⟩, hne,
      hsig, hsig'⟩, hvalid, hvalid'⟩, hcomplete, hbind,
      (namesPeers_iff r session).mpr ⟨⟨hlocal, hpeer⟩, hlk, hpk⟩, ?_, hdev⟩
    by_cases heq : r.authorizingDeviceId = r.initiatorDeviceId
    · exact .inl heq
    · exact .inr (hauth heq)
  · intro h
    obtain ⟨i, rsp, hc, hvalid, hvalid'⟩ := h.attested
    obtain ⟨⟨hlocal, hpeer⟩, hlk, hpk⟩ := (namesPeers_iff r session).mp h.peers
    refine ⟨hc.shaped, hc.version, h.complete, i, hc.initiatorBytes, rsp, hc.responderBytes,
      ⟨hc.initiatorIssued, hvalid⟩, ⟨hc.responderIssued, hvalid'⟩,
      ⟨hc.initiatorFields.1, hc.initiatorFields.2, hc.responderFields.1, hc.responderFields.2⟩,
      hc.distinct, ⟨h.binding, hlocal, hpeer⟩, ⟨hlk, hpk⟩, hc.shaped.authorizingDeviceId, ?_,
      ⟨hc.shaped.userPresence.1, Nat.not_lt.mpr hc.shaped.userPresence.2⟩,
      hc.shaped.authorizedAt, h.localDevice, hc.initiatorSigned, hc.responderSigned⟩
    intro hne
    exact h.authorizing.resolve_left hne

end Session

end PairingStore

end OmarchySync
