import OmarchySync.Runtime.Phases
import OmarchySync.Trust.Size

/-!
# Two enrolled devices

What two devices that are to be paired write down: the offer the responder signs, and the
agreed record that the initiator has signed as well. Whatever the session, both pass every
check of the store at both ends.
-/

namespace OmarchySync

open Logic Wire Traced

variable [Crypto]

/-- Two devices under one root, each with a certificate in its own name. -/
structure Partners where
  root : PinnedOmarchyRoot
  initiator : DeviceIdentity
  responder : DeviceIdentity
  initiatorCertificate : DeviceCertificate
  responderCertificate : DeviceCertificate
  initiatorHolds : initiator.Holds initiatorCertificate
  responderHolds : responder.Holds responderCertificate
  distinct : initiator.deviceId ≠ responder.deviceId

/-- What an attempt adds to the two certificates. -/
structure Terms where
  pairId : Text
  binding : Array8 32
  marker : Text
  time : UInt64

/-- The terms of a renewed attempt: the approval stays, the session is another one. -/
def Terms.renew (t : Terms) (pairId : Text) (binding : Array8 32) : Terms :=
  { t with pairId, binding }

namespace Partners

/-- Both certificates verify. -/
structure ValidAt (P : Partners) (now : UInt64) : Prop where
  initiator : P.initiatorCertificate.verify P.root now = .ok ()
  responder : P.responderCertificate.verify P.root now = .ok ()

/-- The record that the responder's user authorizes, without signatures. -/
def draft (P : Partners) (t : Terms) : PairingRecord where
  protocolVersion := protocolVersion
  domain := recordDomain
  pairId := t.pairId
  initiatorDeviceId := P.initiator.deviceId
  responderDeviceId := P.responder.deviceId
  initiatorPublicKey := P.initiator.publicKey
  responderPublicKey := P.responder.publicKey
  initiatorCertificate :=
    P.initiatorCertificate.layout P.initiatorCertificate.signature.toList
  responderCertificate :=
    P.responderCertificate.layout P.responderCertificate.signature.toList
  sessionBinding := t.binding
  authorizingDeviceId := P.responder.deviceId
  userPresence := t.marker
  authorizedAt := t.time
  initiatorSignature := none
  responderSignature := none

/-- The draft under the responder's signature. -/
def offer (P : Partners) (t : Terms) : PairingRecord :=
  (P.draft t).setSignature roleResponder (P.responder.sign ((P.draft t).layout [roleResponder]))

/-- The offer under the initiator's signature as well. -/
def agreed (P : Partners) (t : Terms) : PairingRecord :=
  (P.offer t).setSignature roleInitiator (P.initiator.sign ((P.offer t).layout [roleInitiator]))

/-- A marker that the store accepts, short enough for any record with it to fit its file. -/
structure Presentable (marker : Text) : Prop where
  accepted : marker.bytes ≠ [] ∧ marker.len ≤ maxMarkerBytes
  room : (jsonString marker.bytes).length ≤ 358

/-- Terms that both stores accept. -/
structure Fair (P : Partners) (t : Terms) : Prop where
  pairId : HexId t.pairId
  marker : Presentable t.marker
  time : t.time ≠ 0
  valid : P.ValidAt t.time

variable {P : Partners} {t : Terms} {r : PairingRecord} {now : UInt64}

theorem Fair.renew {pairId : Text} (h : P.Fair t) (hid : HexId pairId) (binding : Array8 32) :
    P.Fair (t.renew pairId binding) :=
  ⟨hid, h.marker, h.time, h.valid⟩

@[simp]
theorem agreed_pairId : (P.agreed t).pairId = t.pairId := rfl

theorem agreed_complete : (P.agreed t).isComplete = true := rfl

theorem ValidAt.issued (h : P.ValidAt now) :
    (P.initiatorCertificate.IssuedBy P.root ∧ P.initiatorCertificate.ValidAt now) ∧
      P.responderCertificate.IssuedBy P.root ∧ P.responderCertificate.ValidAt now :=
  ⟨(DeviceCertificate.verify_eq_ok ..).mp h.initiator,
    (DeviceCertificate.verify_eq_ok ..).mp h.responder⟩

theorem ValidAt.bytes (h : P.ValidAt now) :
    P.initiatorCertificate.toBytes =
        .ok (P.initiatorCertificate.layout P.initiatorCertificate.signature.toList) ∧
      P.responderCertificate.toBytes =
        .ok (P.responderCertificate.layout P.responderCertificate.signature.toList) :=
  ⟨(DeviceCertificate.toBytes_eq_ok ..).mpr ⟨h.issued.1.1.shaped, rfl⟩,
    (DeviceCertificate.toBytes_eq_ok ..).mpr ⟨h.issued.2.1.shaped, rfl⟩⟩

private theorem Fair.shaped (h : P.Fair t) : (P.draft t).Shaped := by
  have hbytes := h.valid.bytes
  have hne : ∀ (c : DeviceCertificate) bytes, c.toBytes = .ok bytes → bytes ≠ [] := by
    intro c bytes hc hnil
    obtain ⟨-, rfl⟩ := (DeviceCertificate.toBytes_eq_ok ..).mp hc
    have hmagic := congrArg List.length hnil
    simp [DeviceCertificate.layout, certMagic, ascii] at hmagic
  have hdomain : recordDomain.bytes ≠ [] ∧ recordDomain.len ≤ 64 := by decide
  exact ⟨h.pairId, deviceIdForPublicKey_hexId _, deviceIdForPublicKey_hexId _, hdomain,
    deviceIdForPublicKey_hexId _, h.marker.accepted, h.time, hne _ _ hbytes.1, hne _ _ hbytes.2⟩

theorem Fair.signable (h : P.Fair t) : (P.draft t).Signable := by
  have hlen : ∀ (c : DeviceCertificate) bytes, c.toBytes = .ok bytes → bytes.length ≤ 512 := by
    intro c bytes hc
    obtain ⟨hshaped, rfl⟩ := (DeviceCertificate.toBytes_eq_ok ..).mp hc
    have hlayout := DeviceCertificate.layout_length_le hshaped c.signature.toList
    rw [List.Vector.toList_length] at hlayout
    omega
  have hbytes := h.valid.bytes
  exact ⟨h.shaped, hlen _ _ hbytes.1, hlen _ _ hbytes.2⟩

/-- The draft with any of the two signatures. -/
def signed (P : Partners) (t : Terms) (initiator responder : Bool) : PairingRecord :=
  { P.draft t with
    initiatorSignature := if initiator then
      some (P.initiator.sign ((P.draft t).layout [roleInitiator])).toList else none
    responderSignature := if responder then
      some (P.responder.sign ((P.draft t).layout [roleResponder])).toList else none }

theorem offer_eq_signed : P.offer t = P.signed t false true := rfl

theorem agreed_eq_signed : P.agreed t = P.signed t true true := rfl

theorem Fair.signable_signed (h : P.Fair t) (initiator responder : Bool) :
    (P.signed t initiator responder).Signable :=
  ⟨⟨h.shaped.pairId, h.shaped.initiatorDeviceId, h.shaped.responderDeviceId, h.shaped.domain,
    h.shaped.authorizingDeviceId, h.shaped.userPresence, h.shaped.authorizedAt,
    h.shaped.certificates⟩, h.signable.initiatorCertificate, h.signable.responderCertificate⟩

private theorem Fair.certified [LawfulCrypto] (h : P.Fair t) (initiator responder : Bool) :
    Certified P.root (P.signed t initiator responder) P.initiatorCertificate
      P.responderCertificate := by
  have hsigned : ∀ (r : PairingRecord) (identity : DeviceIdentity) role signature,
      r.Signable → signature = (identity.sign (r.layout [role])).toList →
      r.SignedAs role identity.publicKey signature := by
    intro r identity role signature hsignable hsignature
    exact ⟨hsignable, LawfulCrypto.validKey_verifyingKey _, _, hsignature.symm,
      LawfulCrypto.verifyStrict_sign _ _⟩
  have hsignable := h.signable_signed initiator responder
  refine ⟨hsignable.shaped, ⟨rfl, rfl⟩, h.valid.bytes.1, h.valid.bytes.2, h.valid.issued.1.1,
    h.valid.issued.2.1, P.initiatorHolds, P.responderHolds, P.distinct, ?_, ?_⟩
  · intro signature hsignature
    apply hsigned _ P.initiator _ _ hsignable
    cases initiator with
    | false => cases hsignature
    | true => exact (Option.some.inj hsignature).symm
  · intro signature hsignature
    apply hsigned _ P.responder _ _ hsignable
    cases responder with
    | false => cases hsignature
    | true => exact (Option.some.inj hsignature).symm

private theorem Fair.attested [LawfulCrypto] (h : P.Fair t) (initiator responder : Bool)
    (hnow : P.ValidAt now) : Attested P.root (P.signed t initiator responder) now :=
  ⟨_, _, h.certified initiator responder, hnow.issued.1.2, hnow.issued.2.2⟩

theorem Fair.validatePending [LawfulCrypto] (h : P.Fair t) (initiator : Bool) (opened : UInt64) :
    PairingStore.validatePendingStored ⟨P.root, opened⟩ (P.signed t initiator true) = .ok () := by
  refine (PairingStore.validatePendingStored_eq_ok ..).mpr ⟨?_, h.attested initiator true h.valid⟩
  rintro ⟨-, hnone⟩
  cases hnone

theorem Fair.validateStored [LawfulCrypto] (h : P.Fair t) (opened : UInt64) :
    PairingStore.validateStored ⟨P.root, opened⟩ (P.agreed t) = .ok () :=
  (PairingStore.validateStored_eq_ok ..).mpr ⟨rfl, h.attested true true h.valid⟩

theorem binds_signed (initiator responder : Bool) :
    (P.signed t initiator responder).binds P.initiator.deviceId P.responder.deviceId :=
  .inl ⟨rfl, rfl⟩

/-- What two paired devices know of each other. -/
def pairedContext (P : Partners) (pairId : Text) : PairedIdentityContext :=
  ⟨pairId, P.initiator.deviceId, P.responder.deviceId, P.initiator.publicKey,
    P.responder.publicKey, P.initiatorCertificate, P.responderCertificate⟩

private theorem contextFromRecordParts_signed (initiator responder : Bool) :
    PairingStore.contextFromRecordParts (P.signed t initiator responder) P.initiatorCertificate
      P.responderCertificate = .ok (P.pairedContext t.pairId) := by
  have hfields : ¬(P.initiator.deviceId = P.responder.deviceId ∨
      P.initiatorCertificate.deviceId ≠ P.initiator.deviceId ∨
      P.responderCertificate.deviceId ≠ P.responder.deviceId ∨
      P.initiatorCertificate.publicKey ≠ P.initiator.publicKey ∨
      P.responderCertificate.publicKey ≠ P.responder.publicKey) := by
    simp [P.distinct, P.initiatorHolds.1, P.initiatorHolds.2, P.responderHolds.1,
      P.responderHolds.2]
  exact (bind_eq_ok ..).mpr ⟨(), (bailIf_eq_ok ..).mpr hfields, rfl⟩

private theorem Fair.certificates (h : P.Fair t) (initiator responder : Bool) :
    DeviceCertificate.fromBytes (P.signed t initiator responder).initiatorCertificate =
        .ok P.initiatorCertificate ∧
      DeviceCertificate.fromBytes (P.signed t initiator responder).responderCertificate =
        .ok P.responderCertificate :=
  ⟨(DeviceCertificate.fromBytes_eq_ok ..).mpr h.valid.bytes.1,
    (DeviceCertificate.fromBytes_eq_ok ..).mpr h.valid.bytes.2⟩

theorem Fair.contextFromRecord [LawfulCrypto] {identity : DeviceIdentity} (h : P.Fair t)
    (initiator : Bool) (opened : UInt64)
    (hlocal : identity.deviceId = P.initiator.deviceId ∨
      identity.deviceId = P.responder.deviceId) :
    PairingStore.contextFromRecord ⟨P.root, opened⟩ (P.signed t initiator true) identity =
      .ok (P.pairedContext t.pairId) := by
  have hparticipant : ¬(identity.deviceId ≠ P.initiator.deviceId ∧
      identity.deviceId ≠ P.responder.deviceId) := by
    tauto
  simp only [PairingStore.contextFromRecord, h.validatePending initiator opened,
    (h.certificates initiator true).1, (h.certificates initiator true).2, ok_bind]
  exact (bind_eq_ok ..).mpr ⟨(), (bailIf_eq_ok ..).mpr hparticipant,
    contextFromRecordParts_signed initiator true⟩

section Files

variable [Serde]

theorem Fair.reconnectContext [LawfulCrypto] {identity : DeviceIdentity} {host : Host}
    (h : P.Fair t) (opened : UInt64) (hactive : host.Committed .active (P.agreed t))
    (hlocal : identity = P.initiator ∨ identity = P.responder) :
    PairingStore.reconnectContext ⟨P.root, opened⟩ host identity t.pairId =
      .ok (P.pairedContext t.pairId) := by
  have hload : PairingStore.load ⟨P.root, opened⟩ host t.pairId = .ok (some (P.agreed t)) :=
    hactive.load (h.validateStored opened)
  have hparticipant : ¬((identity.deviceId ≠ P.initiator.deviceId ∨
      identity.publicKey ≠ P.initiator.publicKey) ∧
      (identity.deviceId ≠ P.responder.deviceId ∨
        identity.publicKey ≠ P.responder.publicKey)) := by
    rcases hlocal with rfl | rfl <;> simp
  have hcertificates := h.certificates true true
  rw [← agreed_eq_signed] at hcertificates
  simp only [PairingStore.reconnectContext, hload, ok_bind, someOr, agreed_complete,
    not_true_eq_false, bailIf_false, hcertificates.1, hcertificates.2]
  exact (bind_eq_ok ..).mpr ⟨(), (bailIf_eq_ok ..).mpr hparticipant,
    contextFromRecordParts_signed true true⟩

omit [Serde] in
/-- The complete record fits its file, and so does the offer. -/
theorem Fair.size [LawfulCrypto] (h : P.Fair t) (initiator : Bool) :
    (P.signed t initiator true).toVec.length ≤ maxRecordBytes := by
  have hagreed : (P.agreed t).toVec.length ≤ maxRecordBytes := by
    have hattested := h.attested true true h.valid
    rw [agreed_eq_signed, PairingRecord.toVec_length_signed hattested.shaped ⟨rfl, rfl⟩ rfl rfl]
    exact signedSize_le hattested h.marker.room _ _
  cases initiator with
  | true => exact hagreed
  | false => exact le_trans (PairingRecord.toVec_length_le_setSignature _ rfl) hagreed

theorem Fair.read [LawfulCrypto] [LawfulSerde] (h : P.Fair t) (initiator : Bool) :
    PairingRecord.fromBytes (P.signed t initiator true).toVec =
      .ok (P.signed t initiator true) :=
  PairingRecord.fromBytes_toBytes ((PairingRecord.toBytes_eq_ok ..).mpr ⟨h.size initiator, rfl⟩)
    (h.attested initiator true h.valid).shaped

omit [Serde] in
theorem Fair.toBytes [LawfulCrypto] (h : P.Fair t) (initiator : Bool) :
    (P.signed t initiator true).toBytes = .ok (P.signed t initiator true).toVec :=
  (PairingRecord.toBytes_eq_ok ..).mpr ⟨h.size initiator, rfl⟩

end Files

section Sessions

variable [Noise] {pairId : Text} {binding : Array8 32} {s r : AuthenticatedPairingSession}

/-- The initiator's end of a session of the two. -/
def initiatorEnd (P : Partners) (pairId : Text) (binding : Array8 32)
    (transport : Noise.TransportState) : AuthenticatedPairingSession :=
  ⟨pairId, P.initiator.deviceId, P.responder.deviceId, P.initiatorCertificate,
    P.responderCertificate, binding, transport, P.responder.publicKey, roleInitiator⟩

/-- The responder's end. -/
def responderEnd (P : Partners) (pairId : Text) (binding : Array8 32)
    (transport : Noise.TransportState) : AuthenticatedPairingSession :=
  ⟨pairId, P.responder.deviceId, P.initiator.deviceId, P.responderCertificate,
    P.initiatorCertificate, binding, transport, P.initiator.publicKey, roleResponder⟩

/-- A session of one of the two with the other. -/
inductive End (P : Partners) (pairId : Text) (binding : Array8 32) :
    DeviceIdentity → AuthenticatedPairingSession → Prop where
  | initiator (transport) :
      End P pairId binding P.initiator (P.initiatorEnd pairId binding transport)
  | responder (transport) :
      End P pairId binding P.responder (P.responderEnd pairId binding transport)

variable {identity : DeviceIdentity} {session session' : AuthenticatedPairingSession}

theorem End.acts (h : P.End pairId binding identity session) :
    validateSessionIdentity session identity = .ok () := by
  cases h with
  | initiator transport => simp [validateSessionIdentity, initiatorEnd, P.initiatorHolds.2]
  | responder transport => simp [validateSessionIdentity, responderEnd, P.responderHolds.2]

/-- Either store accepts a record of the two in either session. -/
theorem Fair.fits_session [LawfulCrypto] {complete bound stored : Bool} {opened : UInt64}
    (h : P.Fair t) (initiator responder : Bool) (hend : P.End pairId binding identity session)
    (hnow : P.ValidAt (if stored then t.time else opened))
    (hcomplete : complete = true → initiator = true ∧ responder = true)
    (hbound : bound = true → binding = t.binding) :
    PairingStore.FitsSession ⟨P.root, opened⟩ (P.signed t initiator responder) session identity
      complete bound stored := by
  have hpeers : NamesPeers (P.signed t initiator responder) session := by
    cases hend with
    | initiator transport =>
        exact ⟨P.initiatorHolds.1, P.responderHolds.1, P.initiatorHolds.2, P.responderHolds.2⟩
    | responder transport =>
        exact ⟨P.initiatorHolds.1, P.responderHolds.1, P.initiatorHolds.2, P.responderHolds.2⟩
  have hlocal : session.sessionBinding = binding ∧ identity.deviceId = session.localDeviceId := by
    cases hend with
    | initiator transport => exact ⟨rfl, rfl⟩
    | responder transport => exact ⟨rfl, rfl⟩
  constructor
  · exact h.attested initiator responder hnow
  · intro hc
    obtain ⟨rfl, rfl⟩ := hcomplete hc
    rfl
  · intro hb
    exact hlocal.1.trans (hbound hb)
  · exact hpeers
  · exact .inr rfl
  · exact hlocal.2

/-- The two ends of one session, after some traffic. -/
structure Met (P : Partners) (pairId : Text) (binding : Array8 32)
    (s r : AuthenticatedPairingSession) : Prop where
  initiator : s = P.initiatorEnd pairId binding s.transport
  responder : r = P.responderEnd pairId binding r.transport

theorem Met.traffic (h : P.Met pairId binding s r) {s' r' : AuthenticatedPairingSession}
    (hs : s.SameEnds s') (hr : r.SameEnds r') : P.Met pairId binding s' r' := by
  obtain ⟨transport, rfl⟩ := hs
  obtain ⟨transport', rfl⟩ := hr
  constructor
  · exact congrArg (fun u : AuthenticatedPairingSession => { u with transport }) h.initiator
  · exact congrArg (fun u : AuthenticatedPairingSession => { u with transport := transport' })
      h.responder

theorem Met.initiatorEnd (h : P.Met pairId binding s r) : P.End pairId binding P.initiator s := by
  rw [h.initiator]
  exact .initiator _

theorem Met.responderEnd (h : P.Met pairId binding s r) : P.End pairId binding P.responder r := by
  rw [h.responder]
  exact .responder _

end Sessions

end Partners

end OmarchySync
