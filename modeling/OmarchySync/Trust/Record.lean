import OmarchySync.Certificate
import OmarchySync.Frame
import OmarchySync.Wire.Json

/-!
# Pairing records

The bilateral record both devices sign and persist. The signed bytes are a fixed layout of
every field except the two signatures; the stored bytes are compact JSON.
-/

namespace OmarchySync

open Logic Wire

def recordMagic : Bytes := ascii "OMARCHY-SYNC-V3-PAIRING-RECORD"
def recordSchema : UInt8 := 1
def recordDomain : Text := ⟨ascii "omarchy-sync/pairing/v3", by decide⟩
def maxMarkerBytes : Nat := 128
def maxRecordBytes : Nat := 4096

def boundedPairingField : String := "bounded pairing field exceeds limit"

structure PairingRecord where
  protocolVersion : UInt8
  domain : Text
  pairId : Text
  initiatorDeviceId : Text
  responderDeviceId : Text
  initiatorPublicKey : Array8 32
  responderPublicKey : Array8 32
  initiatorCertificate : Bytes
  responderCertificate : Bytes
  sessionBinding : Array8 32
  authorizingDeviceId : Text
  userPresence : Text
  authorizedAt : UInt64
  initiatorSignature : Option Bytes
  responderSignature : Option Bytes
  deriving DecidableEq

def validateDeviceId (deviceId : Text) : Result Unit :=
  bailIf (badHexId deviceId) "invalid DeviceID"

def checkedPairId (pairId : Text) : Result Unit := bailIf (badHexId pairId) "invalid pairing ID"

def boundedBytes (bytes : Bytes) : Result Bytes := do
  bailIf (bytes = [] ∨ bytes.length > 512) "certificate exceeds pairing record limit"
  return bytes

namespace PairingRecord

def isComplete (r : PairingRecord) : Bool :=
  r.initiatorSignature.isSome && r.responderSignature.isSome

def validateShape (r : PairingRecord) : Result Unit := do
  checkedPairId r.pairId
  bailIf (badHexId r.initiatorDeviceId) "invalid pairing DeviceID"
  bailIf (badHexId r.responderDeviceId) "invalid pairing DeviceID"
  bailIf (r.domain.bytes = [] ∨ r.domain.len > 64) "invalid pairing domain"
  validateDeviceId r.authorizingDeviceId
  bailIf (r.userPresence.bytes = [] ∨ r.userPresence.len > maxMarkerBytes)
    "invalid user-presence marker"
  bailIf (r.authorizedAt = 0) "invalid authorization time"
  bailIf (r.initiatorCertificate = [] ∨ r.responderCertificate = [])
    "pairing certificates are required"

/-- The records `validateShape` lets through. -/
structure Shaped (r : PairingRecord) : Prop where
  pairId : HexId r.pairId
  initiatorDeviceId : HexId r.initiatorDeviceId
  responderDeviceId : HexId r.responderDeviceId
  domain : r.domain.bytes ≠ [] ∧ r.domain.len ≤ 64
  authorizingDeviceId : HexId r.authorizingDeviceId
  userPresence : r.userPresence.bytes ≠ [] ∧ r.userPresence.len ≤ maxMarkerBytes
  authorizedAt : r.authorizedAt ≠ 0
  certificates : r.initiatorCertificate ≠ [] ∧ r.responderCertificate ≠ []

theorem validateShape_eq_ok (r : PairingRecord) (u : Unit) :
    r.validateShape = .ok u ↔ r.Shaped := by
  simp only [validateShape, checkedPairId, validateDeviceId, bind_eq_ok, bailIf_eq_ok,
    not_badHexId_iff, exists_const, not_or, not_lt, gt_iff_lt]
  constructor
  · intro h
    obtain ⟨hpair, hinitiator, hresponder, hdomain, hauth, hpresence, htime, hcert⟩ := h
    exact ⟨hpair, hinitiator, hresponder, hdomain, hauth, hpresence, htime, hcert⟩
  · intro h
    exact ⟨h.pairId, h.initiatorDeviceId, h.responderDeviceId, h.domain, h.authorizingDeviceId,
      h.userPresence, h.authorizedAt, h.certificates⟩

/-- The signed fields in wire order. -/
def layout (r : PairingRecord) (rest : Bytes) : Bytes :=
  recordMagic ++ recordSchema :: r.protocolVersion ::
    (beBytes 2 r.domain.len ++ (r.domain.bytes ++ (beBytes 2 r.pairId.len ++ (r.pairId.bytes ++
    (r.initiatorDeviceId.bytes ++ (r.responderDeviceId.bytes ++
    (r.initiatorPublicKey.toList ++ (r.responderPublicKey.toList ++
    (beBytes 2 r.initiatorCertificate.length ++ (r.initiatorCertificate ++
    (beBytes 2 r.responderCertificate.length ++ (r.responderCertificate ++
    (r.sessionBinding.toList ++ (r.authorizingDeviceId.bytes ++
    (beBytes 2 r.userPresence.len ++ (r.userPresence.bytes ++
    (beBytes 8 r.authorizedAt.toNat ++ rest)))))))))))))))))

/-- Canonical bytes signed by each identity. -/
def signingBytes (r : PairingRecord) : Result Bytes := do
  r.validateShape
  let initiatorCert ← boundedBytes r.initiatorCertificate
  let responderCert ← boundedBytes r.responderCertificate
  let domain ← putBytes boundedPairingField 64 r.domain.bytes
  let pairId ← putBytes boundedPairingField 32 r.pairId.bytes
  let initiatorCert ← putBytes boundedPairingField 512 initiatorCert
  let responderCert ← putBytes boundedPairingField 512 responderCert
  let userPresence ← putBytes boundedPairingField maxMarkerBytes r.userPresence.bytes
  let out := recordMagic ++ recordSchema :: r.protocolVersion :: (domain ++ (pairId ++
    (r.initiatorDeviceId.bytes ++ (r.responderDeviceId.bytes ++
    (r.initiatorPublicKey.toList ++ (r.responderPublicKey.toList ++
    (initiatorCert ++ (responderCert ++ (r.sessionBinding.toList ++
    (r.authorizingDeviceId.bytes ++ (userPresence ++ beBytes 8 r.authorizedAt.toNat)))))))))))
  bailIf (out.length > maxRecordBytes) "pairing record exceeds size limit"
  return out

/-- A record that can be signed: shaped, with certificates that fit their fields. -/
structure Signable (r : PairingRecord) : Prop where
  shaped : r.Shaped
  initiatorCertificate : r.initiatorCertificate.length ≤ 512
  responderCertificate : r.responderCertificate.length ≤ 512

theorem layout_append (r : PairingRecord) (rest : Bytes) : r.layout [] ++ rest = r.layout rest := by
  simp [layout]

private theorem layout_length_le {r : PairingRecord} (h : r.Signable) :
    (r.layout []).length ≤ maxRecordBytes := by
  have hmagic : recordMagic.length = 30 := rfl
  have hdomain : r.domain.bytes.length ≤ 64 := h.shaped.domain.2
  have hpair : r.pairId.bytes.length = 32 := h.shaped.pairId.1
  have hinitiator : r.initiatorDeviceId.bytes.length = 32 := h.shaped.initiatorDeviceId.1
  have hresponder : r.responderDeviceId.bytes.length = 32 := h.shaped.responderDeviceId.1
  have hauth : r.authorizingDeviceId.bytes.length = 32 := h.shaped.authorizingDeviceId.1
  have hpresence : r.userPresence.bytes.length ≤ 128 := h.shaped.userPresence.2
  have hcerts := And.intro h.initiatorCertificate h.responderCertificate
  simp only [layout, List.length_append, List.length_cons, beBytes_length, hmagic, hpair,
    hinitiator, hresponder, hauth, List.Vector.toList_length, List.length_nil, maxRecordBytes]
  omega

/-- Signing never meets the size limit: the bounded fields add up to less. -/
theorem signingBytes_eq_ok (r : PairingRecord) (out : Bytes) :
    r.signingBytes = .ok out ↔ r.Signable ∧ out = r.layout [] := by
  have hlayout : ∀ a b c d e : Bytes, a = beBytes 2 r.domain.bytes.length ++ r.domain.bytes →
      b = beBytes 2 r.pairId.bytes.length ++ r.pairId.bytes →
      c = beBytes 2 r.initiatorCertificate.length ++ r.initiatorCertificate →
      d = beBytes 2 r.responderCertificate.length ++ r.responderCertificate →
      e = beBytes 2 r.userPresence.bytes.length ++ r.userPresence.bytes →
      recordMagic ++ recordSchema :: r.protocolVersion :: (a ++ (b ++
        (r.initiatorDeviceId.bytes ++ (r.responderDeviceId.bytes ++
        (r.initiatorPublicKey.toList ++ (r.responderPublicKey.toList ++
        (c ++ (d ++ (r.sessionBinding.toList ++ (r.authorizingDeviceId.bytes ++
        (e ++ beBytes 8 r.authorizedAt.toNat))))))))))) = r.layout [] := by
    intro a b c d e ha hb hc hd he
    simp [layout, Text.len, ha, hb, hc, hd, he]
  simp only [signingBytes, boundedBytes, bind_eq_ok, validateShape_eq_ok, bailIf_eq_ok, pure_eq_ok,
    putBytes_eq_ok, exists_const, not_or, not_lt, gt_iff_lt]
  constructor
  · intro h
    obtain ⟨hshape, _, ⟨hinit, rfl⟩, _, ⟨hresp, rfl⟩, a, ⟨_, ha⟩, b, ⟨_, hb⟩, c, ⟨_, hc⟩, d,
      ⟨_, hd⟩, e, ⟨_, he⟩, _, rfl⟩ := h
    exact ⟨⟨hshape, hinit.2, hresp.2⟩, hlayout a b c d e ha hb hc hd he⟩
  · intro h
    obtain ⟨hsign, rfl⟩ := h
    have hshape := hsign.shaped
    have hdomain : r.domain.bytes.length ≤ 64 := hshape.domain.2
    have hpair : r.pairId.bytes.length = 32 := hshape.pairId.1
    have hpresence : r.userPresence.bytes.length ≤ 128 := hshape.userPresence.2
    have hcerts := And.intro hsign.initiatorCertificate hsign.responderCertificate
    have hne : r.pairId.bytes ≠ [] := by
      intro hnil
      simp [hnil] at hpair
    refine ⟨hshape, _, ⟨⟨hshape.certificates.1, hcerts.1⟩, rfl⟩, _,
      ⟨⟨hshape.certificates.2, hcerts.2⟩, rfl⟩, _,
      ⟨⟨hshape.domain.1, hdomain, by omega⟩, rfl⟩, _, ⟨⟨hne, by omega, by omega⟩, rfl⟩, _,
      ⟨⟨hshape.certificates.1, hcerts.1, by omega⟩, rfl⟩, _,
      ⟨⟨hshape.certificates.2, hcerts.2, by omega⟩, rfl⟩, _,
      ⟨⟨hshape.userPresence.1, hpresence, by omega⟩, rfl⟩, ?_⟩
    rw [hlayout _ _ _ _ _ rfl rfl rfl rfl rfl]
    exact ⟨Nat.le_trans (layout_length_le hsign) (Nat.le_refl _), rfl⟩

/-- A record without its signatures. -/
def unsigned (r : PairingRecord) : PairingRecord :=
  { r with initiatorSignature := none, responderSignature := none }

@[simp]
theorem signingBytes_unsigned (r : PairingRecord) : r.unsigned.signingBytes = r.signingBytes := rfl

/-- The stored form, as `serde_json::to_vec` prints the fields in declaration order. -/
def format : Format PairingRecord :=
  (Format.braces "\x7b\"protocol_version\":" <|
    Format.u8.pair "\"domain\":" <|
    Format.string.pair "\"pair_id\":" <|
    Format.string.pair "\"initiator_device_id\":" <|
    Format.string.pair "\"responder_device_id\":" <|
    Format.string.pair "\"initiator_public_key\":" <|
    (Format.array 32).pair "\"responder_public_key\":" <|
    (Format.array 32).pair "\"initiator_certificate\":" <|
    Format.bytes.pair "\"responder_certificate\":" <|
    Format.bytes.pair "\"session_binding\":" <|
    (Format.array 32).pair "\"authorizing_device_id\":" <|
    Format.string.pair "\"user_presence\":" <|
    Format.string.pair "\"authorized_at\":" <|
    Format.u64.pair "\"initiator_signature\":" <|
    Format.optional.pair "\"responder_signature\":"
    Format.optional).map
    (fun (v, d, p, i, r, ik, rk, ic, rc, b, a, u, t, is, rs) =>
      ⟨v, d, p, i, r, ik, rk, ic, rc, b, a, u, t, is, rs⟩)
    (fun r => (r.protocolVersion, r.domain, r.pairId, r.initiatorDeviceId, r.responderDeviceId,
      r.initiatorPublicKey, r.responderPublicKey, r.initiatorCertificate,
      r.responderCertificate, r.sessionBinding, r.authorizingDeviceId, r.userPresence,
      r.authorizedAt, r.initiatorSignature, r.responderSignature))
    fun _ => rfl

/-- `serde_json::to_vec`. -/
def toVec (r : PairingRecord) : Bytes := format.print r

def toBytes (r : PairingRecord) : Result Bytes := do
  bailIf (r.toVec.length > maxRecordBytes) "pairing record exceeds size limit"
  return r.toVec

theorem toBytes_eq_ok (r : PairingRecord) (out : Bytes) :
    r.toBytes = .ok out ↔ r.toVec.length ≤ maxRecordBytes ∧ out = r.toVec := by
  simp only [toBytes, bind_eq_ok, bailIf_eq_ok, pure_eq_ok, exists_const, not_lt, gt_iff_lt,
    @eq_comm _ _ out]

end PairingRecord

/-- `serde_json::from_slice`, which reads every JSON form of a record. -/
class Serde where
  fromSlice : Bytes → Option PairingRecord

/-- What serde documents of a derived type: reading inverts writing, and an empty input is
not a value. -/
class LawfulSerde [Serde] : Prop where
  fromSlice_toVec : ∀ r : PairingRecord, Serde.fromSlice r.toVec = some r
  fromSlice_nil : Serde.fromSlice [] = none

attribute [simp] LawfulSerde.fromSlice_toVec LawfulSerde.fromSlice_nil

namespace PairingRecord

section Stored

variable [Serde]

def fromBytes (bytes : Bytes) : Result PairingRecord := do
  bailIf (bytes.length > maxRecordBytes) "pairing record exceeds size limit"
  let record ← someOr "parse pairing record" (Serde.fromSlice bytes)
  record.validateShape
  return record

theorem fromBytes_eq_ok (bytes : Bytes) (r : PairingRecord) :
    fromBytes bytes = .ok r ↔
      bytes.length ≤ maxRecordBytes ∧ Serde.fromSlice bytes = some r ∧ r.Shaped := by
  simp only [fromBytes, bind_eq_ok, bailIf_eq_ok, someOr_eq_ok, validateShape_eq_ok, pure_eq_ok,
    exists_const, not_lt, gt_iff_lt]
  constructor
  · intro h
    obtain ⟨hlen, r', hparse, hshape, rfl⟩ := h
    exact ⟨hlen, hparse, hshape⟩
  · intro h
    exact ⟨h.1, r, h.2.1, h.2.2, rfl⟩

variable [LawfulSerde]

theorem fromBytes_toBytes {r : PairingRecord} {bytes : Bytes} (h : r.toBytes = .ok bytes)
    (hshape : r.Shaped) : fromBytes bytes = .ok r := by
  obtain ⟨hlen, rfl⟩ := (toBytes_eq_ok r bytes).mp h
  exact (fromBytes_eq_ok _ r).mpr ⟨hlen, LawfulSerde.fromSlice_toVec r, hshape⟩

end Stored

/-- The reader of exactly the compact form. -/
@[reducible]
def canonicalSerde : Serde where
  fromSlice := format.parseAll

theorem canonicalSerde_lawful : @LawfulSerde canonicalSerde :=
  @LawfulSerde.mk canonicalSerde format.parseAll_print rfl

def publicKeyFor (r : PairingRecord) (role : UInt8) : Result (Array8 32) :=
  if role = roleInitiator then .ok r.initiatorPublicKey
  else if role = roleResponder then .ok r.responderPublicKey
  else .error "invalid pairing role"

def signatureFor (r : PairingRecord) (role : UInt8) : Option Bytes :=
  if role = roleInitiator then r.initiatorSignature else r.responderSignature

def setSignature (r : PairingRecord) (role : UInt8) (signature : Array8 64) : PairingRecord :=
  if role = roleInitiator then { r with initiatorSignature := some signature.toList }
  else { r with responderSignature := some signature.toList }

theorem unsigned_setSignature (r : PairingRecord) (role : UInt8) (signature : Array8 64) :
    (r.setSignature role signature).unsigned = r.unsigned := by
  unfold setSignature
  split <;> rfl

theorem pairId_setSignature (r : PairingRecord) (role : UInt8) (signature : Array8 64) :
    (r.setSignature role signature).pairId = r.pairId := by
  have hfields := congrArg pairId (unsigned_setSignature r role signature)
  exact hfields

theorem authorizedAt_setSignature (r : PairingRecord) (role : UInt8) (signature : Array8 64) :
    (r.setSignature role signature).authorizedAt = r.authorizedAt := by
  have hfields := congrArg authorizedAt (unsigned_setSignature r role signature)
  exact hfields

theorem signingBytes_setSignature (r : PairingRecord) (role : UInt8) (signature : Array8 64) :
    (r.setSignature role signature).signingBytes = r.signingBytes := by
  have hfields := congrArg signingBytes (unsigned_setSignature r role signature)
  exact hfields

theorem toVec_length (r : PairingRecord) : r.toVec.length =
    310 + (Format.u8.print r.protocolVersion).length + (jsonString r.domain.bytes).length +
      (jsonString r.pairId.bytes).length + (jsonString r.initiatorDeviceId.bytes).length +
      (jsonString r.responderDeviceId.bytes).length +
      (jsonString r.authorizingDeviceId.bytes).length +
      (jsonArray r.initiatorPublicKey.toList).length +
      (jsonArray r.responderPublicKey.toList).length +
      (jsonArray r.initiatorCertificate).length + (jsonArray r.responderCertificate).length +
      (jsonArray r.sessionBinding.toList).length + (jsonString r.userPresence.bytes).length +
      (decimal 20 r.authorizedAt.toNat).length +
      (Format.optional.print r.initiatorSignature).length +
      (Format.optional.print r.responderSignature).length := by
  have hlabels : (ascii "\x7b\"protocol_version\":").length = 20 ∧
      (ascii "\"domain\":").length = 9 ∧ (ascii "\"pair_id\":").length = 10 ∧
      (ascii "\"initiator_device_id\":").length = 22 ∧
      (ascii "\"responder_device_id\":").length = 22 ∧
      (ascii "\"initiator_public_key\":").length = 23 ∧
      (ascii "\"responder_public_key\":").length = 23 ∧
      (ascii "\"initiator_certificate\":").length = 24 ∧
      (ascii "\"responder_certificate\":").length = 24 ∧
      (ascii "\"session_binding\":").length = 18 ∧
      (ascii "\"authorizing_device_id\":").length = 24 ∧ (ascii "\"user_presence\":").length = 16 ∧
      (ascii "\"authorized_at\":").length = 16 ∧ (ascii "\"initiator_signature\":").length = 22 ∧
      (ascii "\"responder_signature\":").length = 22 := by
    decide
  simp only [toVec, format, Format.map, Format.braces, List.length_append, Format.pair_length,
    hlabels, List.length_singleton, Format.string_print, Format.bytes_print, Format.array_print,
    Format.u64_print]
  omega

/-- A signature takes at most 254 bytes more than the `null` in its place. -/
theorem toVec_length_setSignature_le {r : PairingRecord} {role : UInt8} (signature : Array8 64)
    (hnone : r.signatureFor role = none) :
    (r.setSignature role signature).toVec.length ≤ r.toVec.length + 254 := by
  have hnull : (Format.optional.print none).length = 4 := by decide
  have harray : (Format.optional.print (some signature.toList)).length ≤ 258 := by
    have hbound := jsonArray_length_le signature.toList
    rwa [List.Vector.toList_length] at hbound
  unfold signatureFor at hnone
  unfold setSignature
  split
  next hrole =>
    rw [if_pos hrole] at hnone
    rw [toVec_length, toVec_length, hnone]
    simp only
    omega
  next hrole =>
    rw [if_neg hrole] at hnone
    rw [toVec_length, toVec_length, hnone]
    simp only
    omega

/-- `<[u8; 64]>::try_from`. -/
def signatureArray (signature : Bytes) : Result (Array8 64) :=
  if h : signature.length = 64 then .ok ⟨signature, h⟩
  else .error "invalid pairing record signature size"

private theorem signatureArray_eq_ok (signature : Bytes) (sig : Array8 64) :
    signatureArray signature = .ok sig ↔ sig.toList = signature := by
  unfold signatureArray
  split
  next hlen =>
    constructor
    · intro h
      cases h
      rfl
    · intro h
      subst h
      rfl
  next hlen =>
    simp only [reduceCtorEq, false_iff]
    intro h
    exact hlen (h ▸ sig.toList_length)

section Signatures

variable [Crypto]

def verifyRecordSignature (r : PairingRecord) (role : UInt8) (signature : Bytes) :
    Result Unit := do
  let signature ← signatureArray signature
  let publicKey ← r.publicKeyFor role
  let message ← r.signingBytes
  verifyWithKey "invalid pairing record identity signature" publicKey (message ++ [role]) signature

/-- A signature of the participant in `role` over the record's canonical bytes. -/
structure SignedAs (r : PairingRecord) (role : UInt8) (publicKey : Array8 32)
    (signature : Bytes) : Prop where
  signable : r.Signable
  validKey : Crypto.validKey publicKey = true
  verifies : ∃ sig : Array8 64, sig.toList = signature ∧
    Crypto.verifyStrict publicKey (r.layout [role]) sig = true

theorem verifyRecordSignature_initiator (r : PairingRecord) (signature : Bytes) (u : Unit) :
    r.verifyRecordSignature roleInitiator signature = .ok u ↔
      r.SignedAs roleInitiator r.initiatorPublicKey signature := by
  simp only [verifyRecordSignature, publicKeyFor, if_true, bind_eq_ok, signatureArray_eq_ok,
    signingBytes_eq_ok, verifyWithKey_eq_ok, Except.ok.injEq, exists_eq_left']
  constructor
  · intro h
    obtain ⟨sig, hsig, _, ⟨hsign, rfl⟩, hvalid, hverify⟩ := h
    exact ⟨hsign, hvalid, sig, hsig, layout_append r _ ▸ hverify⟩
  · intro h
    obtain ⟨hsign, hvalid, sig, hsig, hverify⟩ := h
    exact ⟨sig, hsig, _, ⟨hsign, rfl⟩, hvalid, (layout_append r _).symm ▸ hverify⟩

theorem verifyRecordSignature_responder (r : PairingRecord) (signature : Bytes) (u : Unit) :
    r.verifyRecordSignature roleResponder signature = .ok u ↔
      r.SignedAs roleResponder r.responderPublicKey signature := by
  have hne : roleResponder ≠ roleInitiator := by decide
  simp only [verifyRecordSignature, publicKeyFor, if_neg hne, if_true, bind_eq_ok,
    signatureArray_eq_ok, signingBytes_eq_ok, verifyWithKey_eq_ok, Except.ok.injEq,
    exists_eq_left']
  constructor
  · intro h
    obtain ⟨sig, hsig, _, ⟨hsign, rfl⟩, hvalid, hverify⟩ := h
    exact ⟨hsign, hvalid, sig, hsig, layout_append r _ ▸ hverify⟩
  · intro h
    obtain ⟨hsign, hvalid, sig, hsig, hverify⟩ := h
    exact ⟨sig, hsig, _, ⟨hsign, rfl⟩, hvalid, (layout_append r _).symm ▸ hverify⟩

theorem SignedAs.setSignature {r : PairingRecord} {role : UInt8} {publicKey : Array8 32}
    {bytes : Bytes} (h : r.SignedAs role publicKey bytes) (role' : UInt8) (signature : Array8 64) :
    (r.setSignature role' signature).SignedAs role publicKey bytes := by
  have hsign := (signingBytes_eq_ok r _).mpr ⟨h.signable, rfl⟩
  rw [← signingBytes_setSignature r role' signature] at hsign
  have hlayout : (r.setSignature role' signature).layout [role] = r.layout [role] := by
    unfold PairingRecord.setSignature
    split <;> rfl
  refine ⟨((signingBytes_eq_ok _ _).mp hsign).1, h.validKey, ?_⟩
  rw [hlayout]
  exact h.verifies

end Signatures

end PairingRecord

end OmarchySync
