import OmarchySync.Runtime.Message
import OmarchySync.Trust.Slot

/-!
# Sizes along the record path

`prepare` checks the size of the record it writes, which still lacks the peer's signature. The
complete record is longer by one JSON array, so it may exceed the limit although the partial
one does not.
-/

namespace OmarchySync

open Logic Wire Traced

/-- The text of the size check. -/
def recordTooLarge : String := "pairing record exceeds size limit"

private theorem escapeByte_lowerHex {b : UInt8} (h : IsLowerHex b) : escapeByte b = [b] := by
  have hshort : shortEscape b = none := by
    unfold shortEscape
    unfold IsLowerHex at h
    grind
  have hcontrol : ¬b < 32 := by
    unfold IsLowerHex at h
    grind
  rw [escapeByte, hshort, if_neg hcontrol]

private theorem HexId.jsonString_length {t : Text} (h : HexId t) :
    (jsonString t.bytes).length = 34 := by
  have hlen : t.bytes.length = 32 := h.1
  rw [Wire.jsonString_length fun b hb => escapeByte_lowerHex (h.2 b hb), hlen]

namespace PairingRecord

/-- The size of the record with two signatures: the labels, the version, the domain and the four
identifiers take 472 bytes, the rest depends on the session, the grant, the clock and the keys. -/
def signedSize (r : PairingRecord) (signature signature' : Bytes) : Nat :=
  472 + (jsonArray r.initiatorPublicKey.toList).length +
    (jsonArray r.responderPublicKey.toList).length + (jsonArray r.initiatorCertificate).length +
    (jsonArray r.responderCertificate).length + (jsonArray r.sessionBinding.toList).length +
    (jsonString r.userPresence.bytes).length + (decimal 20 r.authorizedAt.toNat).length +
    (jsonArray signature).length + (jsonArray signature').length

theorem toVec_length_signed {r : PairingRecord} (hshaped : r.Shaped)
    (hversion : r.protocolVersion = OmarchySync.protocolVersion ∧ r.domain = recordDomain)
    {signature signature' : Bytes} (hinitiator : r.initiatorSignature = some signature)
    (hresponder : r.responderSignature = some signature') :
    r.toVec.length = r.signedSize signature signature' := by
  have hdomain : (jsonString recordDomain.bytes).length = 25 := by decide
  have hnumber : (Format.u8.print OmarchySync.protocolVersion).length = 1 := by decide
  have hprint : ∀ bs, Format.optional.print (some bs) = jsonArray bs := fun _ => rfl
  rw [toVec_length, hversion.1, hversion.2, hinitiator, hresponder, hprint, hprint, hdomain,
    hnumber, hshaped.pairId.jsonString_length, hshaped.initiatorDeviceId.jsonString_length,
    hshaped.responderDeviceId.jsonString_length, hshaped.authorizingDeviceId.jsonString_length,
    signedSize]

private theorem toVec_length_completed {r : PairingRecord} (hshaped : r.Shaped)
    (hversion : r.protocolVersion = OmarchySync.protocolVersion ∧ r.domain = recordDomain)
    {role : UInt8} {signature : Array8 64} {own : Bytes}
    (hown : (if role = roleInitiator then r.responderSignature else r.initiatorSignature) =
      some own) :
    (r.setSignature role signature).toVec.length = r.signedSize own signature.toList := by
  unfold setSignature
  split
  next hrole =>
    rw [if_pos hrole] at hown
    have hcomplete : { r with initiatorSignature := some signature.toList }.Shaped :=
      ⟨hshaped.pairId, hshaped.initiatorDeviceId, hshaped.responderDeviceId, hshaped.domain,
        hshaped.authorizingDeviceId, hshaped.userPresence, hshaped.authorizedAt,
        hshaped.certificates⟩
    rw [toVec_length_signed hcomplete hversion rfl hown]
    simp only [signedSize]
    omega
  next hrole =>
    rw [if_neg hrole] at hown
    have hcomplete : { r with responderSignature := some signature.toList }.Shaped :=
      ⟨hshaped.pairId, hshaped.initiatorDeviceId, hshaped.responderDeviceId, hshaped.domain,
        hshaped.authorizingDeviceId, hshaped.userPresence, hshaped.authorizedAt,
        hshaped.certificates⟩
    exact toVec_length_signed hcomplete hversion hown rfl

theorem toVec_length_le_setSignature {r : PairingRecord} {role : UInt8} (signature : Array8 64)
    (hnone : (if role = roleInitiator then r.initiatorSignature else r.responderSignature) = none) :
    r.toVec.length ≤ (r.setSignature role signature).toVec.length := by
  have hprint : (Format.optional.print none).length ≤
      (Format.optional.print (some signature.toList)).length := by
    have hlong := length_le_jsonArray signature.toList
    rw [List.Vector.toList_length] at hlong
    exact le_trans (show (Format.optional.print none).length ≤ 64 by decide) hlong
  unfold setSignature
  split
  next hrole =>
    rw [if_pos hrole] at hnone
    rw [toVec_length, toVec_length, hnone]
    simp only
    omega
  next hrole =>
    rw [if_neg hrole] at hnone
    rw [toVec_length, toVec_length, hnone]
    simp only
    omega

end PairingRecord

/-! ### Failures on size -/

namespace PairingRecord

private theorem avoids_validateShape (r : PairingRecord) :
    Avoids recordTooLarge r.validateShape := by
  have hcheck : ∀ (guard : Prop) [Decidable guard] (text : String), text ≠ recordTooLarge →
      Avoids recordTooLarge (bailIf guard text) := fun guard _ _ => avoids_bailIf guard
  exact (hcheck _ _ (by decide)).bind fun _ _ => (hcheck _ _ (by decide)).bind fun _ _ =>
    (hcheck _ _ (by decide)).bind fun _ _ => (hcheck _ _ (by decide)).bind fun _ _ =>
    (hcheck _ _ (by decide)).bind fun _ _ => (hcheck _ _ (by decide)).bind fun _ _ =>
    (hcheck _ _ (by decide)).bind fun _ _ => hcheck _ _ (by decide)

private theorem avoids_signingBytes (r : PairingRecord) : Avoids recordTooLarge r.signingBytes := by
  by_cases hsignable : r.Signable
  · exact .of_ok ((signingBytes_eq_ok r _).mpr ⟨hsignable, rfl⟩)
  · have hbounded : ∀ bytes, Avoids recordTooLarge (boundedBytes bytes) := fun bytes =>
      (avoids_bailIf _ (by decide)).bind fun _ _ => avoids_ok bytes
    refine r.avoids_validateShape.bind fun _ hshape => (hbounded _).bind fun _ hinitiator =>
      (hbounded _).bind fun _ hresponder => absurd ?_ hsignable
    simp only [boundedBytes, bind_eq_ok, bailIf_eq_ok, not_or, not_lt, gt_iff_lt,
      exists_const] at hinitiator hresponder
    exact ⟨(validateShape_eq_ok ..).mp hshape, hinitiator.1.2, hresponder.1.2⟩

private theorem avoids_fromBytes [Serde] {bytes : Bytes} (hsize : bytes.length ≤ maxRecordBytes) :
    Avoids recordTooLarge (fromBytes bytes) := by
  have hguard : bailIf (bytes.length > maxRecordBytes) "pairing record exceeds size limit" =
      .ok () := (bailIf_eq_ok ..).mpr (Nat.not_lt.mpr hsize)
  exact (Avoids.of_ok hguard).bind fun _ _ => (avoids_someOr _ (by decide)).bind fun r _ =>
    r.avoids_validateShape.bind fun _ _ => avoids_ok r

private theorem avoids_verifyPresent [Crypto] (r : PairingRecord) (role : UInt8)
    (signature : Option Bytes) : Avoids recordTooLarge (r.verifyPresent role signature) := by
  cases signature with
  | none => exact avoids_ok ()
  | some signature =>
      have harray : Avoids recordTooLarge (signatureArray signature) := by
        unfold signatureArray
        split
        · exact avoids_ok _
        · exact fun h => absurd (Except.error.inj h) (by decide)
      have hkey : Avoids recordTooLarge (r.publicKeyFor role) := by
        unfold publicKeyFor
        split
        · exact avoids_ok _
        · split
          · exact avoids_ok _
          · exact fun h => absurd (Except.error.inj h) (by decide)
      exact harray.bind fun _ _ => hkey.bind fun _ _ => r.avoids_signingBytes.bind fun _ _ =>
        (avoids_bailIf _ (by decide)).bind fun _ _ => avoids_bailIf _ (by decide)

end PairingRecord

private theorem avoids_ensureSameBinding (old new : PairingRecord) :
    Avoids recordTooLarge (ensureSameBinding old new) :=
  (avoids_bailIf _ (by decide)).bind fun _ _ => old.avoids_signingBytes.bind fun _ _ =>
    new.avoids_signingBytes.bind fun _ _ => avoids_bailIf _ (by decide)

private theorem avoids_certificateVerify [Crypto] {c : DeviceCertificate} (hshaped : c.Shaped)
    (root : PinnedOmarchyRoot) (now : UInt64) : Avoids recordTooLarge (c.verify root now) :=
  (avoids_bailIf _ (by decide)).bind fun _ _ =>
    (Avoids.of_ok ((DeviceCertificate.signingBytes_eq_ok ..).mpr ⟨hshaped, rfl⟩)).bind fun _ _ =>
      (avoids_bailIf _ (by decide)).bind fun _ _ => (avoids_bailIf _ (by decide)).bind fun _ _ =>
        (avoids_bailIf _ (by decide)).bind fun _ _ => (avoids_bailIf _ (by decide)).bind fun _ _ =>
          avoids_bailIf _ (by decide)

/-- The computation never fails on the size of a record. -/
abbrev SizeSafe {α : Type} (m : StoreM α) (h : Host) : Prop :=
  Keeps AnyStep m (fun r _ => Avoids recordTooLarge r) h

private theorem sizeSafe_lift_bind {α β : Type} {r : Result α} {f : α → StoreM β} {h : Host}
    (hr : Avoids recordTooLarge r) (hf : ∀ a, r = .ok a → SizeSafe (f a) h) :
    SizeSafe ((liftM r : StoreM α) >>= f) h := by
  refine (keeps_lift_bind r f).mpr ⟨hf, ?_⟩
  intro e he heq
  exact hr (by rw [he, Except.error.inj heq])

/-- No file of the three directories is longer than a record may be. -/
def Host.Bounded (h : Host) : Prop :=
  ∀ folder name bytes, h.file folder name = some bytes → bytes.length ≤ maxRecordBytes

private theorem Host.Bounded.put {h : Host} (hbounded : h.Bounded) (folder : Folder)
    (name : FileName)
    {bytes : Bytes} (hsize : bytes.length ≤ maxRecordBytes) : (h.put folder name bytes).Bounded := by
  intro folder' name' bytes' hfile
  rw [Host.file_put] at hfile
  split at hfile
  · cases hfile
    exact hsize
  · exact hbounded _ _ _ hfile

private theorem Host.Bounded.drop {h : Host} (hbounded : h.Bounded) (folder : Folder)
    (name : FileName) :
    (h.drop folder name).Bounded := by
  intro folder' name' bytes' hfile
  rw [Host.file_drop] at hfile
  split at hfile
  · cases hfile
  · exact hbounded _ _ _ hfile

private theorem Host.Bounded.rename {h : Host} (hbounded : h.Bounded) (folder folder' : Folder)
    (name name' : FileName) : (h.rename folder name folder' name').Bounded := by
  cases hfile : h.file folder name with
  | none => simpa [Host.rename, hfile] using hbounded
  | some bytes =>
      rw [Host.rename_of_file hfile]
      exact (hbounded.drop folder name).put _ _ (hbounded _ _ _ hfile)

private theorem sizeSafe_writeAtomic {h : Host} (hbounded : h.Bounded) (stamp : Stamp)
    (folder : Folder)
    (name : FileName) {bytes : Bytes} (hsize : bytes.length ≤ maxRecordBytes) :
    Keeps AnyStep (writeAtomic stamp folder name bytes)
      (fun r g => Avoids recordTooLarge r ∧ g.Bounded) h := by
  have hkept : Keeps (fun _ a b => a.Bounded → b.Bounded) (writeAtomic stamp folder name bytes)
      (fun _ _ => True) h := by
    apply keeps_writeAtomic
    · intro g l content hcontent hg
      apply hg.put
      rcases hcontent with hcreate | hwrite
      · rw [hcreate.2]
        exact Nat.zero_le _
      · rw [hwrite.2]
        exact hsize
    · exact fun g _ hg => hg.drop _ _
    · exact fun g _ _ _ => ⟨fun hg => hg.rename _ _ _ _, trivial⟩
    · exact fun _ _ _ _ => trivial
  have hclean : ∀ (e : String) (g : Host), e ≠ recordTooLarge → Keeps AnyStep
      (removeTemporary folder (temporaryName name stamp))
      (fun _ _ => Avoids recordTooLarge (Except.error e : Result Unit)) g := by
    intro e g he
    have havoids : Avoids recordTooLarge (Except.error e : Result Unit) :=
      fun h => he (Except.error.inj h)
    exact keeps_removeTemporary _ _ (fun _ => ⟨trivial, havoids⟩) fun _ => havoids
  have htext : ∀ {guard : Prop} [Decidable guard] {text e : String},
      bailIf guard text = .error e → e = text := by
    intro guard _ text e h
    unfold bailIf at h
    split at h
    · exact (Except.error.inj h).symm
    · cases h
  have hsafe : SizeSafe (writeAtomic stamp folder name bytes) h := by
    simp only [writeAtomic, keeps_onFailure, keeps_read_bind, keeps_lift_bind, keeps_step_bind,
      keeps_step]
    refine ⟨fun _ _ => ⟨trivial, trivial, fun _ _ => ⟨trivial, avoids_ok ()⟩, ?_⟩, ?_⟩
    · exact fun e he => hclean e _ (by rw [htext he]; decide)
    · exact fun e he => hclean e _ (by rw [htext he]; decide)
  exact ⟨hsafe.1, hsafe.2, (hkept.1.invariant (fun _ _ _ hab ha => hab ha) hbounded).1⟩

section Files

variable [Serde]

private theorem avoids_readRecord {h : Host} (hbounded : h.Bounded) (folder : Folder)
    (name : FileName) :
    Avoids recordTooLarge (readRecord h folder name) := by
  unfold readRecord
  cases hfile : h.file folder name with
  | none => exact avoids_ok none
  | some bytes =>
      exact (PairingRecord.avoids_fromBytes (hbounded _ _ _ hfile)).bind fun r _ =>
        avoids_ok (some r)

omit [Serde] in
private theorem avoids_recordPath (pairId : Text) : Avoids recordTooLarge (recordPath pairId) :=
  (avoids_bailIf _ (by decide)).bind fun _ _ => avoids_ok _

private theorem sizeSafe_writePending {h : Host} (hbounded : h.Bounded) (env : Env)
    {record : PairingRecord} (hsize : record.toVec.length ≤ maxRecordBytes) :
    SizeSafe (writePending env record) h := by
  have hbytes : record.toBytes = .ok record.toVec :=
    (PairingRecord.toBytes_eq_ok _ _).mpr ⟨hsize, rfl⟩
  have hwrite : ∀ path, SizeSafe (do
      let bytes ← record.toBytes
      writeAtomic env.stamp .pending path bytes) h := by
    intro path
    apply sizeSafe_lift_bind (.of_ok hbytes)
    intro bytes hout
    rw [hbytes] at hout
    cases hout
    exact (sizeSafe_writeAtomic hbounded env.stamp .pending path hsize).post fun _ _ hr => hr.1
  apply sizeSafe_lift_bind (avoids_recordPath _)
  intro path _
  rw [SizeSafe, keeps_read_bind, keeps_ite]
  constructor
  · intro _
    apply sizeSafe_lift_bind (avoids_readRecord hbounded .pending path)
    intro old _
    apply sizeSafe_lift_bind (avoids_someOr old (by decide))
    intro old _
    apply sizeSafe_lift_bind (avoids_ensureSameBinding old record)
    intro _ _
    rw [SizeSafe, keeps_ite]
    exact ⟨fun _ => (keeps_pure _).mpr (avoids_ok ()), fun _ => hwrite path⟩
  · exact fun _ => hwrite path

private theorem sizeSafe_removeStalePending {h : Host} (hbounded : h.Bounded) (env : Env)
    (active : PairingRecord) : SizeSafe (removeStalePending env active) h := by
  rw [removeStalePending, SizeSafe, keeps_read_bind]
  refine (keeps_forEach_result (I := Host.Bounded) (E := Avoids recordTooLarge) _ (avoids_ok ())
    ?_ hbounded).post fun _ _ hr => hr.2
  intro name _ g hg
  rw [removeStaleEntry, keeps_read_bind]
  refine (keeps_lift_bind _ _).mpr ⟨?_, ?_⟩
  · intro found _
    cases found with
    | none => exact (keeps_pure ()).mpr ⟨hg, avoids_ok ()⟩
    | some pending =>
        refine (keeps_ite _ _ _).mpr ⟨fun _ => ?_, fun _ => ?_⟩
        · exact (keeps_step _ _).mpr ⟨trivial, hg.drop _ _, avoids_ok ()⟩
        · exact (keeps_pure ()).mpr ⟨hg, avoids_ok ()⟩
  · intro e he
    refine ⟨hg, fun heq => avoids_readRecord hg .pending name ?_⟩
    rw [he, Except.error.inj heq]

private theorem sizeSafe_persistActive {h : Host} (hbounded : h.Bounded) (env : Env)
    {record : PairingRecord} (hsize : record.toVec.length ≤ maxRecordBytes) :
    SizeSafe (persistActive env record) h := by
  have hbytes : record.toBytes = .ok record.toVec :=
    (PairingRecord.toBytes_eq_ok _ _).mpr ⟨hsize, rfl⟩
  apply sizeSafe_lift_bind (avoids_recordPath _)
  intro path _
  rw [SizeSafe, keeps_read_bind]
  apply sizeSafe_lift_bind (avoids_bailIf _ (by decide))
  intro _ _
  rw [SizeSafe, keeps_ite]
  constructor
  · intro _
    apply sizeSafe_lift_bind (avoids_readRecord hbounded .active path)
    intro old _
    apply sizeSafe_lift_bind (avoids_someOr old (by decide))
    intro old _
    apply sizeSafe_lift_bind (avoids_bailIf _ (by decide))
    intro _ _
    exact sizeSafe_removeStalePending hbounded env record
  · intro _
    apply sizeSafe_lift_bind (.of_ok hbytes)
    intro bytes hout
    rw [hbytes] at hout
    cases hout
    rw [SizeSafe, keeps_bind]
    refine (sizeSafe_writeAtomic hbounded env.stamp .active path hsize).post ?_
    intro r g hr
    cases r with
    | error e => exact hr.1
    | ok u => exact sizeSafe_removeStalePending hr.2 env record

end Files

section Operations

variable [Crypto] [Noise] {store : PairingStore} {session : AuthenticatedPairingSession}
  {identity : DeviceIdentity} {record : PairingRecord}

private theorem avoids_validateSessionIdentity (session : AuthenticatedPairingSession)
    (identity : DeviceIdentity) :
    Avoids recordTooLarge (validateSessionIdentity session identity) :=
  avoids_bailIf _ (by decide)

/-- The certificate fields of a record decode. -/
structure PairingRecord.Carries (r : PairingRecord) (initiator responder : DeviceCertificate) :
    Prop where
  initiatorBytes : initiator.toBytes = .ok r.initiatorCertificate
  responderBytes : responder.toBytes = .ok r.responderCertificate

omit [Crypto] [Noise] in
private theorem PairingRecord.Carries.setSignature {initiator responder : DeviceCertificate}
    (hcarries : record.Carries initiator responder) (role : UInt8) (signature : Array8 64) :
    (record.setSignature role signature).Carries initiator responder := by
  have hunsigned := record.unsigned_setSignature role signature
  have hinitiator := congrArg PairingRecord.initiatorCertificate hunsigned
  have hresponder := congrArg PairingRecord.responderCertificate hunsigned
  exact ⟨hcarries.initiatorBytes.trans (congrArg _ hinitiator.symm),
    hcarries.responderBytes.trans (congrArg _ hresponder.symm)⟩

private theorem avoids_validateRecord {initiator responder : DeviceCertificate}
    (hcarries : record.Carries initiator responder) (store : PairingStore)
    (session : AuthenticatedPairingSession) (identity : DeviceIdentity)
    (complete bound stored : Bool) :
    Avoids recordTooLarge (store.validateRecord record session identity complete bound stored) := by
  have hcheck : ∀ (guard : Prop) [Decidable guard] (text : String), text ≠ recordTooLarge →
      Avoids recordTooLarge (bailIf guard text) := fun guard _ _ => avoids_bailIf guard
  have hinitiator := (DeviceCertificate.fromBytes_eq_ok _ _).mpr hcarries.initiatorBytes
  have hresponder := (DeviceCertificate.fromBytes_eq_ok _ _).mpr hcarries.responderBytes
  have hshaped := ((DeviceCertificate.toBytes_eq_ok _ _).mp hcarries.initiatorBytes).1
  have hshaped' := ((DeviceCertificate.toBytes_eq_ok _ _).mp hcarries.responderBytes).1
  simp only [PairingStore.validateRecord, hinitiator, hresponder, ok_bind]
  exact record.avoids_validateShape.bind fun _ _ => (hcheck _ _ (by decide)).bind fun _ _ =>
    (hcheck _ _ (by decide)).bind fun _ _ =>
    (avoids_certificateVerify hshaped _ _).bind fun _ _ =>
    (avoids_certificateVerify hshaped' _ _).bind fun _ _ =>
    (hcheck _ _ (by decide)).bind fun _ _ => (hcheck _ _ (by decide)).bind fun _ _ =>
    (hcheck _ _ (by decide)).bind fun _ _ => (hcheck _ _ (by decide)).bind fun _ _ =>
    (hcheck _ _ (by decide)).bind fun _ _ => (hcheck _ _ (by decide)).bind fun _ _ =>
    (hcheck _ _ (by decide)).bind fun _ _ => (hcheck _ _ (by decide)).bind fun _ _ =>
    (hcheck _ _ (by decide)).bind fun _ _ =>
    (record.avoids_verifyPresent roleInitiator _).bind fun _ _ =>
    record.avoids_verifyPresent roleResponder _

variable [Serde] {env : Env} {h : Host} {initiator responder : DeviceCertificate}

private theorem sizeSafe_coSign (hbounded : h.Bounded)
    (hcarries : record.Carries initiator responder)
    (hsize : ∀ message, record.signingBytes = .ok message →
      (record.setSignature (localRole session)
        (identity.sign (message ++ [localRole session]))).toVec.length ≤ maxRecordBytes) :
    SizeSafe (store.coSign env session identity record) h := by
  apply sizeSafe_lift_bind (avoids_validateSessionIdentity session identity)
  intro _ _
  apply sizeSafe_lift_bind (avoids_bailIf _ (by decide))
  intro _ _
  apply sizeSafe_lift_bind (avoids_validateRecord hcarries _ _ _ _ _ _)
  intro _ _
  apply sizeSafe_lift_bind (avoids_bailIf _ (by decide))
  intro _ _
  rw [SizeSafe, keeps_bind, signRecord]
  refine (keeps_lift_bind _ _).mpr ⟨?_, ?_⟩
  · intro message hmessage
    refine (keeps_step_bind _ _ _).mpr ⟨trivial, (keeps_pure _).mpr ?_⟩
    apply sizeSafe_lift_bind (avoids_validateRecord (hcarries.setSignature _ _) _ _ _ _ _ _)
    intro _ _
    have hlogged : (h.log (.signed (.record record (localRole session)))).Bounded := hbounded
    rw [SizeSafe, keeps_bind]
    refine (sizeSafe_writePending hlogged env (hsize message hmessage)).post ?_
    intro r g hr
    cases r with
    | error e => exact fun heq => hr (by rw [Except.error.inj heq])
    | ok u => exact (keeps_pure _).mpr (avoids_ok _)
  · intro e he heq
    exact record.avoids_signingBytes (by rw [he, Except.error.inj heq])

private theorem sizeSafe_finalize (hbounded : h.Bounded)
    (hcarries : record.Carries initiator responder)
    (hsize : record.toVec.length ≤ maxRecordBytes) :
    SizeSafe (store.finalize env session identity record) h := by
  apply sizeSafe_lift_bind (avoids_validateSessionIdentity session identity)
  intro _ _
  apply sizeSafe_lift_bind (avoids_validateRecord hcarries _ _ _ _ _ _)
  intro _ _
  exact sizeSafe_persistActive hbounded env hsize

private theorem sizeSafe_reconcile (hbounded : h.Bounded)
    (hcarries : record.Carries initiator responder)
    (hsize : record.toVec.length ≤ maxRecordBytes) :
    SizeSafe (store.reconcile env session identity record) h := by
  apply sizeSafe_lift_bind (avoids_validateSessionIdentity session identity)
  intro _ _
  apply sizeSafe_lift_bind (avoids_validateRecord hcarries _ _ _ _ _ _)
  intro _ _
  exact sizeSafe_persistActive hbounded env hsize

end Operations

section Messages

variable [Crypto] [Noise] [TransportLaws] [Serde]

/-- The message passes the application limit, and every session with a nonce left seals it in
a frame that passes the transport and the wire limit. -/
def PairMessage.Fits (message : PairMessage) : Prop :=
  ∃ payload, encodeApp message = .ok payload ∧ payload.length ≤ appFrameLimit ∧
    ∀ s : AuthenticatedPairingSession, TransportLaws.sending s.transport < nonceLimit →
      ∃ frame t, s.encrypt payload = (.ok frame, { s with transport := t }) ∧
        frame.length ≤ maxTransportFrame ∧ ∃ out, writeWire frame = .ok out

omit [Crypto] [Serde] in
private theorem PairMessage.Stored.fits {message : PairMessage} (hstored : message.Stored) :
    message.Fits := by
  have hframed := payload_framed hstored
  refine ⟨message.payload, encodeApp_ok hstored, le_trans hframed (by decide), ?_⟩
  intro s hnonce
  rcases encrypt_framed (s := s) hframed hnonce with ⟨t, hencrypt, -⟩
  have hlength : (frameLayout kindTransport s.localRole 0 (TransportLaws.cipher
      (TransportLaws.outgoing s.transport) (TransportLaws.sending s.transport)
      message.payload)).length = 21 + (message.payload.length + tagLength) := by
    rw [frameLayout_length, TransportLaws.cipher_length]
  have hlimit := (maxFramedPlaintext_spec _).mpr hframed
  refine ⟨_, t, hencrypt, ?_, _, (writeWire_eq_ok _ _).mpr ⟨⟨?_, ?_⟩, rfl⟩⟩
  · rw [hlength]
    exact hlimit
  · intro hnil
    rw [hnil, List.length_nil] at hlength
    omega
  · rw [hlength]
    exact le_trans hlimit (by decide)

end Messages

section Approval

variable [Crypto] [Noise] [TransportLaws] [Serde]

/-- Every limit on the path of a record that the peer completes with `signature` is respected. -/
structure SizesCompose (record : PairingRecord) (role : UInt8) (signature : Array8 64) : Prop where
  prepared : ∃ bytes, record.toBytes = .ok bytes ∧ (PairMessage.prepared bytes).Fits
  complete : ∃ bytes, (record.setSignature role signature).toBytes = .ok bytes ∧
    (PairMessage.complete bytes).Fits
  coSign : ∀ (store : PairingStore) env (h : Host) session (identity : DeviceIdentity),
    h.Bounded → localRole session = role →
    (∀ message, record.signingBytes = .ok message →
      identity.sign (message ++ [role]) = signature) →
    (store.coSign env session identity record h).result ≠ .error recordTooLarge
  finalize : ∀ (store : PairingStore) env (h : Host) session (identity : DeviceIdentity),
    h.Bounded → (store.finalize env session identity (record.setSignature role signature)
      h).result ≠ .error recordTooLarge
  reconcile : ∀ (store : PairingStore) env (h : Host) session (identity : DeviceIdentity),
    h.Bounded → (store.reconcile env session identity (record.setSignature role signature)
      h).result ≠ .error recordTooLarge

variable {store : PairingStore} {env : Env} {session : AuthenticatedPairingSession}
  {identity : DeviceIdentity} {broker : AuthorizationBroker} {h : Host} {record : PairingRecord}

omit [TransportLaws] [Serde] in
private theorem preparation_signatures
    (hprepared : store.preparation session identity broker = .ok record) :
    ∃ own : Array8 64, record.signatureFor (localRole session) = some own.toList ∧
      (if peerRole session = roleInitiator then record.responderSignature
        else record.initiatorSignature) = some own.toList ∧
      (if peerRole session = roleInitiator then record.initiatorSignature
        else record.responderSignature) = none := by
  simp only [PairingStore.preparation, bind_eq_ok, pure_eq_ok] at hprepared
  rcases hprepared with ⟨_, -, grant, -, _, -, base, hbase, message, -, _, -, rfl⟩
  simp only [recordFromSession, bind_eq_ok, pure_eq_ok] at hbase
  rcases hbase with ⟨_, -, _, -, rfl⟩
  refine ⟨identity.sign (message ++ [localRole session]), ?_⟩
  have hroles : roleResponder ≠ roleInitiator := by decide
  by_cases hinitiator : session.isInitiator = true
  · simp [PairingRecord.signatureFor, PairingRecord.setSignature, localRole, peerRole, hinitiator,
      hroles]
  · rw [Bool.not_eq_true] at hinitiator
    simp [PairingRecord.signatureFor, PairingRecord.setSignature, localRole, peerRole, hinitiator,
      hroles]

/-- Every limit is respected exactly when the fields of the approval and the two signatures
leave room in the record; the size `prepare` checks does not count the peer's signature. -/
theorem sizesCompose_iff (hok : (store.prepare env session identity broker h).result = .ok record)
    (signature : Array8 64) :
    SizesCompose record (peerRole session) signature ↔
      record.signedSize ((record.signatureFor (localRole session)).getD []) signature.toList ≤
        maxRecordBytes := by
  have hprepared := ((prepare_eq_ok record).mp hok).1
  have hfits := (preparation_fits hprepared).1
  rcases preparation_signatures hprepared with ⟨own, hlocal, hown, hnone⟩
  rcases hfits.attested with ⟨initiator, responder, hcert, -, -⟩
  have hcarries : record.Carries initiator responder := ⟨hcert.initiatorBytes, hcert.responderBytes⟩
  have hlength : (record.setSignature (peerRole session) signature).toVec.length =
      record.signedSize own.toList signature.toList :=
    PairingRecord.toVec_length_completed hcert.shaped hcert.version hown
  rw [hlocal, Option.getD_some, ← hlength]
  constructor
  · intro hcompose
    rcases hcompose.complete with ⟨bytes, hbytes, -⟩
    exact ((PairingRecord.toBytes_eq_ok _ _).mp hbytes).1
  · intro hsize
    have hunsigned := le_trans (PairingRecord.toVec_length_le_setSignature signature hnone) hsize
    constructor
    · exact ⟨_, (PairingRecord.toBytes_eq_ok _ _).mpr ⟨hunsigned, rfl⟩,
        PairMessage.Stored.fits hunsigned⟩
    · exact ⟨_, (PairingRecord.toBytes_eq_ok _ _).mpr ⟨hsize, rfl⟩, PairMessage.Stored.fits hsize⟩
    · intro store' env' h' session' identity' hbounded hrole hsigns
      refine (sizeSafe_coSign hbounded hcarries ?_).2
      intro message hmessage
      rw [hrole, hsigns message hmessage]
      exact hsize
    · intro store' env' h' session' identity' hbounded
      exact (sizeSafe_finalize hbounded (hcarries.setSignature _ _) hsize).2
    · intro store' env' h' session' identity' hbounded
      exact (sizeSafe_reconcile hbounded (hcarries.setSignature _ _) hsize).2

omit [Noise] [TransportLaws] [Serde] in
/-- A marker whose JSON form is at most 358 bytes long always leaves room, whatever the
certificates, the clock and the signatures. -/
theorem signedSize_le {root : PinnedOmarchyRoot} {time : UInt64}
    (hattested : Attested root record time)
    (hmarker : (jsonString record.userPresence.bytes).length ≤ 358) (own peer : Array8 64) :
    record.signedSize own.toList peer.toList ≤ maxRecordBytes := by
  rcases hattested with ⟨initiator, responder, hcert, -, -⟩
  have hcertificate : ∀ {c : DeviceCertificate} {bytes : Bytes}, c.toBytes = .ok bytes →
      (jsonArray bytes).length ≤ 1170 := by
    intro c bytes hbytes
    rcases (DeviceCertificate.toBytes_eq_ok _ _).mp hbytes with ⟨hshaped, rfl⟩
    have hlength := DeviceCertificate.layout_length_le hshaped c.signature.toList
    have harray := jsonArray_length_le (c.layout c.signature.toList)
    rw [List.Vector.toList_length] at hlength
    omega
  have hkey : ∀ key : Array8 32, (jsonArray key.toList).length ≤ 130 := by
    intro key
    have harray := jsonArray_length_le key.toList
    rwa [List.Vector.toList_length] at harray
  have hsignature : ∀ signature : Array8 64, (jsonArray signature.toList).length ≤ 258 := by
    intro signature
    have harray := jsonArray_length_le signature.toList
    rwa [List.Vector.toList_length] at harray
  have htime : (decimal 20 record.authorizedAt.toNat).length ≤ 20 :=
    decimal_length_le 20 _ 19 (lt_of_lt_of_le record.authorizedAt.toNat_lt (by decide))
  have hi := hcertificate hcert.initiatorBytes
  have hr := hcertificate hcert.responderBytes
  have hki := hkey record.initiatorPublicKey
  have hkr := hkey record.responderPublicKey
  have hb := hkey record.sessionBinding
  have hso := hsignature own
  have hsp := hsignature peer
  simp only [PairingRecord.signedSize, maxRecordBytes]
  omega

end Approval

namespace Loopback

/-- A checksum with the hex digits `d` to `f` only. -/
def loudDigest (bs : Bytes) : Array8 32 :=
  (digest bs).map fun b => 221 + 16 * (b % 3) + b / 3 % 3

/-- Three decimal digits for each byte, except that the last one keeps the second half of a
signature below the order of the group. -/
def loudSignature (key : Array8 32) (message : Bytes) : Array8 64 :=
  ((signature key message).map fun b => b ||| 128).set 63 15

@[reducible]
def loudCrypto : Crypto where
  SigningKey := Array8 32
  verifyingKey key := key
  sign := loudSignature
  validKey _ := true
  verifyStrict key message sig := sig == loudSignature key message
  sha256 := loudDigest

attribute [local instance] noise transportLaws PairingRecord.canonicalSerde
  PairingRecord.canonicalSerde_lawful

section Loud

attribute [local instance] loudCrypto

def loudRoot : PinnedOmarchyRoot := ⟨keyOf 210, rfl⟩

def loudIdentity (b : UInt8) : DeviceIdentity := @DeviceIdentity.mk loudCrypto (keyOf b)

/-- A certificate with the longest device name. -/
def loudCertificate (holder : UInt8) : DeviceCertificate :=
  let unsigned : DeviceCertificate :=
    { deviceId := deviceIdForPublicKey (keyOf holder)
      publicKey := keyOf holder
      deviceName := ⟨List.replicate 64 122, by decide⟩
      notBefore := 1600000000
      notAfter := 4102444800
      issuerKeyId := loudRoot.keyId
      signature := List.Vector.replicate 64 0 }
  { unsigned with signature := loudSignature (keyOf 210) (unsigned.layout []) }

def loudSession (holder peer role : UInt8) : AuthenticatedPairingSession :=
  @AuthenticatedPairingSession.mk noise (pairIdOf 7) (loudCertificate holder).deviceId
    (loudCertificate peer).deviceId (loudCertificate holder) (loudCertificate peer) (keyOf 203)
    ⟨[1], [2], 0, 0⟩ (keyOf peer) role

/-- As many control characters as a marker may have. -/
def controlMarker : Text := ⟨List.replicate 128 1, by decide⟩

def loudStore : PairingStore := ⟨loudRoot, 1700000000⟩

def loudApproval : StoreM PairingRecord :=
  loudStore.prepare env (loudSession 202 201 roleResponder) (loudIdentity 202)
    fun _ => .ok ⟨controlMarker⟩

/-- What the responder signs. -/
def loudUnsigned : PairingRecord where
  protocolVersion := protocolVersion
  domain := recordDomain
  pairId := pairIdOf 7
  initiatorDeviceId := deviceIdForPublicKey (keyOf 201)
  responderDeviceId := deviceIdForPublicKey (keyOf 202)
  initiatorPublicKey := keyOf 201
  responderPublicKey := keyOf 202
  initiatorCertificate := (loudCertificate 201).layout (loudCertificate 201).signature.toList
  responderCertificate := (loudCertificate 202).layout (loudCertificate 202).signature.toList
  sessionBinding := keyOf 203
  authorizingDeviceId := deviceIdForPublicKey (keyOf 202)
  userPresence := controlMarker
  authorizedAt := 1700000000
  initiatorSignature := none
  responderSignature := none

/-- The signature of the given device. -/
def loudSigned (r : PairingRecord) (holder role : UInt8) : Array8 64 :=
  (loudIdentity holder).sign (r.layout [role])

def loudRecord : PairingRecord :=
  loudUnsigned.setSignature roleResponder (loudSigned loudUnsigned 202 roleResponder)

private theorem loudRecord_prepared :
    loudStore.preparation (loudSession 202 201 roleResponder) (loudIdentity 202)
      (fun _ => .ok ⟨controlMarker⟩) = .ok loudRecord := by
  decide +kernel

/-- The record of an approval that fits, and its completion that does not. -/
theorem not_sizesCompose_loud :
    (loudApproval Host.empty).result = .ok loudRecord ∧
      ¬SizesCompose loudRecord roleInitiator (loudSigned loudRecord 201 roleInitiator) ∧
      (loudStore.coSign env (loudSession 201 202 roleInitiator) (loudIdentity 201) loudRecord
        Host.empty).result = .error recordTooLarge := by
  have hunsigned : loudRecord.toVec.length ≤ maxRecordBytes := by decide +kernel
  have hcomplete : ¬(loudRecord.setSignature roleInitiator
      (loudSigned loudRecord 201 roleInitiator)).toVec.length ≤ maxRecordBytes := by
    decide +kernel
  have hid : HexId loudRecord.pairId := (not_badHexId_iff _).mp (by decide)
  refine ⟨(prepare_eq_ok _).mpr ⟨loudRecord_prepared, hid, .inl ⟨rfl, rfl, hunsigned⟩⟩, ?_,
    by decide +kernel⟩
  intro hcompose
  rcases hcompose.complete with ⟨bytes, hbytes, -⟩
  exact hcomplete ((PairingRecord.toBytes_eq_ok _ _).mp hbytes).1

end Loud

attribute [local instance] crypto

/-- A short marker leaves room for a signature of the greatest size. -/
theorem sizesCompose_iff_approval :
    SizesCompose approvedRecord roleInitiator (List.Vector.replicate 64 255) := by
  have hprepared := ((prepare_eq_ok _).mp approval_ok).1
  have hattested := (preparation_fits hprepared).1.attested
  apply (sizesCompose_iff approval_ok _).mpr
  rcases preparation_signatures hprepared with ⟨own, hlocal, -⟩
  rw [hlocal]
  exact signedSize_le hattested (by decide +kernel) own _

end Loopback

end OmarchySync
