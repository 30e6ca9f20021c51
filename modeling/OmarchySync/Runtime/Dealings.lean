import OmarchySync.Runtime.Partners
import OmarchySync.Trust.Relationship

/-!
# What the two write down

The operations of the two stores on a record of the relationship. In a session of the two each
of them succeeds, and adds its record to those that the directory holds.
-/

namespace OmarchySync

open Logic Wire Traced

variable [Crypto]

private theorem keeps_signRecord_bind {α : Type} {identity : DeviceIdentity}
    {record : PairingRecord}
    {role : UInt8} (hsignable : record.Signable) {f : Array8 64 → StoreM α}
    {Q : Result α → Host → Prop} {h : Host} :
    Keeps AnyStep (signRecord identity record role >>= f) Q h ↔
      Keeps AnyStep (f (identity.sign (record.layout [role]))) Q
        (h.log (.signed (.record record role))) := by
  have hbytes : record.signingBytes = .ok (record.layout []) :=
    (PairingRecord.signingBytes_eq_ok ..).mpr ⟨hsignable, rfl⟩
  rw [keeps_bind, signRecord, keeps_ok_bind hbytes, keeps_step_bind, keeps_pure,
    PairingRecord.layout_append]
  exact and_iff_right trivial

namespace Partners

variable {P : Partners} {t : Terms} {opened : UInt64} {env : Env} {h : Host}

/-- The records of the two in a directory. -/
def records [Serde] (P : Partners) (h : Host) (folder : Folder) : Set PairingRecord :=
  h.between folder P.initiator.deviceId P.responder.deviceId

section Sessions

variable [Noise] {pairId : Text} {binding : Array8 32} {transport : Noise.TransportState}

private theorem Fair.recordFromSession (hfair : P.Fair t) :
    recordFromSession (P.responderEnd t.pairId t.binding transport) t.pairId ⟨t.marker⟩
      P.responder = .ok { P.draft t with authorizedAt := 0 } := by
  have hends : (P.responderEnd t.pairId t.binding transport).certificatesByRole =
      (P.initiatorCertificate, P.responderCertificate) := rfl
  simp only [OmarchySync.recordFromSession, hends, hfair.valid.bytes.1, hfair.valid.bytes.2,
    ok_bind, pure_result, P.initiatorHolds.1, P.initiatorHolds.2, P.responderHolds.1,
    P.responderHolds.2]
  rfl

variable [LawfulCrypto] [Serde]

omit [Noise] in
private theorem Fair.writePending (hfair : P.Fair t) (initiator : Bool)
    (hkept : h.WellKept ⟨P.root, opened⟩) (hfree : h.file .pending (recordFile t.pairId) = none) :
    Keeps AnyStep (writePending env (P.signed t initiator true))
      (fun r g => r = .ok () ∧ h.Adds g .pending (P.signed t initiator true)) h := by
  have hstored : Keeps AnyStep (OmarchySync.writePending env (P.signed t initiator true))
      (fun r g => r = .ok () ∧ h.Replaces g .pending (recordFile t.pairId)
        (some (P.signed t initiator true).toVec)) h :=
    writePending_stores hfair.pairId hfree (hkept.pending.temporary _ _) (hfair.size initiator)
  apply hstored.post
  rintro r g ⟨hok, hreplaces⟩
  exact ⟨hok, hreplaces.file, hreplaces.others⟩

/-- The responder signs the offer and writes it down, under a fresh approval or under one that
it has on file. -/
theorem Fair.offers (hfair : P.Fair t) (hvalid : P.ValidAt opened)
    (hkept : h.WellKept ⟨P.root, opened⟩) (hfree : h.file .pending (recordFile t.pairId) = none) :
    Keeps AnyStep (do
      let signature ← signRecord P.responder (P.draft t) roleResponder
      let record := (P.draft t).setSignature roleResponder signature
      PairingStore.validateRecord ⟨P.root, opened⟩ record
        (P.responderEnd t.pairId t.binding transport) P.responder false true false
      OmarchySync.writePending env record
      return record)
      (fun r g => r = .ok (P.offer t) ∧ h.Adds g .pending (P.offer t)) h := by
  have hvalid : PairingStore.validateRecord ⟨P.root, opened⟩ (P.offer t)
      (P.responderEnd t.pairId t.binding transport) P.responder false true false = .ok () :=
    (PairingStore.validateRecord_eq_ok ..).mpr (hfair.fits_session false true
      (.responder transport) hvalid (fun hc => nomatch hc) fun _ => rfl)
  rw [keeps_signRecord_bind hfair.signable]
  refine (keeps_ok_bind hvalid).mpr ?_
  apply keeps_bind_of_ok
  apply (hfair.writePending false (h := h.log _) ⟨hkept.active, hkept.pending⟩ hfree).post
  rintro r g ⟨hok, hadds⟩
  exact ⟨hok, (keeps_pure _).mpr ⟨rfl, hadds.file, hadds.others⟩⟩

theorem Fair.prepare {broker : AuthorizationBroker} (hfair : P.Fair t)
    (hkept : h.WellKept ⟨P.root, t.time⟩) (hfree : h.file .pending (recordFile t.pairId) = none)
    (hgrant : broker P.initiatorCertificate = .ok ⟨t.marker⟩) :
    Keeps AnyStep (PairingStore.prepare ⟨P.root, t.time⟩ env
        (P.responderEnd t.pairId t.binding transport) P.responder broker)
      (fun r g => r = .ok (P.offer t) ∧ h.Adds g .pending (P.offer t)) h := by
  have hgranted : Logic.context "local pairing authorization denied"
      (broker P.initiatorCertificate) = .ok ⟨t.marker⟩ := by
    rw [hgrant]
    rfl
  have hmarker : ¬(t.marker.bytes = [] ∨ t.marker.len > maxMarkerBytes) :=
    not_or.mpr ⟨hfair.marker.accepted.1, Nat.not_lt.mpr hfair.marker.accepted.2⟩
  refine (keeps_ok_bind (End.responder transport).acts).mpr ?_
  refine (keeps_ok_bind hgranted).mpr ?_
  refine (keeps_step_bind ..).mpr ⟨trivial, ?_⟩
  refine (keeps_ok_bind ((bailIf_eq_ok _ _ ()).mpr hmarker)).mpr ?_
  refine (keeps_ok_bind hfair.recordFromSession).mpr ?_
  apply (hfair.offers hfair.valid (h := h.log _) ⟨hkept.active, hkept.pending⟩ hfree).post
  rintro r g ⟨hok, hadds⟩
  exact ⟨hok, hadds.file, hadds.others⟩

/-- The approval on file is good for another session. -/
theorem Fair.resumePrepare {u : Terms} (hfair : P.Fair u) (hid : HexId pairId)
    (hvalid : P.ValidAt opened) (hkept : h.WellKept ⟨P.root, opened⟩)
    (hfree : h.file .pending (recordFile pairId) = none) :
    Keeps AnyStep (PairingStore.resumePrepare ⟨P.root, opened⟩ env
        (P.responderEnd pairId binding transport) P.responder (P.offer u))
      (fun r g => r = .ok (P.offer (u.renew pairId binding)) ∧
        h.Adds g .pending (P.offer (u.renew pairId binding))) h := by
  have hrenewed := hfair.renew hid binding
  have hown : bailIf (P.responder.deviceId ≠ P.responder.deviceId)
      "pending authorization belongs to another device" = .ok () :=
    (bailIf_eq_ok ..).mpr (not_not.mpr rfl)
  refine (keeps_ok_bind (End.responder transport).acts).mpr ?_
  refine (keeps_ok_bind (hfair.validatePending false opened)).mpr ?_
  refine (keeps_ok_bind hown).mpr ?_
  refine (keeps_ok_bind hrenewed.recordFromSession).mpr ?_
  exact hrenewed.offers hvalid hkept hfree

theorem Fair.coSign (hfair : P.Fair t) (hvalid : P.ValidAt opened)
    (hkept : h.WellKept ⟨P.root, opened⟩) (hfree : h.file .pending (recordFile t.pairId) = none) :
    Keeps AnyStep (PairingStore.coSign ⟨P.root, opened⟩ env
        (P.initiatorEnd pairId t.binding transport) P.initiator (P.offer t))
      (fun r g => r = .ok (P.agreed t) ∧ h.Adds g .pending (P.agreed t)) h := by
  have hend : P.End pairId t.binding P.initiator (P.initiatorEnd pairId t.binding transport) :=
    .initiator transport
  have hoffered : PairingStore.validateRecord ⟨P.root, opened⟩ (P.offer t)
      (P.initiatorEnd pairId t.binding transport) P.initiator false true false = .ok () :=
    (PairingStore.validateRecord_eq_ok ..).mpr (hfair.fits_session false true hend hvalid
      (fun hc => nomatch hc) fun _ => rfl)
  have hagreed : PairingStore.validateRecord ⟨P.root, opened⟩ (P.agreed t)
      (P.initiatorEnd pairId t.binding transport) P.initiator true true false = .ok () :=
    (PairingStore.validateRecord_eq_ok ..).mpr (hfair.fits_session true true hend hvalid
      (fun _ => ⟨rfl, rfl⟩) fun _ => rfl)
  have hpartial : bailIf ((P.offer t).isComplete) "pairing record is already fully signed" =
      .ok () := rfl
  have hunsigned : bailIf ((P.offer t).signatureFor roleInitiator).isSome
      "local identity has already signed this record" = .ok () := rfl
  refine (keeps_ok_bind hend.acts).mpr ?_
  refine (keeps_ok_bind hpartial).mpr ?_
  refine (keeps_ok_bind hoffered).mpr ?_
  refine (keeps_ok_bind hunsigned).mpr ?_
  refine (keeps_signRecord_bind (hfair.signable_signed false true)).mpr ?_
  refine (keeps_ok_bind hagreed).mpr ?_
  apply keeps_bind_of_ok
  apply (hfair.writePending true (h := h.log _) ⟨hkept.active, hkept.pending⟩ hfree).post
  rintro r g ⟨hok, hadds⟩
  exact ⟨hok, (keeps_pure _).mpr ⟨rfl, hadds.file, hadds.others⟩⟩

variable [LawfulSerde] {identity : DeviceIdentity} {session : AuthenticatedPairingSession}

/-- The agreed record may be activated, or it is active already. -/
structure Ready (P : Partners) (h : Host) (t : Terms) : Prop where
  kept : h.WellKept ⟨P.root, 0⟩
  unrevoked : h.file .revoked (recordFile t.pairId) = none
  slot : h.file .active (recordFile t.pairId) = none ∧ P.records h .active = ∅ ∨
    P.records h .active = {P.agreed t}

/-- The agreed record is active, and no record of the two is pending. -/
structure Paired (P : Partners) (h : Host) (t : Terms) : Prop where
  kept : h.WellKept ⟨P.root, 0⟩
  unrevoked : h.file .revoked (recordFile t.pairId) = none
  active : P.records h .active = {P.agreed t}
  pending : P.records h .pending = ∅

omit [Noise] in
private theorem Fair.persistActive (hfair : P.Fair t) (hready : P.Ready h t) :
    Keeps AnyStep (persistActive env (P.agreed t)) (fun r g => r = .ok () ∧ P.Paired g t) h := by
  apply (persistActive_settles (r := P.agreed t) hready.kept hfair.pairId (hfair.size true)
    (hfair.read true) (hfair.validateStored 0) (binds_signed true true) hready.unrevoked
    hready.slot).post
  rintro r g ⟨hok, hsettled, hrevoked⟩
  exact ⟨hok, hsettled.kept, (hrevoked _).trans hready.unrevoked, hsettled.active,
    hsettled.pending⟩

theorem Fair.finalize (hfair : P.Fair t) (hend : P.End pairId t.binding identity session)
    (hvalid : P.ValidAt opened) (hready : P.Ready h t) :
    Keeps AnyStep (PairingStore.finalize ⟨P.root, opened⟩ env session identity (P.agreed t))
      (fun r g => r = .ok () ∧ P.Paired g t) h := by
  have hagreed : PairingStore.validateRecord ⟨P.root, opened⟩ (P.agreed t) session identity true
      true false = .ok () :=
    (PairingStore.validateRecord_eq_ok ..).mpr (hfair.fits_session true true hend hvalid
      (fun _ => ⟨rfl, rfl⟩) fun _ => rfl)
  refine (keeps_ok_bind hend.acts).mpr ?_
  refine (keeps_ok_bind hagreed).mpr ?_
  exact hfair.persistActive hready

/-- Any later session of the two will do. -/
theorem Fair.reconcile (hfair : P.Fair t) (hend : P.End pairId binding identity session)
    (hready : P.Ready h t) :
    Keeps AnyStep (PairingStore.reconcile ⟨P.root, opened⟩ env session identity (P.agreed t))
      (fun r g => r = .ok () ∧ P.Paired g t) h := by
  have hagreed : PairingStore.validateRecord ⟨P.root, opened⟩ (P.agreed t) session identity true
      false true = .ok () :=
    (PairingStore.validateRecord_eq_ok ..).mpr (hfair.fits_session true true hend hfair.valid
      (fun _ => ⟨rfl, rfl⟩) fun hbound => nomatch hbound)
  refine (keeps_ok_bind hend.acts).mpr ?_
  refine (keeps_ok_bind hagreed).mpr ?_
  exact hfair.persistActive hready

end Sessions

end Partners

end OmarchySync
