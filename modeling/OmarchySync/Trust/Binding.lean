import OmarchySync.Loopback
import OmarchySync.Trust.Success

/-!
# Records and the session they are presented in

`coSign` and `finalize` compare a record with the live session field by field. The PairID
and the certificate bytes are not among the compared fields.
-/

namespace OmarchySync

open Logic Wire Traced

section Certified

variable [Crypto]

private theorem Certified.signable {root : PinnedOmarchyRoot} {r : PairingRecord}
    {initiator responder : DeviceCertificate} (h : Certified root r initiator responder) :
    r.Signable := by
  have hlen : ∀ c : DeviceCertificate, ∀ bytes, c.toBytes = .ok bytes → bytes.length ≤ 512 := by
    intro c bytes hbytes
    obtain ⟨hshape, rfl⟩ := (DeviceCertificate.toBytes_eq_ok c bytes).mp hbytes
    have hlayout := DeviceCertificate.layout_length_le hshape c.signature.toList
    rw [List.Vector.toList_length] at hlayout
    omega
  exact ⟨h.shaped, hlen _ _ h.initiatorBytes, hlen _ _ h.responderBytes⟩

private theorem Attested.signable {root : PinnedOmarchyRoot} {r : PairingRecord} {time : UInt64}
    (h : Attested root r time) : r.Signable := by
  obtain ⟨_, _, hcert, _⟩ := h
  exact hcert.signable

end Certified

section Session

variable [Crypto] [Noise] [Serde]

/-- The record after the local signature was added. -/
def coSigned (session : AuthenticatedPairingSession) (identity : DeviceIdentity)
    (pending : PairingRecord) : PairingRecord :=
  pending.setSignature (localRole session)
    (identity.sign (pending.layout [localRole session]))

/-- The checks `coSign` makes. -/
structure CoSignChecks (store : PairingStore) (env : Env) (session : AuthenticatedPairingSession)
    (identity : DeviceIdentity) (pending : PairingRecord) (h : Host) : Prop where
  acts : validateSessionIdentity session identity = .ok ()
  incomplete : pending.isComplete = false
  fits : PairingStore.FitsSession store pending session identity false true false
  unsigned : pending.signatureFor (localRole session) = none
  completed : PairingStore.FitsSession store (coSigned session identity pending) session identity
    true true false
  storable : PendingStorable env h (coSigned session identity pending)

/-- The checks `finalize` makes. -/
structure FinalizeChecks (store : PairingStore) (env : Env)
    (session : AuthenticatedPairingSession) (identity : DeviceIdentity) (record : PairingRecord)
    (h : Host) : Prop where
  acts : validateSessionIdentity session identity = .ok ()
  fits : PairingStore.FitsSession store record session identity true true false
  storable : ActiveStorable env h record

omit [Crypto] [Noise] in
private theorem pendingStorable_log {env : Env} {h : Host} {record : PairingRecord} (e : Event) :
    PendingStorable env (h.log e) record ↔ PendingStorable env h record := by
  constructor <;> exact fun hs => ⟨hs.pairId, hs.slot⟩

theorem coSign_eq_ok (store : PairingStore) (env : Env) (session : AuthenticatedPairingSession)
    (identity : DeviceIdentity) (pending complete : PairingRecord) (h : Host) :
    (store.coSign env session identity pending h).result = .ok complete ↔
      CoSignChecks store env session identity pending h ∧
        complete = coSigned session identity pending := by
  constructor
  · have hkeeps : Keeps AnyStep (store.coSign env session identity pending)
        (fun r _ => r = .ok complete → CoSignChecks store env session identity pending h ∧
          complete = coSigned session identity pending) h := by
      simp only [PairingStore.coSign, signRecord, keeps_lift_bind, bailIf_eq_ok,
        PairingStore.validateRecord_eq_ok, reduceCtorEq, false_implies, implies_true, and_true,
        Bool.not_eq_true, Option.isSome_eq_false_iff, Option.isNone_iff_eq_none]
      intro _ hid _ hincomplete _ hfits _ hunsigned
      have hsign : pending.signingBytes = .ok (pending.layout []) :=
        (PairingRecord.signingBytes_eq_ok _ _).mpr ⟨hfits.attested.signable, rfl⟩
      rw [keeps_bind]
      simp only [hsign, keeps_lift_bind, keeps_step_bind, keeps_pure, Except.ok.injEq, forall_eq',
        reduceCtorEq, false_implies, implies_true, and_true, PairingStore.validateRecord_eq_ok,
        PairingRecord.layout_append, true_and]
      intro _ hcompleted
      rw [keeps_bind, keeps_anyStep]
      cases hwrite : (writePending env (coSigned session identity pending)
          (h.log (.signed (.record pending (localRole session))))).result with
      | error e =>
          simp only [coSigned] at hwrite
          simp [hwrite]
      | ok u =>
          have hstorable := (pendingStorable_log _).mp ((writePending_eq_ok _ _ _).mp hwrite)
          simp only [coSigned] at hwrite
          simp only [hwrite, keeps_pure, Except.ok.injEq]
          intro heq
          exact ⟨⟨hid, hincomplete, hfits, hunsigned, hcompleted, hstorable⟩, heq.symm⟩
    exact hkeeps.2
  · intro hc
    obtain ⟨hc, rfl⟩ := hc
    have hsign : pending.signingBytes = .ok (pending.layout []) :=
      (PairingRecord.signingBytes_eq_ok _ _).mpr ⟨hc.fits.attested.signable, rfl⟩
    have hfits := (PairingStore.validateRecord_eq_ok _ _ _ _ _ _ _ ()).mpr hc.fits
    have hcompleted := (PairingStore.validateRecord_eq_ok _ _ _ _ _ _ _ ()).mpr hc.completed
    have hstored := (writePending_eq_ok _ _ _).mpr
      ((pendingStorable_log (.signed (.record pending (localRole session)))).mpr hc.storable)
    have hkeeps : Keeps AnyStep (store.coSign env session identity pending)
        (fun r _ => r = .ok (coSigned session identity pending)) h := by
      simp only [PairingStore.coSign, signRecord, keeps_lift_bind, hc.acts, hc.incomplete,
        hc.unsigned, hfits, Option.isSome_none, Bool.false_eq_true, bailIf_false, forall_const,
        reduceCtorEq, false_implies, and_true]
      rw [keeps_bind]
      simp only [coSigned] at hcompleted hstored
      simp only [hsign, keeps_lift_bind, keeps_step_bind, keeps_pure, Except.ok.injEq, forall_eq',
        reduceCtorEq, false_implies, implies_true, and_true, hcompleted, forall_const,
        PairingRecord.layout_append, true_and]
      rw [keeps_bind, keeps_anyStep, hstored]
      simp [coSigned]
    exact hkeeps.2

theorem finalize_eq_ok (store : PairingStore) (env : Env) (session : AuthenticatedPairingSession)
    (identity : DeviceIdentity) (record : PairingRecord) (h : Host) :
    (store.finalize env session identity record h).result = .ok () ↔
      FinalizeChecks store env session identity record h := by
  constructor
  · have hkeeps : Keeps AnyStep (store.finalize env session identity record)
        (fun r _ => r = .ok () → FinalizeChecks store env session identity record h) h := by
      simp only [PairingStore.finalize, keeps_lift_bind, PairingStore.validateRecord_eq_ok,
        reduceCtorEq, false_implies, implies_true, and_true]
      intro _ hid _ hfits
      exact keeps_anyStep.mpr fun hok => ⟨hid, hfits, (persistActive_eq_ok _ _ _).mp hok⟩
    exact hkeeps.2
  · intro hc
    have hfits := (PairingStore.validateRecord_eq_ok _ _ _ _ _ _ _ ()).mpr hc.fits
    have hkeeps : Keeps AnyStep (store.finalize env session identity record)
        (fun r _ => r = .ok ()) h := by
      simp only [PairingStore.finalize, keeps_lift_bind, hc.acts, hfits, forall_const,
        reduceCtorEq, false_implies, and_true]
      exact keeps_anyStep.mpr ((persistActive_eq_ok _ _ _).mpr hc.storable)
    exact hkeeps.2

/-- The record carries the session's PairID and, byte for byte, its two certificates. -/
structure CarriesSession (r : PairingRecord) (session : AuthenticatedPairingSession) : Prop where
  pairId : r.pairId = session.pairId
  initiatorCertificate : session.certificatesByRole.1.toBytes = .ok r.initiatorCertificate
  responderCertificate : session.certificatesByRole.2.toBytes = .ok r.responderCertificate

/-- The record is bound to the exact authenticated session. -/
structure BoundToSession (r : PairingRecord) (session : AuthenticatedPairingSession) : Prop where
  carries : CarriesSession r session
  binding : r.sessionBinding = session.sessionBinding
  peers : NamesPeers r session

/-- `coSign` or `finalize` accepts the record in the session. -/
def PairingStore.Accepts (store : PairingStore) (env : Env) (session : AuthenticatedPairingSession)
    (identity : DeviceIdentity) (r : PairingRecord) (h : Host) : Prop :=
  (∃ complete, (store.coSign env session identity r h).result = .ok complete) ∨
    (store.finalize env session identity r h).result = .ok ()

/-- A record that passes `validateRecord`, has the peer's signature and leaves room for the
local one. -/
structure Presented (store : PairingStore) (session : AuthenticatedPairingSession)
    (identity : DeviceIdentity) (r : PairingRecord) : Prop where
  acts : validateSessionIdentity session identity = .ok ()
  valid : store.validateRecord r session identity false true false = .ok ()
  signed : (r.signatureFor (peerRole session)).isSome
  room : r.toVec.length + (if r.isComplete then 0 else 254) ≤ maxRecordBytes

variable {store : PairingStore} {session : AuthenticatedPairingSession}
  {identity : DeviceIdentity} {r : PairingRecord}

private theorem PairingStore.Accepts.fits {env : Env} {h : Host}
    (haccepts : store.Accepts env session identity r h) :
    ∃ complete, PairingStore.FitsSession store r session identity complete true false := by
  rcases haccepts with hsigned | hfinal
  · obtain ⟨complete, hok⟩ := hsigned
    exact ⟨false, ((coSign_eq_ok ..).mp hok).1.fits⟩
  · exact ⟨true, ((finalize_eq_ok ..).mp hfinal).fits⟩

omit [Noise] [Serde] in
private theorem Certified.setSignature {root : PinnedOmarchyRoot}
    {initiator responder : DeviceCertificate} (hc : Certified root r initiator responder)
    {role : UInt8} {signature : Array8 64} (hrole : role = roleInitiator ∨ role = roleResponder)
    (hsigned : r.SignedAs role (if role = roleInitiator then r.initiatorPublicKey
      else r.responderPublicKey) signature.toList) :
    Certified root (r.setSignature role signature) initiator responder := by
  have hinitiator := fun bytes h => (hc.initiatorSigned bytes h).setSignature role signature
  have hresponder := fun bytes h => (hc.responderSigned bytes h).setSignature role signature
  have hown := hsigned.setSignature role signature
  have hshaped := hown.signable.shaped
  rcases hrole with rfl | rfl
  · have hset : r.setSignature roleInitiator signature =
        { r with initiatorSignature := some signature.toList } := if_pos rfl
    rw [if_pos rfl] at hown
    rw [hset] at *
    refine ⟨hshaped, hc.version, hc.initiatorBytes, hc.responderBytes, hc.initiatorIssued,
      hc.responderIssued, hc.initiatorFields, hc.responderFields, hc.distinct, ?_, hresponder⟩
    intro bytes hbytes
    exact Option.some.inj hbytes ▸ hown
  · have hne : roleResponder ≠ roleInitiator := by decide
    have hset : r.setSignature roleResponder signature =
        { r with responderSignature := some signature.toList } := if_neg hne
    rw [if_neg hne] at hown
    rw [hset] at *
    refine ⟨hshaped, hc.version, hc.initiatorBytes, hc.responderBytes, hc.initiatorIssued,
      hc.responderIssued, hc.initiatorFields, hc.responderFields, hc.distinct, hinitiator, ?_⟩
    intro bytes hbytes
    exact Option.some.inj hbytes ▸ hown

omit [Serde] in
private theorem Presented.ownKey (h : Presented store session identity r) :
    identity.publicKey = if localRole session = roleInitiator then r.initiatorPublicKey
      else r.responderPublicKey := by
  have hacts := h.acts
  simp only [validateSessionIdentity, bailIf_eq_ok, not_or, not_not] at hacts
  have hpeers := ((PairingStore.validateRecord_eq_ok ..).mp h.valid).peers
  obtain ⟨-, hlocal, -⟩ := (namesPeers_iff r session).mp hpeers
  rw [hacts.2, hlocal]
  cases hinitiator : session.isInitiator with
  | true => simp [localRole, hinitiator]
  | false => simp [localRole, hinitiator, show roleResponder ≠ roleInitiator by decide]

omit [Serde] in
private theorem Presented.completed [LawfulCrypto] (h : Presented store session identity r) :
    PairingStore.FitsSession store (coSigned session identity r) session identity true true
      false := by
  have hfits := (PairingStore.validateRecord_eq_ok ..).mp h.valid
  obtain ⟨initiator, responder, hc, hvalid⟩ := hfits.attested
  have hrole : localRole session = roleInitiator ∨ localRole session = roleResponder := by
    unfold localRole
    split
    · exact .inl rfl
    · exact .inr rfl
  have hsigned : r.SignedAs (localRole session) (if localRole session = roleInitiator then
      r.initiatorPublicKey else r.responderPublicKey)
      (identity.sign (r.layout [localRole session])).toList := by
    rw [← h.ownKey]
    exact ⟨hc.signable, LawfulCrypto.validKey_verifyingKey _, _, rfl,
      LawfulCrypto.verifyStrict_sign _ _⟩
  have hcertified := hc.setSignature hrole hsigned
  have hcomplete : (coSigned session identity r).isComplete = true := by
    have hpeer := h.signed
    unfold coSigned PairingRecord.isComplete PairingRecord.setSignature
    unfold peerRole PairingRecord.signatureFor at hpeer
    unfold localRole
    cases hinitiator : session.isInitiator with
    | true => simpa [hinitiator, show roleResponder ≠ roleInitiator by decide] using hpeer
    | false => simpa [hinitiator, show roleResponder ≠ roleInitiator by decide] using hpeer
  have hfields : (coSigned session identity r).unsigned = r.unsigned :=
    r.unsigned_setSignature _ _
  refine ⟨⟨initiator, responder, hcertified, hvalid⟩, fun _ => hcomplete, ?_, ?_, ?_,
    hfits.localDevice⟩
  · intro hbind
    have hbinding := congrArg PairingRecord.sessionBinding hfields
    exact (hfits.binding hbind).trans hbinding.symm
  · have hpeers := hfits.peers
    exact ⟨hpeers.initiatorId.trans (congrArg PairingRecord.initiatorDeviceId hfields).symm,
      hpeers.responderId.trans (congrArg PairingRecord.responderDeviceId hfields).symm,
      hpeers.initiatorKey.trans (congrArg PairingRecord.initiatorPublicKey hfields).symm,
      hpeers.responderKey.trans (congrArg PairingRecord.responderPublicKey hfields).symm⟩
  · have hauthorizing := congrArg PairingRecord.authorizingDeviceId hfields
    have hinitiatorId := congrArg PairingRecord.initiatorDeviceId hfields
    have hresponderId := congrArg PairingRecord.responderDeviceId hfields
    exact hfits.authorizing.imp (fun heq => hauthorizing.trans (heq.trans hinitiatorId.symm))
      fun heq => hauthorizing.trans (heq.trans hresponderId.symm)

private theorem Presented.accepts [LawfulCrypto] (h : Presented store session identity r)
    (env : Env) :
    store.Accepts env session identity r Host.empty := by
  have hfits := (PairingStore.validateRecord_eq_ok ..).mp h.valid
  have hroom := h.room
  cases hcomplete : r.isComplete with
  | true =>
      rw [if_pos hcomplete] at hroom
      have hactive : PairingStore.FitsSession store r session identity true true false :=
        ⟨hfits.attested, fun _ => hcomplete, hfits.binding, hfits.peers, hfits.authorizing,
          hfits.localDevice⟩
      have hreadable : PendingReadable Host.empty := by
        intro name bytes hfile
        rw [Host.file_empty] at hfile
        cases hfile
      have hstorable : ActiveStorable env Host.empty r :=
        ⟨hfits.attested.shaped.pairId, Host.file_empty .., hreadable,
          .inl ⟨Host.file_empty .., Host.file_empty .., hroom⟩⟩
      exact .inr ((finalize_eq_ok ..).mpr ⟨h.acts, hactive, hstorable⟩)
  | false =>
      rw [if_neg (by simp [hcomplete])] at hroom
      have hunsigned : r.signatureFor (localRole session) = none := by
        have hpeer := h.signed
        have hne : roleResponder ≠ roleInitiator := by decide
        rw [PairingRecord.isComplete, Bool.and_eq_false_iff] at hcomplete
        unfold peerRole PairingRecord.signatureFor at hpeer
        unfold localRole PairingRecord.signatureFor
        cases hinitiator : session.isInitiator with
        | true =>
            simp only [hinitiator, if_true, if_neg hne] at hpeer ⊢
            simpa [hpeer] using hcomplete
        | false =>
            simp only [hinitiator, Bool.false_eq_true, if_false, if_true, if_neg hne] at hpeer ⊢
            simpa [hpeer] using hcomplete
      have hsize := PairingRecord.toVec_length_setSignature_le
        (identity.sign (r.layout [localRole session])) hunsigned
      have hstorable : PendingStorable env Host.empty (coSigned session identity r) :=
        ⟨h.completed.attested.shaped.pairId,
          .inl ⟨Host.file_empty .., Host.file_empty .., le_trans hsize hroom⟩⟩
      exact .inl ⟨_, (coSign_eq_ok ..).mpr
        ⟨⟨h.acts, hcomplete, hfits, hunsigned, h.completed, hstorable⟩, rfl⟩⟩

/-- Every record that `coSign` or `finalize` accepts is bound to the session if it carries the
session's PairID and certificates; a record that the peer can present and that does not is
accepted all the same. -/
theorem accepted_bound_iff_carries [LawfulCrypto] (store : PairingStore)
    (session : AuthenticatedPairingSession) (identity : DeviceIdentity) (r : PairingRecord) :
    (CarriesSession r session → ∀ env h, store.Accepts env session identity r h →
      BoundToSession r session) ∧
    (Presented store session identity r →
      ((∀ env h, store.Accepts env session identity r h → BoundToSession r session) ↔
        CarriesSession r session)) := by
  have hsuffices : CarriesSession r session → ∀ env h, store.Accepts env session identity r h →
      BoundToSession r session := by
    intro hcarries env h haccepts
    obtain ⟨complete, hfits⟩ := haccepts.fits
    exact ⟨hcarries, (hfits.binding rfl).symm, hfits.peers⟩
  refine ⟨hsuffices, fun hpresented => ⟨?_, hsuffices⟩⟩
  intro hbound
  have haccepts := hpresented.accepts ⟨⟨0, 0⟩, ⟨fun d => d.keys, fun _ => .refl _⟩⟩
  exact (hbound _ _ haccepts).carries

end Session

namespace Loopback

attribute [local instance] crypto noise lawfulCrypto PairingRecord.canonicalSerde

/-- Directories are listed in storage order. -/
def listing : ReadDir := ⟨fun d => d.keys, fun _ => List.Perm.refl _⟩

def env : Env := ⟨⟨1, 1⟩, listing⟩

def store (time : UInt64) : PairingStore := ⟨root, time⟩

def identity (b : UInt8) : DeviceIdentity := @DeviceIdentity.mk crypto (keyOf b)

def deviceIdOf (b : UInt8) : Text := deviceIdForPublicKey (keyOf b)

def pairIdOf (b : UInt8) : Text := hexText (List.replicate 16 b)

/-- A session of the device with key `holder` and the one with key `peer`. -/
def sessionOf (pairId holder peer role : UInt8) : AuthenticatedPairingSession :=
  session (pairIdOf pairId) (keyOf holder) (keyOf peer) (keyOf 5) role ⟨[1], [2], 0, 0⟩

def certificateBytes (holder : UInt8) : Bytes :=
  (certificate (keyOf holder)).layout (certificate (keyOf holder)).signature.toList

/-- What the broker hands out. -/
def marker : Text := ⟨ascii "present", by decide⟩

/-- The unsigned record of two certified devices. -/
def recordOf (pairId initiator responder authorizing : UInt8) (time : UInt64) : PairingRecord where
  protocolVersion := protocolVersion
  domain := recordDomain
  pairId := pairIdOf pairId
  initiatorDeviceId := deviceIdOf initiator
  responderDeviceId := deviceIdOf responder
  initiatorPublicKey := keyOf initiator
  responderPublicKey := keyOf responder
  initiatorCertificate := certificateBytes initiator
  responderCertificate := certificateBytes responder
  sessionBinding := keyOf 5
  authorizingDeviceId := deviceIdOf authorizing
  userPresence := marker
  authorizedAt := time
  initiatorSignature := none
  responderSignature := none

def signedBy (r : PairingRecord) (holder role : UInt8) : PairingRecord :=
  r.setSignature role ((identity holder).sign (r.layout [role]))

/-- In a session under one PairID the responder signs a record under another. -/
theorem coSign_foreign_pairId :
    ¬((∃ complete, ((store 100).coSign env (sessionOf 7 2 1 roleResponder) (identity 2)
          (signedBy (recordOf 8 1 2 1 100) 1 roleInitiator) Host.empty).result = .ok complete) ∨
        ((store 100).finalize env (sessionOf 7 2 1 roleResponder) (identity 2)
          (signedBy (recordOf 8 1 2 1 100) 1 roleInitiator) Host.empty).result = .ok () →
      BoundToSession (signedBy (recordOf 8 1 2 1 100) 1 roleInitiator)
        (sessionOf 7 2 1 roleResponder)) := by
  intro h
  have haccepted : ((store 100).coSign env (sessionOf 7 2 1 roleResponder) (identity 2)
      (signedBy (recordOf 8 1 2 1 100) 1 roleInitiator) Host.empty).result.isOk = true := by
    decide +kernel
  have hbound := h (.inl ((isOk_iff _).mp haccepted))
  exact absurd hbound.carries.pairId (by decide)

theorem accepted_bound_iff_carries_foreign :
    ¬∀ env h, (store 100).Accepts env (sessionOf 7 2 1 roleResponder) (identity 2)
        (signedBy (recordOf 8 1 2 1 100) 1 roleInitiator) h →
      BoundToSession (signedBy (recordOf 8 1 2 1 100) 1 roleInitiator)
        (sessionOf 7 2 1 roleResponder) := by
  have hpresented : Presented (store 100) (sessionOf 7 2 1 roleResponder) (identity 2)
      (signedBy (recordOf 8 1 2 1 100) 1 roleInitiator) := by
    constructor <;> decide +kernel
  intro hbound
  exact absurd (((accepted_bound_iff_carries ..).2 hpresented).mp hbound).pairId (by decide)

end Loopback

end OmarchySync
