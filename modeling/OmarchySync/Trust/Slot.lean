import OmarchySync.Trust.Lifecycle
import OmarchySync.Trust.Success

/-!
# The pending slot of a PairID

`writePending` fills a free slot and leaves a complete record of the same attempt alone. Over
an incomplete record of the same attempt it falls through to the atomic write, which refuses
every slot that is taken.
-/

namespace OmarchySync

open Logic Wire Traced

/-- The records name one attempt and sign the same bytes. -/
structure SameBinding (old new : PairingRecord) : Prop where
  pairId : old.pairId = new.pairId
  initiatorDeviceId : old.initiatorDeviceId = new.initiatorDeviceId
  responderDeviceId : old.responderDeviceId = new.responderDeviceId
  sessionBinding : old.sessionBinding = new.sessionBinding
  signing : ∃ bytes, old.signingBytes = .ok bytes ∧ new.signingBytes = .ok bytes

theorem ensureSameBinding_eq_ok (old new : PairingRecord) (u : Unit) :
    ensureSameBinding old new = .ok u ↔ SameBinding old new := by
  simp only [ensureSameBinding, bind_eq_ok, bailIf_eq_ok, not_or, not_not, exists_const]
  constructor
  · rintro ⟨⟨hpair, hinitiator, hresponder, hsession⟩, bytes, hold, _, hnew, rfl⟩
    exact ⟨hpair, hinitiator, hresponder, hsession, bytes, hold, hnew⟩
  · intro h
    rcases h.signing with ⟨bytes, hold, hnew⟩
    exact ⟨⟨h.pairId, h.initiatorDeviceId, h.responderDeviceId, h.sessionBinding⟩, bytes, hold,
      bytes, hnew, rfl⟩

/-- The contents of the pending slot of a PairID. -/
def Host.slot (h : Host) (pairId : Text) : Option Bytes := h.file .pending (recordFile pairId)

section Slot

variable [Serde]

/-- The slot of the record holds a record of the same binding, complete or not. -/
def Host.HoldsBinding (h : Host) (record : PairingRecord) (complete : Bool) : Prop :=
  ∃ bytes old, h.slot record.pairId = some bytes ∧ PairingRecord.fromBytes bytes = .ok old ∧
    SameBinding old record ∧ old.isComplete = complete

/-- The pending slots only move forward when `record` is written. -/
structure SlotMovesForward (env : Env) (h g : Host) (r : Result Unit) (record : PairingRecord) :
    Prop where
  free : h.slot record.pairId = none → r = .ok () ∧ g.slot record.pairId = some record.toVec
  completes : h.HoldsBinding record false → r = .ok () ∧ g.slot record.pairId = some record.toVec
  keeps : h.HoldsBinding record true → r = .ok () ∧ g.slot record.pairId = h.slot record.pairId
  conflict : ∀ bytes old, h.slot record.pairId = some bytes →
    PairingRecord.fromBytes bytes = .ok old → ¬SameBinding old record →
      (∃ e, r = .error e) ∧ g.slot record.pairId = h.slot record.pairId
  others : ∀ pairId, HexId pairId → pairId ≠ record.pairId → g.slot pairId = h.slot pairId

/-- No slot holds an incomplete record of the binding, and a free slot can be written. -/
structure Host.Writable (h : Host) (env : Env) (record : PairingRecord) : Prop where
  settled : ¬h.HoldsBinding record false
  stageable : h.slot record.pairId = none →
    h.file .pending (temporaryName (recordFile record.pairId) env.stamp) = none

variable {h : Host} {env : Env} {record : PairingRecord}

private theorem Host.HoldsBinding.of_slot {complete : Bool}
    (hholds : h.HoldsBinding record complete)
    {bytes : Bytes} {old : PairingRecord} (hslot : h.slot record.pairId = some bytes)
    (hread : PairingRecord.fromBytes bytes = .ok old) :
    SameBinding old record ∧ old.isComplete = complete := by
  rcases hholds with ⟨bytes', old', hslot', hread', hbinding, hcomplete⟩
  rw [hslot] at hslot'
  cases hslot'
  rw [hread] at hread'
  cases hread'
  exact ⟨hbinding, hcomplete⟩

private theorem pendingStorable_iff (hid : HexId record.pairId)
    (hsize : record.toVec.length ≤ maxRecordBytes) :
    PendingStorable env h record ↔
      (h.slot record.pairId = none ∧
        h.file .pending (temporaryName (recordFile record.pairId) env.stamp) = none) ∨
      h.HoldsBinding record true := by
  constructor
  · intro hs
    rcases hs.slot with hfree | hholds
    · exact .inl ⟨hfree.1, hfree.2.1⟩
    · rcases hholds with ⟨bytes, old, hfile, hread, hbinding, hcomplete⟩
      exact .inr ⟨bytes, old, hfile, hread, (ensureSameBinding_eq_ok ..).mp hbinding, hcomplete⟩
  · intro hs
    refine ⟨hid, ?_⟩
    rcases hs with hfree | hholds
    · exact .inl ⟨hfree.1, hfree.2, hsize⟩
    · rcases hholds with ⟨bytes, old, hfile, hread, hbinding, hcomplete⟩
      exact .inr ⟨bytes, old, hfile, hread, (ensureSameBinding_eq_ok ..).mpr hbinding, hcomplete⟩

private theorem writePending_spares (h : Host) (env : Env) (record : PairingRecord) :
    Keeps AnyStep (writePending env record) (fun r g =>
      (∀ pairId, HexId pairId → pairId ≠ record.pairId → g.slot pairId = h.slot pairId) ∧
        ((∃ e, r = .error e) → g.slot record.pairId = h.slot record.pairId)) h := by
  have hwrite : HexId record.pairId → ∀ bytes : Bytes,
      Keeps AnyStep (writeAtomic env.stamp .pending (recordFile record.pairId) bytes) (fun r g =>
        (∀ pairId, HexId pairId → pairId ≠ record.pairId → g.slot pairId = h.slot pairId) ∧
          ((∃ e, r = .error e) → g.slot record.pairId = h.slot record.pairId)) h := by
    intro hid bytes
    have hagree : ∀ {g : Host}, h.AgreeExcept g .pending
        (temporaryName (recordFile record.pairId) env.stamp) → ∀ pairId, HexId pairId →
        g.slot pairId = h.slot pairId := by
      intro g hg pairId hpair
      exact hg.2 .pending _ fun heq => temporaryName_ne_recordFile _ _ hpair heq.2.symm
    apply keeps_writeAtomic
    · exact fun _ _ _ _ => trivial
    · exact fun _ _ => trivial
    · intro g hg htemp _
      refine ⟨trivial, ?_, ?_⟩
      · intro pairId hpair hne
        have hkept := hagree hg pairId hpair
        rw [← hkept]
        apply Host.file_rename_ne htemp
        · exact fun heq => temporaryName_ne_recordFile _ _ hpair heq.2.symm
        · exact fun heq => hne (recordFile_inj heq.2)
      · rintro ⟨e, he⟩
        cases he
    · intro e g hg _
      exact ⟨fun pairId hpair _ => hagree hg pairId hpair, fun _ => hagree hg _ hid⟩
  simp only [writePending, keeps_lift_bind, keeps_read_bind, keeps_ite, keeps_pure,
    recordPath_eq_ok, implies_true, and_true]
  rintro path ⟨hid, rfl⟩
  constructor
  · intro _ _ _ old _ _ _
    exact ⟨trivial, fun _ bytes _ => hwrite hid bytes⟩
  · intro _ bytes _
    exact hwrite hid bytes

/-- The state and result of a write. -/
def writeEnds (env : Env) (h : Host) (record : PairingRecord) : Host :=
  endState h (writePending env record h).visited

private theorem writePending_slot (hok : (writePending env record h).result = .ok ()) :
    (h.slot record.pairId = none → (writeEnds env h record).slot record.pairId =
        some record.toVec) ∧
      (h.slot record.pairId ≠ none → (writeEnds env h record).slot record.pairId =
        h.slot record.pairId) := by
  have hs := (writePending_eq_ok h env record).mp hok
  rcases hs.slot with ⟨hfree, htemp, hsize⟩ | ⟨bytes, old, hfile, hread, hbinding, hcomplete⟩
  · constructor
    · intro _
      exact (writePending_stores hs.pairId hfree htemp hsize).2.2.file
    · intro hne
      exact absurd hfree hne
  · constructor
    · intro hfree
      rw [Host.slot, hfile] at hfree
      cases hfree
    · intro _
      rw [writeEnds, (writePending_present hs.pairId hfile hread hbinding hcomplete).2.2]

/-- The slots move forward exactly when the record's own is writable. -/
theorem slotMovesForward_iff (hid : HexId record.pairId)
    (hsize : record.toVec.length ≤ maxRecordBytes) :
    SlotMovesForward env h (writeEnds env h record) (writePending env record h).result record ↔
      h.Writable env record := by
  have hresult : (writePending env record h).result = .ok () ↔
      (h.slot record.pairId = none ∧
        h.file .pending (temporaryName (recordFile record.pairId) env.stamp) = none) ∨
      h.HoldsBinding record true :=
    (writePending_eq_ok h env record).trans (pendingStorable_iff hid hsize)
  have hspares := (writePending_spares h env record).2
  constructor
  · intro hforward
    constructor
    · intro hunfinished
      rcases hresult.mp (hforward.completes hunfinished).1 with hfree | hholds
      · rcases hunfinished with ⟨bytes, old, hslot, -⟩
        rw [hfree.1] at hslot
        cases hslot
      · rcases hunfinished with ⟨bytes, old, hslot, hread, -, hincomplete⟩
        rw [(hholds.of_slot hslot hread).2] at hincomplete
        cases hincomplete
    · intro hfree
      rcases hresult.mp (hforward.free hfree).1 with hwritten | hholds
      · exact hwritten.2
      · rcases hholds with ⟨bytes, old, hslot, -⟩
        rw [hfree] at hslot
        cases hslot
  · intro hwritable
    constructor
    · intro hfree
      have hok := hresult.mpr (.inl ⟨hfree, hwritable.stageable hfree⟩)
      exact ⟨hok, (writePending_slot hok).1 hfree⟩
    · intro hunfinished
      exact absurd hunfinished hwritable.settled
    · intro hholds
      have hok := hresult.mpr (.inr hholds)
      have htaken : h.slot record.pairId ≠ none := by
        rcases hholds with ⟨bytes, old, hslot, -⟩
        simp [hslot]
      exact ⟨hok, (writePending_slot hok).2 htaken⟩
    · intro bytes old hslot hread hdiffers
      have herror : ∃ e, (writePending env record h).result = .error e := by
        cases hend : (writePending env record h).result with
        | error e => exact ⟨e, rfl⟩
        | ok u =>
            rcases hresult.mp hend with hfree | hholds
            · rw [hslot] at hfree
              cases hfree.1
            · exact absurd (hholds.of_slot hslot hread).1 hdiffers
      exact ⟨herror, hspares.2 herror⟩
    · exact hspares.1

end Slot

section Operations

variable [Crypto] [Noise] [Serde]

/-- The record `prepare` signs and checks before it touches a file. -/
def PairingStore.preparation (store : PairingStore) (session : AuthenticatedPairingSession)
    (identity : DeviceIdentity) (broker : AuthorizationBroker) : Result PairingRecord := do
  validateSessionIdentity session identity
  let grant ← context "local pairing authorization denied" (broker session.peerCertificate)
  bailIf (grant.userPresence.bytes = [] ∨ grant.userPresence.len > maxMarkerBytes)
    "invalid user-presence marker"
  let record ← recordFromSession session session.pairId grant identity
  let record := { record with authorizedAt := store.now }
  let message ← record.signingBytes
  let record := record.setSignature (localRole session)
    (identity.sign (message ++ [localRole session]))
  store.validateRecord record session identity false true false
  return record

variable {store : PairingStore} {env : Env} {session : AuthenticatedPairingSession}
  {identity : DeviceIdentity} {broker : AuthorizationBroker} {h : Host}

/-- The host in which `prepare` writes: the approval and the signature are in the journal. -/
def Host.SameFiles (h g : Host) : Prop := g.trust = h.trust

omit [Crypto] [Noise] in
private theorem keeps_writePending_ends (env : Env) (record : PairingRecord) (h : Host) :
    Keeps AnyStep (writePending env record)
      (fun r g => r = (writePending env record h).result ∧ g = writeEnds env h record) h :=
  keeps_anyStep.mpr ⟨rfl, rfl⟩

private theorem prepare_writes : Keeps AnyStep (store.prepare env session identity broker)
    (fun r g => ∀ record, r = .ok record →
      store.preparation session identity broker = .ok record ∧
        ∃ mid, h.SameFiles mid ∧ (writePending env record mid).result = .ok () ∧
          g = writeEnds env mid record) h := by
  simp only [PairingStore.prepare, keeps_lift_bind, keeps_step_bind, reduceCtorEq, false_implies,
    implies_true, and_true, true_and]
  intro _ hid grant hgrant _ hmarker base hbase
  rw [keeps_bind]
  simp only [signRecord, keeps_lift_bind, keeps_step_bind, keeps_pure, reduceCtorEq, false_implies,
    implies_true, and_true, true_and]
  intro message hmessage _ hvalid
  rw [keeps_bind]
  apply (keeps_writePending_ends env _ _).post
  intro r g hend
  cases r with
  | error e =>
      intro record hrecord
      cases hrecord
  | ok u =>
      apply (keeps_pure _).mpr
      intro record hrecord
      cases hrecord
      constructor
      · simp only [PairingStore.preparation, hid, hgrant, hmarker, hbase, hmessage, hvalid, ok_bind]
        rfl
      · refine ⟨_, ?_, hend.1.symm, hend.2⟩
        rfl

omit [Crypto] [Noise] in
private theorem pendingStorable_congr {g : Host} {record : PairingRecord} (hsame : h.SameFiles g) :
    PendingStorable env g record ↔ PendingStorable env h record := by
  have hfile : ∀ folder name, g.file folder name = h.file folder name := by
    intro folder name
    rw [Host.file, hsame, Host.file]
  constructor
  · intro hs
    exact ⟨hs.pairId, by simpa only [hfile] using hs.slot⟩
  · intro hs
    exact ⟨hs.pairId, by simpa only [hfile] using hs.slot⟩

/-- `prepare` succeeds exactly when its record passes every check and can be stored. -/
theorem prepare_eq_ok (record : PairingRecord) :
    (store.prepare env session identity broker h).result = .ok record ↔
      store.preparation session identity broker = .ok record ∧ PendingStorable env h record := by
  constructor
  · intro hok
    rcases prepare_writes.2 record hok with ⟨hprepared, mid, hsame, hwritten, -⟩
    exact ⟨hprepared, (pendingStorable_congr hsame).mp ((writePending_eq_ok ..).mp hwritten)⟩
  · rintro ⟨hprepared, hstorable⟩
    simp only [PairingStore.preparation, bind_eq_ok, pure_eq_ok] at hprepared
    rcases hprepared with ⟨_, hid, grant, hgrant, _, hmarker, base, hbase, message, hmessage, _,
      hvalid, rfl⟩
    have hstored : ∀ mid, h.SameFiles mid → (writePending env (PairingRecord.setSignature
        { base with authorizedAt := store.now } (localRole session)
        (identity.sign (message ++ [localRole session]))) mid).result = .ok () :=
      fun mid hsame => (writePending_eq_ok ..).mpr ((pendingStorable_congr hsame).mpr hstorable)
    have hkeeps : Keeps AnyStep (store.prepare env session identity broker)
        (fun r _ => r = .ok (PairingRecord.setSignature { base with authorizedAt := store.now }
          (localRole session) (identity.sign (message ++ [localRole session])))) h := by
      simp only [PairingStore.prepare, keeps_lift_bind, keeps_step_bind, hid, hgrant, hmarker,
        hbase, Except.ok.injEq, forall_eq', reduceCtorEq, false_implies, implies_true, and_true,
        true_and]
      rw [keeps_bind]
      simp only [signRecord, keeps_lift_bind, keeps_step_bind, keeps_pure, hmessage, hvalid,
        Except.ok.injEq, forall_eq', reduceCtorEq, false_implies, implies_true, and_true, true_and]
      intro _ _ _ _ _ _
      rw [keeps_bind]
      apply (keeps_writePending_ends env _ _).post
      intro r g hend
      rw [hend.1, hstored ((h.log _).log _) rfl]
      exact (keeps_pure _).mpr rfl
    exact hkeeps.2

omit [Serde] in
theorem preparation_fits {record : PairingRecord}
    (hprepared : store.preparation session identity broker = .ok record) :
    PairingStore.FitsSession store record session identity false true false ∧
      record.Signable ∧ record.isComplete = false := by
  simp only [PairingStore.preparation, bind_eq_ok, pure_eq_ok] at hprepared
  rcases hprepared with ⟨_, -, grant, -, _, -, base, hbase, message, hmessage, _, hvalid, rfl⟩
  refine ⟨(PairingStore.validateRecord_eq_ok ..).mp hvalid, ?_, ?_⟩
  · rw [← PairingRecord.signingBytes_setSignature] at hmessage
    exact ((PairingRecord.signingBytes_eq_ok ..).mp hmessage).1
  · simp only [recordFromSession, bind_eq_ok, pure_eq_ok] at hbase
    rcases hbase with ⟨_, -, _, -, rfl⟩
    unfold PairingRecord.setSignature PairingRecord.isComplete
    split <;> rfl

omit [Serde] [Crypto] [Noise] in
private theorem SameBinding.refl {record : PairingRecord} (hsignable : record.Signable) :
    SameBinding record record :=
  ⟨rfl, rfl, rfl, rfl, _, (PairingRecord.signingBytes_eq_ok ..).mpr ⟨hsignable, rfl⟩,
    (PairingRecord.signingBytes_eq_ok ..).mpr ⟨hsignable, rfl⟩⟩

private theorem prepare_partial [LawfulSerde] {record : PairingRecord}
    (hok : (store.prepare env session identity broker h).result = .ok record)
    (hfree : h.slot record.pairId = none) :
    (endState h (store.prepare env session identity broker h).visited).HoldsBinding record
      false := by
  rcases (prepare_eq_ok record).mp hok with ⟨hprepared, hstorable⟩
  rcases prepare_writes.2 record hok with ⟨-, mid, hsame, hwritten, hend⟩
  rcases preparation_fits hprepared with ⟨-, hsignable, hunfinished⟩
  have hsize : record.toVec.length ≤ maxRecordBytes := by
    rcases hstorable.slot with hwrites | hholds
    · exact hwrites.2.2
    · rcases hholds with ⟨bytes, old, hfile, -⟩
      rw [Host.slot, hfile] at hfree
      cases hfree
  have hmid : mid.slot record.pairId = none := by
    rw [Host.slot, Host.file, hsame]
    exact hfree
  refine ⟨record.toVec, record, ?_, ?_, .refl hsignable, hunfinished⟩
  · rw [hend]
    exact (writePending_slot hwritten).1 hmid
  · exact PairingRecord.fromBytes_toBytes ((PairingRecord.toBytes_eq_ok ..).mpr ⟨hsize, rfl⟩)
      hsignable.shaped

private theorem prepare_keeps_slot {record : PairingRecord}
    (hok : (store.prepare env session identity broker h).result = .ok record)
    (htaken : h.slot record.pairId ≠ none) :
    (endState h (store.prepare env session identity broker h).visited).slot record.pairId =
      h.slot record.pairId := by
  rcases prepare_writes.2 record hok with ⟨-, mid, hsame, hwritten, hend⟩
  have hslot : mid.slot record.pairId = h.slot record.pairId := by
    rw [Host.slot, Host.file, hsame, Host.slot, Host.file]
  rw [hend, (writePending_slot hwritten).2 (hslot ▸ htaken), hslot]

private theorem prepare_again_iff [LawfulSerde] {env' : Env} {record : PairingRecord}
    (hfirst : (store.prepare env session identity broker h).result = .ok record) :
    (∃ record', (store.prepare env' session identity broker
        (endState h (store.prepare env session identity broker h).visited)).result =
          .ok record') ↔ h.HoldsBinding record true := by
  rcases (prepare_eq_ok record).mp hfirst with ⟨hprepared, hstorable⟩
  rcases preparation_fits hprepared with ⟨-, hsignable, -⟩
  constructor
  · rintro ⟨record', hagain⟩
    rcases (prepare_eq_ok record').mp hagain with ⟨hprepared', hstorable'⟩
    rw [hprepared] at hprepared'
    cases hprepared'
    rcases hstorable.slot with ⟨hfree, -, -⟩ | ⟨bytes, old, hfile, hread, hbinding, hcomplete⟩
    · rcases prepare_partial hfirst hfree with ⟨bytes, old, hslot, hread, hbinding, hunfinished⟩
      rcases hstorable'.slot with hnone | ⟨bytes', old', hfile', hread', -, hcomplete⟩
      · rw [Host.slot, hnone.1] at hslot
        cases hslot
      · rw [Host.slot, hfile'] at hslot
        cases hslot
        rw [hread] at hread'
        cases hread'
        rw [hunfinished] at hcomplete
        cases hcomplete
    · exact ⟨bytes, old, hfile, hread, (ensureSameBinding_eq_ok ..).mp hbinding, hcomplete⟩
  · rintro ⟨bytes, old, hslot, hread, hbinding, hcomplete⟩
    have hkept := prepare_keeps_slot hfirst (by simp [hslot])
    refine ⟨record, (prepare_eq_ok record).mpr ⟨hprepared, hsignable.shaped.pairId, .inr ?_⟩⟩
    exact ⟨bytes, old, hkept.trans hslot, hread, (ensureSameBinding_eq_ok ..).mpr hbinding,
      hcomplete⟩

private theorem coSign_pending_fails {pending complete : PairingRecord}
    (hholds : h.HoldsBinding pending false) :
    (store.coSign env session identity pending h).result ≠ .ok complete := by
  have hkeeps : Keeps AnyStep (store.coSign env session identity pending)
      (fun r _ => ∀ complete, r = .ok complete → False) h := by
    simp only [PairingStore.coSign, keeps_lift_bind, reduceCtorEq, false_implies,
      implies_true, and_true]
    intro _ _ _ _ _ _ _ _
    rw [keeps_bind]
    simp only [signRecord, keeps_lift_bind, keeps_step_bind, keeps_pure, reduceCtorEq,
      false_implies, implies_true, and_true, true_and]
    intro message _ _ _
    rw [keeps_bind]
    apply (keeps_writePending_ends env _ _).post
    intro r g hend
    cases r with
    | error e =>
        intro _ hok
        cases hok
    | ok u =>
        have hstorable := (writePending_eq_ok ..).mp hend.1.symm
        rcases hholds with ⟨bytes, old, hslot, hread, -, hunfinished⟩
        have htaken : h.file .pending (recordFile (pending.setSignature (localRole session)
            (identity.sign (message ++ [localRole session]))).pairId) = some bytes := by
          rw [PairingRecord.pairId_setSignature]
          exact hslot
        rcases hstorable.slot with hfree | hcomplete
        · rw [Host.file_log, htaken] at hfree
          cases hfree.1
        · rcases hcomplete with ⟨bytes', old', hfile', hread', -, hcomplete⟩
          rw [Host.file_log, htaken] at hfile'
          cases hfile'
          rw [hread] at hread'
          cases hread'
          rw [hunfinished] at hcomplete
          cases hcomplete
  intro hok
  exact hkeeps.2 complete hok

/-- A write moves its slot forward exactly where the slot is writable, `prepare` can be repeated
exactly over a complete record, and a pending partial record is never co-signed. -/
theorem slotMovesForward_iff_writable [LawfulSerde] (store : PairingStore)
    (session : AuthenticatedPairingSession) (identity : DeviceIdentity) :
    (∀ env h (record : PairingRecord), record.Shaped → record.toVec.length ≤ maxRecordBytes →
      (SlotMovesForward env h (writeEnds env h record) (writePending env record h).result record ↔
        h.Writable env record)) ∧
    (∀ env env' h broker record,
      (store.prepare env session identity broker h).result = .ok record →
      ((∃ record', (store.prepare env' session identity broker
          (endState h (store.prepare env session identity broker h).visited)).result =
            .ok record') ↔ h.HoldsBinding record true)) ∧
    (∀ env h pending complete, h.HoldsBinding pending false →
      (store.coSign env session identity pending h).result ≠ .ok complete) :=
  ⟨fun _ _ _ hshaped hsize => slotMovesForward_iff hshaped.pairId hsize,
    fun _ _ _ _ _ hfirst => prepare_again_iff hfirst,
    fun _ _ _ _ hholds => coSign_pending_fails hholds⟩

end Operations

namespace Loopback

attribute [local instance] crypto noise PairingRecord.canonicalSerde
  PairingRecord.canonicalSerde_lawful

/-- A later reading of the clock. -/
def later : Env := ⟨⟨1, 2⟩, listing⟩

/-- The responder approves the initiator. -/
def approval (env : Env) : StoreM PairingRecord :=
  (store 100).prepare env (sessionOf 7 2 1 roleResponder) (identity 2) fun _ => .ok ⟨marker⟩

/-- The record it signs. -/
def approvedRecord : PairingRecord := signedBy (recordOf 7 1 2 2 100) 2 roleResponder

def afterApproval : Host := endState Host.empty (approval env Host.empty).visited

theorem approval_ok : (approval env Host.empty).result = .ok approvedRecord := by
  decide +kernel

private theorem approvedRecord_fits :
    PairingStore.FitsSession (store 100) approvedRecord (sessionOf 7 2 1 roleResponder) (identity 2)
      false true false :=
  (preparation_fits ((prepare_eq_ok _).mp approval_ok).1).1

private theorem approvedRecord_size : approvedRecord.toVec.length ≤ maxRecordBytes := by
  decide +kernel

theorem slotMovesForward_iff_writable_approval :
    (SlotMovesForward later Host.empty (writeEnds later Host.empty approvedRecord)
        (writePending later approvedRecord Host.empty).result approvedRecord ↔
      Host.empty.Writable later approvedRecord) ∧
    ((∃ record', (approval later afterApproval).result = .ok record') ↔
      Host.empty.HoldsBinding approvedRecord true) ∧
    ∀ complete, ((store 100).coSign later (sessionOf 7 1 2 roleInitiator) (identity 1)
      approvedRecord afterApproval).result ≠ .ok complete := by
  have hholds : afterApproval.HoldsBinding approvedRecord false :=
    prepare_partial approval_ok (Host.file_empty _ _)
  exact ⟨(slotMovesForward_iff_writable (store 100) (sessionOf 7 2 1 roleResponder)
      (identity 2)).1 later Host.empty _ approvedRecord_fits.attested.shaped approvedRecord_size,
    (slotMovesForward_iff_writable (store 100) (sessionOf 7 2 1 roleResponder)
      (identity 2)).2.1 env later Host.empty _ _ approval_ok,
    fun complete => (slotMovesForward_iff_writable (store 100) (sessionOf 7 1 2 roleInitiator)
      (identity 1)).2.2 later afterApproval _ complete hholds⟩

/-- A repeated approval fails: its slot holds the partial record of the first. -/
theorem not_slotMovesForward_approved :
    ¬SlotMovesForward later afterApproval (writeEnds later afterApproval approvedRecord)
        (writePending later approvedRecord afterApproval).result approvedRecord ∧
      (approval later afterApproval).result.isOk = false ∧
      ((store 100).coSign later (sessionOf 7 1 2 roleInitiator) (identity 1) approvedRecord
        Host.empty).result.isOk = true ∧
      ((store 100).coSign later (sessionOf 7 1 2 roleInitiator) (identity 1) approvedRecord
        afterApproval).result.isOk = false := by
  have hholds : afterApproval.HoldsBinding approvedRecord false :=
    prepare_partial approval_ok (Host.file_empty _ _)
  have hunheld : ¬Host.empty.HoldsBinding approvedRecord true := by
    rintro ⟨bytes, old, hslot, -⟩
    rw [Host.slot, Host.file_empty] at hslot
    cases hslot
  refine ⟨?_, ?_, by decide +kernel, ?_⟩
  · intro hforward
    have hshaped := approvedRecord_fits.attested.shaped
    exact ((slotMovesForward_iff hshaped.pairId approvedRecord_size).mp hforward).settled hholds
  · apply Bool.eq_false_iff.mpr
    intro hagain
    exact hunheld ((prepare_again_iff approval_ok).mp ((isOk_iff _).mp hagain))
  · apply Bool.eq_false_iff.mpr
    intro hcosigned
    rcases (isOk_iff _).mp hcosigned with ⟨complete, hcomplete⟩
    exact coSign_pending_fails hholds hcomplete

end Loopback

end OmarchySync
