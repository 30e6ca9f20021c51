import OmarchySync.Trust.Store

/-!
# What the store operations can do

Every atomic step of every operation, with the checks that come before it. Invariants of the
store are proved from this relation alone.
-/

namespace OmarchySync

open Logic Wire Traced

variable [Crypto] [Noise]

/-- One call of the store interface. -/
inductive Op where
  | prepare (session : AuthenticatedPairingSession) (broker : AuthorizationBroker)
  | coSign (session : AuthenticatedPairingSession) (pending : PairingRecord)
  | resumePrepare (session : AuthenticatedPairingSession) (pending : PairingRecord)
  | finalize (session : AuthenticatedPairingSession) (record : PairingRecord)
  | reconcile (session : AuthenticatedPairingSession) (record : PairingRecord)
  | revoke (pairId : Text)

/-- Drop the result of an operation. -/
def forget (m : StoreM PairingRecord) : StoreM Unit := do
  let _ ← m
  return ()

namespace Op

def isCoSign : Op → Bool
  | coSign _ _ => true
  | _ => false

/-- The session an operation acts for. -/
def session? : Op → Option AuthenticatedPairingSession
  | prepare session _ => some session
  | coSign session _ => some session
  | resumePrepare session _ => some session
  | finalize session _ => some session
  | reconcile session _ => some session
  | revoke _ => none

def run [Serde] (store : PairingStore) (env : Env) (identity : DeviceIdentity) : Op → StoreM Unit
  | prepare session broker => forget (store.prepare env session identity broker)
  | coSign session pending => forget (store.coSign env session identity pending)
  | resumePrepare session pending => forget (store.resumePrepare env session identity pending)
  | finalize session record => store.finalize env session identity record
  | reconcile session record => store.reconcile env session identity record
  | revoke pairId => store.revoke pairId

end Op

/-- Why the identity key signs a record under a role. -/
inductive SignGround (store : PairingStore) (identity : DeviceIdentity) (journal : List Event) :
    Op → PairingRecord → UInt8 → Prop where
  | prepare {session broker grant base}
      (hid : validateSessionIdentity session identity = .ok ())
      (hgrant : broker session.peerCertificate = .ok grant)
      (happroved : Event.approved session.peerCertificate ∈ journal)
      (hbase : recordFromSession session session.pairId grant identity = .ok base) :
      SignGround store identity journal (.prepare session broker)
        { base with authorizedAt := store.now } (localRole session)
  | coSign {session pending}
      (hid : validateSessionIdentity session identity = .ok ())
      (hincomplete : pending.isComplete = false)
      (hfits : PairingStore.FitsSession store pending session identity false true false)
      (hunsigned : pending.signatureFor (localRole session) = none) :
      SignGround store identity journal (.coSign session pending) pending (localRole session)
  | resumePrepare {session pending base}
      (hid : validateSessionIdentity session identity = .ok ())
      (hstored : store.validatePendingStored pending = .ok ())
      (hauth : pending.authorizingDeviceId = identity.deviceId)
      (hbase : recordFromSession session session.pairId ⟨pending.userPresence⟩ identity =
        .ok base) :
      SignGround store identity journal (.resumePrepare session pending)
        { base with authorizedAt := pending.authorizedAt } (localRole session)

/-- Why a record becomes pending: this call signed it and it fits the session. -/
structure PendingGround (store : PairingStore) (identity : DeviceIdentity)
    (journal : List Event) (op : Op) (session : AuthenticatedPairingSession)
    (unsigned record : PairingRecord) : Prop where
  acts : op.session? = some session
  ground : SignGround store identity journal op unsigned (localRole session)
  signable : unsigned.Signable
  signed : Event.signed (.record unsigned (localRole session)) ∈ journal
  result : record = unsigned.setSignature (localRole session)
    (identity.sign (unsigned.layout [localRole session]))
  fits : PairingStore.FitsSession store record session identity op.isCoSign true false

/-- Why a record becomes active. -/
inductive ActiveGround (store : PairingStore) (identity : DeviceIdentity) :
    Op → PairingRecord → Prop where
  | finalize {session record}
      (hid : validateSessionIdentity session identity = .ok ())
      (hfits : PairingStore.FitsSession store record session identity true true false) :
      ActiveGround store identity (.finalize session record) record
  | reconcile {session record}
      (hid : validateSessionIdentity session identity = .ok ())
      (hfits : PairingStore.FitsSession store record session identity true false true) :
      ActiveGround store identity (.reconcile session record) record

variable [Serde]

/-- One atomic step of an operation. -/
inductive StoreStep (store : PairingStore) (env : Env) (identity : DeviceIdentity) (op : Op) :
    FsStep → Host → Host → Prop where
  | approve {h session broker grant} (hop : op = .prepare session broker)
      (hgrant : broker session.peerCertificate = .ok grant) :
      StoreStep store env identity op .approve h (h.log (.approved session.peerCertificate))
  | sign {h record role} (hground : SignGround store identity h.journal op record role) :
      StoreStep store env identity op .sign h (h.log (.signed (.record record role)))
  | stage {h l folder pairId content} (hl : l = .create ∨ l = .write)
      (hfolder : folder ≠ .revoked) :
      StoreStep store env identity op l h
        (h.put folder (temporaryName (recordFile pairId) env.stamp) content)
  | unstage {h folder pairId} (hfolder : folder ≠ .revoked) :
      StoreStep store env identity op .removeTemporary h
        (h.drop folder (temporaryName (recordFile pairId) env.stamp))
  | commitPending {h session unsigned record}
      (hground : PendingGround store identity h.journal op session unsigned record)
      (hsize : record.toVec.length ≤ maxRecordBytes)
      (htemp : h.file .pending (temporaryName (recordFile record.pairId) env.stamp) =
        some record.toVec)
      (hfree : h.file .pending (recordFile record.pairId) = none) :
      StoreStep store env identity op .rename h
        (h.rename .pending (temporaryName (recordFile record.pairId) env.stamp) .pending
          (recordFile record.pairId))
  | commitActive {h record} (hground : ActiveGround store identity op record)
      (hsize : record.toVec.length ≤ maxRecordBytes)
      (htemp : h.file .active (temporaryName (recordFile record.pairId) env.stamp) =
        some record.toVec)
      (hfree : h.file .active (recordFile record.pairId) = none)
      (hrevoked : h.file .revoked (recordFile record.pairId) = none) :
      StoreStep store env identity op .rename h
        (h.rename .active (temporaryName (recordFile record.pairId) env.stamp) .active
          (recordFile record.pairId))
  | removePending {h name bytes pending record} (hground : ActiveGround store identity op record)
      (hactive : (h.file .active (recordFile record.pairId)).isSome)
      (hfile : h.file .pending name = some bytes)
      (hread : PairingRecord.fromBytes bytes = .ok pending)
      (hbinds : pending.binds record.initiatorDeviceId record.responderDeviceId) :
      StoreStep store env identity op .removePending h (h.drop .pending name)
  | revoke {h pairId bytes record} (hop : op = .revoke pairId) (hid : HexId pairId)
      (hfile : h.file .active (recordFile pairId) = some bytes)
      (hread : PairingRecord.fromBytes bytes = .ok record)
      (hvalid : store.validateStored record = .ok ())
      (hfree : h.file .revoked (recordFile pairId) = none) :
      StoreStep store env identity op .revoke h
        (h.rename .active (recordFile pairId) .revoked (recordFile pairId))

omit [Crypto] [Noise] in
theorem readRecord_eq_ok (h : Host) (folder : Folder) (name : FileName) (r : PairingRecord) :
    readRecord h folder name = .ok (some r) ↔
      ∃ bytes, h.file folder name = some bytes ∧ PairingRecord.fromBytes bytes = .ok r := by
  unfold readRecord
  cases h.file folder name with
  | none => simp
  | some bytes => simp [pure, Except.pure]

omit [Crypto] [Noise] in
theorem readRecord_eq_none (h : Host) (folder : Folder) (name : FileName) :
    readRecord h folder name = .ok none ↔ h.file folder name = none := by
  unfold readRecord
  cases h.file folder name with
  | none => simp
  | some bytes => simp [pure, Except.pure]

omit [Crypto] [Noise] [Serde] in
theorem recordPath_eq_ok (pairId : Text) (name : FileName) :
    recordPath pairId = .ok name ↔ HexId pairId ∧ name = recordFile pairId := by
  simp only [recordPath, checkedPairId, bind_eq_ok, bailIf_eq_ok, not_badHexId_iff, pure_eq_ok,
    exists_const, @eq_comm _ _ name]

variable {store : PairingStore} {env : Env} {identity : DeviceIdentity} {op : Op}

private theorem keeps_commit (folder : Folder) (pairId : Text) (bytes : Bytes) (h : Host)
    {I : Host → Prop} (hfolder : folder ≠ .revoked)
    (hcommit : ∀ g, h.AgreeExcept g folder (temporaryName (recordFile pairId) env.stamp) →
      g.file folder (temporaryName (recordFile pairId) env.stamp) = some bytes →
      g.file folder (recordFile pairId) = none →
      StoreStep store env identity op .rename g
        (g.rename folder (temporaryName (recordFile pairId) env.stamp) folder
          (recordFile pairId)) ∧
      I (g.rename folder (temporaryName (recordFile pairId) env.stamp) folder
          (recordFile pairId))) :
    Keeps (StoreStep store env identity op)
      (writeAtomic env.stamp folder (recordFile pairId) bytes)
      (fun r g => r = .ok () → I g) h := by
  apply keeps_writeAtomic
  · intro g l content hl
    exact .stage (hl.imp And.left And.left) hfolder
  · intro g _
    exact .unstage hfolder
  · intro g hagree htemp hfree
    have hstep := hcommit g hagree htemp hfree
    exact ⟨hstep.1, fun _ => hstep.2⟩
  · intro e g _ _ herr
    cases herr

private theorem keeps_writePending {session : AuthenticatedPairingSession}
    {unsigned record : PairingRecord} {h : Host}
    (hground : PendingGround store identity h.journal op session unsigned record) :
    Keeps (StoreStep store env identity op) (writePending env record) (fun _ _ => True) h := by
  have hwrite : ∀ bytes, record.toBytes = .ok bytes →
      Keeps (StoreStep store env identity op)
        (writeAtomic env.stamp .pending (recordFile record.pairId) bytes) (fun _ _ => True) h := by
    intro bytes hbytes
    obtain ⟨hsize, rfl⟩ := (PairingRecord.toBytes_eq_ok record bytes).mp hbytes
    refine (keeps_commit (I := fun _ => True) .pending record.pairId _ h (by decide) ?_).post
      fun _ _ _ => trivial
    intro g hagree htemp hfree
    exact ⟨.commitPending (hagree.1 ▸ hground) hsize htemp hfree, trivial⟩
  simp only [writePending, keeps_lift_bind, keeps_read_bind, keeps_ite, keeps_pure,
    recordPath_eq_ok, implies_true, and_true]
  intro path hpath
  obtain ⟨_, rfl⟩ := hpath
  exact ⟨fun _ _ _ _ _ _ _ => ⟨trivial, fun _ => hwrite⟩, fun _ => hwrite⟩

private theorem keeps_removeStalePending {record : PairingRecord} {h : Host}
    (hground : ActiveGround store identity op record)
    (hactive : (h.file .active (recordFile record.pairId)).isSome) :
    Keeps (StoreStep store env identity op) (removeStalePending env record)
      (fun _ _ => True) h := by
  simp only [removeStalePending, keeps_read_bind]
  refine (keeps_forEach (I := fun g => (g.file .active (recordFile record.pairId)).isSome) _ ?_
    hactive).post fun _ _ _ => trivial
  intro name _ g hg
  simp only [removeStaleEntry, keeps_read_bind, keeps_lift_bind]
  refine ⟨?_, fun _ _ => hg⟩
  intro found hfound
  cases found with
  | none => exact (keeps_pure _).mpr hg
  | some pending =>
      obtain ⟨bytes, hfile, hread⟩ := (readRecord_eq_ok g .pending name pending).mp hfound
      simp only [keeps_ite, keeps_step, keeps_pure]
      refine ⟨fun hbinds => ⟨.removePending hground hg hfile hread hbinds, ?_⟩, fun _ => hg⟩
      rw [Host.file_drop, if_neg (by simp)]
      exact hg

private theorem keeps_persistActive {record : PairingRecord} {h : Host}
    (hground : ActiveGround store identity op record) :
    Keeps (StoreStep store env identity op) (persistActive env record) (fun _ _ => True) h := by
  simp only [persistActive, keeps_lift_bind, keeps_read_bind, keeps_ite, recordPath_eq_ok,
    bailIf_eq_ok, someOr_eq_ok, implies_true, and_true, Bool.not_eq_true,
    Option.isSome_eq_false_iff, Option.isNone_iff_eq_none]
  intro path hpath hrevoked hrev
  obtain ⟨hid, rfl⟩ := hpath
  refine ⟨?_, ?_⟩
  · intro hactive found hfound existing hexisting _ _
    exact keeps_removeStalePending hground hactive
  · intro hfree bytes hbytes
    obtain ⟨hsize, rfl⟩ := (PairingRecord.toBytes_eq_ok record bytes).mp hbytes
    rw [keeps_bind]
    refine (keeps_commit
      (I := fun g => (g.file .active (recordFile record.pairId)).isSome) .active record.pairId _ h
      (by decide) ?_).post ?_
    · intro g hagree htemp hfree'
      have hrev' : g.file .revoked (recordFile record.pairId) = none := by
        rw [hagree.2 .revoked _ (by simp)]
        exact hrev
      refine ⟨.commitActive hground hsize htemp hfree' hrev', ?_⟩
      rw [Host.rename_of_file htemp, Host.file_put, if_pos ⟨rfl, rfl⟩]
      rfl
    · intro r g hr
      cases r with
      | error e => trivial
      | ok u => exact keeps_removeStalePending hground (hr rfl)

private theorem keeps_revoke (pairId : Text) (h : Host) :
    Keeps (StoreStep store env identity (.revoke pairId)) (store.revoke pairId)
      (fun _ _ => True) h := by
  simp only [PairingStore.revoke, keeps_lift_bind, keeps_read_bind, keeps_step, recordPath_eq_ok,
    bailIf_eq_ok, someOr_eq_ok, implies_true, and_true, Bool.not_eq_true,
    Option.isSome_eq_false_iff, Option.isNone_iff_eq_none]
  intro path hpath found hfound record hrecord _ hvalid _ hfree
  obtain ⟨hid, rfl⟩ := hpath
  subst hrecord
  obtain ⟨bytes, hfile, hread⟩ := (readRecord_eq_ok h .active _ record).mp hfound
  exact .revoke rfl hid hfile hread hvalid hfree

private theorem keeps_signRecord {record : PairingRecord} {role : UInt8} {h : Host}
    {Q : Result (Array8 64) → Host → Prop}
    (hground : SignGround store identity h.journal op record role)
    (hok : record.Signable → Q (.ok (identity.sign (record.layout [role])))
      (h.log (.signed (.record record role))))
    (herr : ∀ e, Q (.error e) h) :
    Keeps (StoreStep store env identity op) (signRecord identity record role) Q h := by
  simp only [signRecord, keeps_lift_bind, keeps_step_bind, keeps_pure,
    PairingRecord.signingBytes_eq_ok]
  refine ⟨?_, fun e _ => herr e⟩
  intro message hmessage
  obtain ⟨hsignable, rfl⟩ := hmessage
  rw [PairingRecord.layout_append]
  exact ⟨.sign hground, hok hsignable⟩

private theorem keeps_signAndWrite {session : AuthenticatedPairingSession}
    {record : PairingRecord} {h : Host} (hsession : op.session? = some session)
    (hground : SignGround store identity h.journal op record (localRole session))
    (hmono : ∀ journal, (∀ e ∈ h.journal, e ∈ journal) →
      SignGround store identity journal op record (localRole session)) :
    Keeps (StoreStep store env identity op) (do
      let signature ← signRecord identity record (localRole session)
      let record := record.setSignature (localRole session) signature
      store.validateRecord record session identity op.isCoSign true false
      writePending env record
      return record) (fun _ _ => True) h := by
  rw [keeps_bind]
  refine keeps_signRecord hground ?_ fun _ => trivial
  intro hsignable
  simp only [keeps_lift_bind, PairingStore.validateRecord_eq_ok, implies_true, and_true]
  intro _ hfits
  have hpending : PendingGround store identity
      (h.log (.signed (.record record (localRole session)))).journal op session record
      (record.setSignature (localRole session)
        (identity.sign (record.layout [localRole session]))) :=
    ⟨hsession, hmono _ fun e he => by simp [he], hsignable, by simp, rfl, hfits⟩
  rw [keeps_bind]
  refine (keeps_writePending hpending).post ?_
  intro r g _
  cases r with
  | error e => trivial
  | ok u => exact (keeps_pure _).mpr trivial

omit [Crypto] [Noise] [Serde] in
theorem keeps_forget_iff {R : FsStep → Host → Host → Prop} {I : Host → Prop}
    {m : StoreM PairingRecord} {h : Host} :
    Keeps R (forget m) (fun _ g => I g) h ↔ Keeps R m (fun _ g => I g) h := by
  rw [forget, keeps_bind]
  constructor
  · intro hm
    refine hm.post ?_
    intro r g hg
    cases r with
    | error e => exact hg
    | ok record => exact (keeps_pure _).mp hg
  · intro hm
    refine hm.post ?_
    intro r g hg
    cases r with
    | error e => exact hg
    | ok record => exact (keeps_pure _).mpr hg

omit [Crypto] [Noise] [Serde] in
theorem keeps_forget {R : FsStep → Host → Host → Prop} {I : Host → Prop} {m : StoreM PairingRecord}
    {h : Host} (hm : Keeps R m (fun _ g => I g) h) : Keeps R (forget m) (fun _ g => I g) h :=
  keeps_forget_iff.mpr hm

/-- Every step of every operation is one of `StoreStep`. -/
theorem Op.keeps_run (op : Op) (h : Host) :
    Keeps (StoreStep store env identity op) (op.run store env identity) (fun _ _ => True) h := by
  cases op with
  | prepare session broker =>
      apply keeps_forget (I := fun _ => True)
      simp only [PairingStore.prepare, keeps_lift_bind, keeps_step_bind, context_eq_ok,
        implies_true, and_true]
      intro _ hid grant hgrant
      refine ⟨.approve rfl hgrant, ?_⟩
      intro _ _ base hbase
      have hground : ∀ journal, Event.approved session.peerCertificate ∈ journal →
          SignGround store identity journal (.prepare session broker)
            { base with authorizedAt := store.now } (localRole session) :=
        fun journal hmem => .prepare hid hgrant hmem hbase
      exact keeps_signAndWrite rfl (hground _ (by simp)) fun journal hsub =>
        hground journal (hsub _ (by simp))
  | coSign session pending =>
      apply keeps_forget (I := fun _ => True)
      simp only [PairingStore.coSign, keeps_lift_bind, implies_true, and_true, bailIf_eq_ok,
        PairingStore.validateRecord_eq_ok, Bool.not_eq_true, Option.isSome_eq_false_iff,
        Option.isNone_iff_eq_none]
      intro _ hid _ hincomplete _ hfits _ hunsigned
      exact keeps_signAndWrite rfl (.coSign hid hincomplete hfits hunsigned)
        fun _ _ => .coSign hid hincomplete hfits hunsigned
  | resumePrepare session pending =>
      apply keeps_forget (I := fun _ => True)
      simp only [PairingStore.resumePrepare, keeps_lift_bind, implies_true, and_true,
        bailIf_eq_ok, ne_eq, not_not]
      intro _ hid _ hstored _ hauth base hbase
      exact keeps_signAndWrite rfl (.resumePrepare hid hstored hauth hbase)
        fun _ _ => .resumePrepare hid hstored hauth hbase
  | finalize session record =>
      simp only [Op.run, PairingStore.finalize, keeps_lift_bind, implies_true, and_true,
        PairingStore.validateRecord_eq_ok]
      intro _ hid _ hfits
      exact keeps_persistActive (.finalize hid hfits)
  | reconcile session record =>
      simp only [Op.run, PairingStore.reconcile, keeps_lift_bind, implies_true, and_true,
        PairingStore.validateRecord_eq_ok]
      intro _ hid _ hfits
      exact keeps_persistActive (.reconcile hid hfits)
  | revoke pairId => exact keeps_revoke pairId h

theorem StoreStep.pending_file {l : FsStep} {h g : Host} {pairId : Text} {bytes : Bytes}
    (hstep : StoreStep store env identity op l h g) (hid : HexId pairId)
    (hfile : g.file .pending (recordFile pairId) = some bytes) :
    h.file .pending (recordFile pairId) = some bytes ∨
      ∃ session unsigned record, PendingGround store identity h.journal op session unsigned record ∧
        record.pairId = pairId ∧ bytes = record.toVec ∧ record.toVec.length ≤ maxRecordBytes := by
  have htemp : ∀ name, recordFile pairId ≠ temporaryName name env.stamp :=
    fun name => (temporaryName_ne_recordFile name env.stamp hid).symm
  cases hstep with
  | approve _ _ => exact .inl hfile
  | sign _ => exact .inl hfile
  | stage _ _ =>
      rw [Host.file_put, if_neg (by simp [htemp])] at hfile
      exact .inl hfile
  | unstage _ =>
      rw [Host.file_drop, if_neg (by simp [htemp])] at hfile
      exact .inl hfile
  | @commitPending _ session unsigned record hground hsize hstaged _ =>
      by_cases heq : record.pairId = pairId
      · subst heq
        rw [Host.file_rename_target hstaged] at hfile
        exact .inr ⟨session, unsigned, record, hground, rfl, (Option.some.inj hfile).symm, hsize⟩
      · have hne : recordFile pairId ≠ recordFile record.pairId :=
          fun hname => heq (recordFile_inj hname).symm
        rw [Host.file_rename_ne hstaged (by simp [htemp]) (by simp [hne])] at hfile
        exact .inl hfile
  | commitActive _ _ hstaged _ _ =>
      rw [Host.file_rename_ne hstaged (by simp) (by simp)] at hfile
      exact .inl hfile
  | removePending _ _ _ _ _ =>
      rw [Host.file_drop] at hfile
      split at hfile
      · cases hfile
      · exact .inl hfile
  | revoke _ _ hactive _ _ _ =>
      rw [Host.file_rename_ne hactive (by simp) (by simp)] at hfile
      exact .inl hfile

theorem StoreStep.active_file {l : FsStep} {h g : Host} {pairId : Text} {bytes : Bytes}
    (hstep : StoreStep store env identity op l h g) (hid : HexId pairId)
    (hfile : g.file .active (recordFile pairId) = some bytes) :
    h.file .active (recordFile pairId) = some bytes ∨
      ∃ record, ActiveGround store identity op record ∧ record.pairId = pairId ∧
        bytes = record.toVec ∧ record.toVec.length ≤ maxRecordBytes := by
  have htemp : ∀ name, recordFile pairId ≠ temporaryName name env.stamp :=
    fun name => (temporaryName_ne_recordFile name env.stamp hid).symm
  cases hstep with
  | approve _ _ => exact .inl hfile
  | sign _ => exact .inl hfile
  | stage _ _ =>
      rw [Host.file_put, if_neg (by simp [htemp])] at hfile
      exact .inl hfile
  | unstage _ =>
      rw [Host.file_drop, if_neg (by simp [htemp])] at hfile
      exact .inl hfile
  | commitPending _ _ hstaged _ =>
      rw [Host.file_rename_ne hstaged (by simp) (by simp)] at hfile
      exact .inl hfile
  | @commitActive _ record hground hsize hstaged _ _ =>
      by_cases heq : record.pairId = pairId
      · subst heq
        rw [Host.file_rename_target hstaged] at hfile
        exact .inr ⟨record, hground, rfl, (Option.some.inj hfile).symm, hsize⟩
      · have hne : recordFile pairId ≠ recordFile record.pairId :=
          fun hname => heq (recordFile_inj hname).symm
        rw [Host.file_rename_ne hstaged (by simp [htemp]) (by simp [hne])] at hfile
        exact .inl hfile
  | removePending _ _ _ _ _ =>
      rw [Host.file_drop, if_neg (by simp)] at hfile
      exact .inl hfile
  | @revoke _ revokedId _ _ _ _ hactive _ _ _ =>
      by_cases heq : revokedId = pairId
      · subst heq
        rw [Host.file_rename_source hactive (by simp)] at hfile
        cases hfile
      · have hne : recordFile pairId ≠ recordFile revokedId :=
          fun hname => heq (recordFile_inj hname).symm
        rw [Host.file_rename_ne hactive (by simp [hne]) (by simp)] at hfile
        exact .inl hfile

end OmarchySync
