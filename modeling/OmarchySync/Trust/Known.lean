import OmarchySync.Trust.Activation
import OmarchySync.Trust.Lookup
import OmarchySync.Trust.Runs
import OmarchySync.Trust.Success

/-!
# Peers a device knows

A device knows a peer while it holds a pending or an active record of the two. The store
never forgets a peer unless an active record of it is revoked, for a pending record is only
removed in favour of an active one.
-/

namespace OmarchySync

open Logic Wire Traced

section Records

variable [Serde]

/-- The device holds a record of the two devices in its place. -/
def Host.Knows (h : Host) (first second : Text) : Prop :=
  ∃ r : PairingRecord, (h.Committed .pending r ∨ h.Committed .active r) ∧ r.binds first second

private theorem Host.Committed.of_file {h g : Host} {folder : Folder} {r : PairingRecord}
    (hcommitted : h.Committed folder r)
    (hsame : g.file folder (recordFile r.pairId) = h.file folder (recordFile r.pairId)) :
    g.Committed folder r :=
  ⟨hcommitted.pairId, hsame ▸ hcommitted.stored⟩

omit [Serde] in
private theorem PairingRecord.binds_of_binds {r r' : PairingRecord} {first second : Text}
    (h : r.binds r'.initiatorDeviceId r'.responderDeviceId) (hbinds : r.binds first second) :
    r'.binds first second := by
  rcases h with h | h
  · rw [PairingRecord.binds, ← h.1, ← h.2]
    exact hbinds
  · rw [PairingRecord.binds, ← h.1, ← h.2]
    exact hbinds.elim (fun hb => .inr ⟨hb.2, hb.1⟩) fun hb => .inl ⟨hb.2, hb.1⟩

end Records

variable [Crypto] [Noise] [Serde] [LawfulSerde] {store : PairingStore} {env : Env}
  {identity : DeviceIdentity} {h : Host}

/-- A pending record is removed only while the record to activate is in place. -/
def RemovesFor (op : Op) (l : FsStep) (h _ : Host) : Prop :=
  l = .removePending → ∃ record, op.activates = some record ∧ h.Committed .active record

omit [Crypto] [LawfulSerde] in
private theorem removeStalePending_removesFor {op : Op} {record : PairingRecord}
    (hop : op.activates = some record) (hactive : h.Committed .active record) :
    Keeps (RemovesFor op) (removeStalePending env record) (fun _ _ => True) h := by
  simp only [removeStalePending, keeps_read_bind]
  refine (keeps_forEach (I := fun g => g.Committed .active record) _ ?_ hactive).post
    fun _ _ _ => trivial
  intro name _ g hg
  simp only [removeStaleEntry, keeps_read_bind, keeps_lift_bind]
  refine ⟨?_, fun _ _ => hg⟩
  intro found _
  cases found with
  | none => exact (keeps_pure _).mpr hg
  | some pending =>
      simp only [keeps_ite, keeps_step, keeps_pure]
      refine ⟨fun _ => ⟨fun _ => ⟨record, hop, hg⟩, ?_⟩, fun _ => hg⟩
      apply hg.of_file
      rw [Host.file_drop, if_neg (by simp)]

omit [Crypto] in
private theorem persistActive_removesFor {op : Op} {record : PairingRecord}
    (hop : op.activates = some record) (hshaped : record.Shaped) :
    Keeps (RemovesFor op) (persistActive env record) (fun _ _ => True) h := by
  simp only [persistActive, keeps_lift_bind, keeps_read_bind, keeps_ite, recordPath_eq_ok,
    bailIf_eq_ok, someOr_eq_ok, implies_true, and_true, not_not]
  intro path hpath _ _
  obtain ⟨hid, rfl⟩ := hpath
  constructor
  · intro _ found hfound existing hexisting _ hsame
    subst hexisting hsame
    exact removeStalePending_removesFor hop ⟨hid, (readRecord_eq_ok ..).mp hfound⟩
  · intro _ bytes hbytes
    have hread := PairingRecord.fromBytes_toBytes hbytes hshaped
    rw [keeps_bind]
    have hwrite : Keeps (RemovesFor op)
        (writeAtomic env.stamp .active (recordFile record.pairId) bytes)
        (fun r g => r = .ok () → g.Committed .active record) h := by
      apply keeps_writeAtomic
      · intro g l content hl heq
        rcases hl with hl | hl
        · exact absurd (hl.1.symm.trans heq) (by decide)
        · exact absurd (hl.1.symm.trans heq) (by decide)
      · intro g _ heq
        cases heq
      · intro g _ htemp _
        refine ⟨fun heq => (by cases heq), fun _ => ⟨hid, bytes, ?_, hread⟩⟩
        exact Host.file_rename_target htemp _ _
      · intro e g _ _ heq
        cases heq
    refine hwrite.post ?_
    intro r g hr
    cases r with
    | error e => trivial
    | ok u => exact removeStalePending_removesFor hop (hr rfl)

private theorem Op.keeps_removesFor (op : Op) (h : Host) :
    Keeps (RemovesFor op) (op.run store env identity) (fun _ _ => True) h := by
  have hother : op.activates = none →
      Keeps (RemovesFor op) (op.run store env identity) (fun _ _ => True) h := by
    intro hnone
    refine (Op.keeps_run op h).mono ?_ fun _ _ _ => trivial
    intro l a b hstep heq
    subst heq
    cases hstep with
    | stage hl _ => exact absurd hl (by decide)
    | removePending hground _ _ _ _ =>
        rw [hground.activates] at hnone
        cases hnone
  cases op with
  | finalize session record =>
      simp only [Op.run, PairingStore.finalize, keeps_lift_bind, implies_true, and_true,
        PairingStore.validateRecord_eq_ok]
      intro _ _ _ hfits
      exact persistActive_removesFor rfl hfits.attested.shaped
  | reconcile session record =>
      simp only [Op.run, PairingStore.reconcile, keeps_lift_bind, implies_true, and_true,
        PairingStore.validateRecord_eq_ok]
      intro _ _ _ hfits
      exact persistActive_removesFor rfl hfits.attested.shaped
  | prepare session broker => exact hother rfl
  | coSign session pending => exact hother rfl
  | resumePrepare session pending => exact hother rfl
  | revoke pairId => exact hother rfl

/-- The operation revokes no active record of the two devices. -/
def Op.Spares (op : Op) (h : Host) (first second : Text) : Prop :=
  ∀ pairId, op = .revoke pairId → ∀ r : PairingRecord, h.Committed .active r →
    r.pairId = pairId → ¬r.binds first second

omit [LawfulSerde] in
private theorem StoreStep.spares {op : Op} {l : FsStep} {a b : Host} {first second : Text}
    (hstep : StoreStep store env identity op l a b) (hspares : op.Spares a first second) :
    op.Spares b first second := by
  intro pairId hop r hcommitted
  obtain ⟨bytes, hfile, hread⟩ := hcommitted.stored
  rcases hstep.active_file hcommitted.pairId hfile with hold | hnew
  · exact hspares pairId hop r ⟨hcommitted.pairId, bytes, hold, hread⟩
  · obtain ⟨_, hground, -⟩ := hnew
    have hactivates := hground.activates
    rw [hop] at hactivates
    cases hactivates

omit [LawfulSerde] in
/-- One atomic step forgets no peer whose record it does not revoke. -/
theorem StoreStep.knows {op : Op} {l : FsStep} {a b : Host} {first second : Text}
    (hstep : StoreStep store env identity op l a b) (hremoves : RemovesFor op l a b)
    (hspares : op.Spares a first second) (hknows : a.Knows first second) :
    b.Knows first second := by
  obtain ⟨r, hcommitted, hbinds⟩ := hknows
  have hid : HexId r.pairId := hcommitted.elim Host.Committed.pairId Host.Committed.pairId
  have htemp : ∀ name, recordFile r.pairId ≠ temporaryName name env.stamp :=
    fun name => (temporaryName_ne_recordFile name env.stamp hid).symm
  have hkept : (∀ folder, a.Committed folder r →
      b.file folder (recordFile r.pairId) = a.file folder (recordFile r.pairId)) →
      b.Knows first second := by
    intro hfile
    refine ⟨r, ?_, hbinds⟩
    rcases hcommitted with hpending | hactive
    · exact .inl (hpending.of_file (hfile _ hpending))
    · exact .inr (hactive.of_file (hfile _ hactive))
  cases hstep with
  | approve _ _ => exact hkept fun _ _ => rfl
  | sign _ => exact hkept fun _ _ => rfl
  | stage _ _ =>
      apply hkept
      intro folder _
      rw [Host.file_put, if_neg (by simp [htemp])]
  | unstage _ =>
      apply hkept
      intro folder _
      rw [Host.file_drop, if_neg (by simp [htemp])]
  | @commitPending _ _ _ record _ _ hstaged hfree =>
      apply hkept
      intro folder hcommitted
      by_cases heq : folder = .pending ∧ recordFile r.pairId = recordFile record.pairId
      · obtain ⟨bytes, hfile, -⟩ := hcommitted.stored
        rw [heq.1, heq.2, hfree] at hfile
        cases hfile
      · exact Host.file_rename_ne hstaged (by simp [htemp]) heq
  | @commitActive _ record _ _ hstaged hfree _ =>
      apply hkept
      intro folder hcommitted
      by_cases heq : folder = .active ∧ recordFile r.pairId = recordFile record.pairId
      · obtain ⟨bytes, hfile, -⟩ := hcommitted.stored
        rw [heq.1, heq.2, hfree] at hfile
        cases hfile
      · exact Host.file_rename_ne hstaged (by simp [htemp]) heq
  | @removePending _ name bytes pending record hground _ hfile hread hstale =>
      obtain ⟨record', hop, hactive⟩ := hremoves rfl
      rw [hground.activates] at hop
      cases hop
      by_cases heq : recordFile r.pairId = name
      · rcases hcommitted with hpending | hcommitted
        · -- the dropped file held `r`, so the active record is one of the same two devices
          obtain ⟨bytes', hfile', hread'⟩ := hpending.stored
          rw [heq, hfile] at hfile'
          cases hfile'
          rw [hread] at hread'
          cases hread'
          refine ⟨record, .inr (hactive.of_file ?_), PairingRecord.binds_of_binds hstale hbinds⟩
          rw [Host.file_drop, if_neg (by simp)]
        · refine ⟨r, .inr (hcommitted.of_file ?_), hbinds⟩
          rw [Host.file_drop, if_neg (by simp)]
      · apply hkept
        intro folder _
        rw [Host.file_drop, if_neg (by simp [heq])]
  | @revoke _ pairId bytes record hop _ hfile _ _ _ =>
      rcases hcommitted with hpending | hactive
      · refine ⟨r, .inl (hpending.of_file ?_), hbinds⟩
        exact Host.file_rename_ne hfile (by simp) (by simp)
      · have hne : recordFile r.pairId ≠ recordFile pairId := by
          intro heq
          exact hspares pairId hop r hactive (recordFile_inj heq) hbinds
        refine ⟨r, .inr (hactive.of_file ?_), hbinds⟩
        exact Host.file_rename_ne hfile (by simp [hne]) (by simp)

/-- Nor does a whole operation, wherever it is interrupted. -/
theorem Op.keeps_knows (op : Op) {first second : Text} (hspares : op.Spares h first second) :
    Keeps (fun _ a b => a.Knows first second → b.Knows first second)
      (op.run store env identity) (fun _ _ => True) h := by
  have hremoves : Keeps (RemovesFor op) (op.run store env identity) (fun _ _ => True) h :=
    op.keeps_removesFor h
  have hpath := (op.keeps_run h).1.and hremoves.1
  refine ⟨hpath.strengthen (I := fun a => op.Spares a first second) ?_ hspares, trivial⟩
  intro l a b hstep ha
  exact ⟨hstep.1.knows hstep.2 ha, hstep.1.spares ha⟩

theorem Call.Ends.knows {S : Setting} {call : Call} {g : Host} {first second : Text}
    (hends : call.Ends S h g) (hspares : call.op.Spares h first second)
    (hknows : h.Knows first second) : g.Knows first second :=
  hends.of_keeps (Op.keeps_knows call.op hspares) (fun _ _ _ hab ha => hab ha) hknows

/-- A device that has prepared a record for a peer knows it. -/
theorem prepare_knows {session : AuthenticatedPairingSession} {broker : AuthorizationBroker} :
    Keeps AnyStep (store.prepare env session identity broker)
      (fun r g => ∀ record, r = .ok record →
        g.Knows identity.deviceId session.peerCertificate.deviceId) h := by
  simp only [PairingStore.prepare, keeps_lift_bind, keeps_step_bind, reduceCtorEq, false_implies,
    implies_true, and_true, true_and]
  intro _ hid grant _ _ _ base _
  rw [keeps_bind]
  simp only [signRecord, keeps_lift_bind, keeps_step_bind, keeps_pure, reduceCtorEq, false_implies,
    implies_true, and_true, true_and, PairingStore.validateRecord_eq_ok]
  intro _ _ _ hfits
  rw [keeps_bind]
  refine (writePending_binds env hfits.attested.shaped).post ?_
  intro r g hr
  cases r with
  | error e =>
      intro record hrecord
      cases hrecord
  | ok u =>
      apply (keeps_pure _).mpr
      intro _ _
      obtain ⟨bytes, old, hfile, hread, hpair, hinitiator, hresponder⟩ := hr rfl
      have hbinds := hfits.binds hid
      refine ⟨old, .inl ⟨hpair ▸ hfits.attested.shaped.pairId, bytes, hfile, hread⟩, ?_⟩
      rw [PairingRecord.binds, hinitiator, hresponder]
      exact hbinds

end OmarchySync
