import OmarchySync.Trust.Runs

/-!
# Temporary files

A temporary file outlives an operation only if the operation is interrupted right after
creating or writing it.
-/

namespace OmarchySync

open Logic Wire Traced

/-- Every file carries the name of a PairID. -/
def Host.Tidy (h : Host) : Prop :=
  ∀ folder name, (h.file folder name).isSome → ∃ pairId, HexId pairId ∧ name = recordFile pairId

/-- Outside the two steps that stage a temporary file the directories are tidy. -/
def TidyStep (l : FsStep) (_ g : Host) : Prop := l ≠ .create → l ≠ .write → g.Tidy

section Files

variable {h g : Host}

private theorem Host.Tidy.of_subset (htidy : h.Tidy)
    (hsub : ∀ folder name, (g.file folder name).isSome → (h.file folder name).isSome ∨
      ∃ pairId, HexId pairId ∧ name = recordFile pairId) : g.Tidy := by
  intro folder name hsome
  rcases hsub folder name hsome with hold | hnamed
  · exact htidy folder name hold
  · exact hnamed

private theorem Host.Tidy.drop (htidy : h.Tidy) (folder : Folder) (name : FileName) :
    (h.drop folder name).Tidy := by
  apply htidy.of_subset
  intro f n hsome
  rw [Host.file_drop] at hsome
  split at hsome
  · cases hsome
  · exact .inl hsome

private theorem Host.AgreeExcept.tidy {folder : Folder} {name : FileName}
    (hagree : h.AgreeExcept g folder name)
    (htidy : h.Tidy) (hnone : g.file folder name = none) : g.Tidy := by
  apply htidy.of_subset
  intro f n hsome
  by_cases heq : f = folder ∧ n = name
  · rw [heq.1, heq.2, hnone] at hsome
    cases hsome
  · exact .inl (hagree.2 f n heq ▸ hsome)

private theorem keeps_writeAtomic_tidy (stamp : Stamp) (folder : Folder) {pairId : Text}
    (bytes : Bytes)
    (hid : HexId pairId) (htidy : h.Tidy) :
    Keeps TidyStep (writeAtomic stamp folder (recordFile pairId) bytes) (fun _ g => g.Tidy) h := by
  apply keeps_writeAtomic
  · intro g l content hl hcreate hwrite
    exact absurd hl (by simp [hcreate, hwrite])
  · intro g hagree
    have hdropped : (g.drop folder (temporaryName (recordFile pairId) stamp)).Tidy := by
      apply htidy.of_subset
      intro f n hsome
      rw [Host.file_drop] at hsome
      split at hsome
      next => cases hsome
      next hne => exact .inl (hagree.2 f n hne ▸ hsome)
    exact fun _ _ => hdropped
  · intro g hagree htemp _
    have hrenamed : (g.rename folder (temporaryName (recordFile pairId) stamp) folder
        (recordFile pairId)).Tidy := by
      apply htidy.of_subset
      intro f n hsome
      by_cases hname : n = recordFile pairId
      · exact .inr ⟨pairId, hid, hname⟩
      by_cases hstaged : f = folder ∧ n = temporaryName (recordFile pairId) stamp
      · have hne : ¬(folder = folder ∧ temporaryName (recordFile pairId) stamp = recordFile pairId) :=
          fun heq => temporaryName_ne_recordFile _ _ hid heq.2
        rw [hstaged.1, hstaged.2, Host.file_rename_source htemp hne] at hsome
        cases hsome
      · rw [Host.file_rename_ne htemp hstaged (by simp [hname])] at hsome
        exact .inl (hagree.2 f n hstaged ▸ hsome)
    exact ⟨fun _ _ => hrenamed, hrenamed⟩
  · intro e g hagree hnone
    exact hagree.tidy htidy hnone

variable [Serde] {env : Env}

private theorem keeps_writePending_tidy (record : PairingRecord) (htidy : h.Tidy) :
    Keeps TidyStep (writePending env record) (fun _ g => g.Tidy) h := by
  simp only [writePending, keeps_lift_bind, keeps_read_bind, keeps_ite, keeps_pure, htidy,
    recordPath_eq_ok, implies_true, and_true, true_and]
  intro path hpath
  obtain ⟨hid, rfl⟩ := hpath
  have hwrite : ∀ bytes, Keeps TidyStep
      (writeAtomic env.stamp .pending (recordFile record.pairId) bytes) (fun _ g => g.Tidy) h :=
    fun bytes => keeps_writeAtomic_tidy _ _ bytes hid htidy
  exact ⟨fun _ _ _ _ _ _ _ _ bytes _ => hwrite bytes, fun _ bytes _ => hwrite bytes⟩

private theorem keeps_removeStalePending_tidy (record : PairingRecord) (htidy : h.Tidy) :
    Keeps TidyStep (removeStalePending env record) (fun _ g => g.Tidy) h := by
  simp only [removeStalePending, keeps_read_bind]
  refine keeps_forEach (I := Host.Tidy) _ ?_ htidy
  intro name _ g hg
  simp only [removeStaleEntry, keeps_read_bind, keeps_lift_bind]
  refine ⟨?_, fun _ _ => hg⟩
  intro found _
  cases found with
  | none => exact (keeps_pure _).mpr hg
  | some pending =>
      have hdrop := hg.drop .pending name
      simp only [keeps_ite, keeps_step, keeps_pure]
      exact ⟨fun _ => ⟨fun _ _ => hdrop, hdrop⟩, fun _ => hg⟩

private theorem keeps_persistActive_tidy (record : PairingRecord) (htidy : h.Tidy) :
    Keeps TidyStep (persistActive env record) (fun _ g => g.Tidy) h := by
  simp only [persistActive, keeps_lift_bind, keeps_read_bind, keeps_ite, htidy,
    recordPath_eq_ok, implies_true, and_true]
  intro path hpath _ _
  obtain ⟨hid, rfl⟩ := hpath
  refine ⟨fun _ _ _ _ _ _ _ => keeps_removeStalePending_tidy record htidy, fun _ bytes _ => ?_⟩
  rw [keeps_bind]
  refine (keeps_writeAtomic_tidy _ _ bytes hid htidy).post ?_
  intro r g hg
  cases r with
  | error e => exact hg
  | ok u => exact keeps_removeStalePending_tidy record hg

end Files

section Operations

variable [Crypto] [Noise] [Serde] {store : PairingStore} {env : Env} {identity : DeviceIdentity}
  {h : Host}

private theorem keeps_signAndWrite_tidy {session : AuthenticatedPairingSession}
    (record : PairingRecord) (role : UInt8) (complete : Bool) (htidy : h.Tidy) :
    Keeps TidyStep (do
      let signature ← signRecord identity record role
      let record := record.setSignature role signature
      store.validateRecord record session identity complete true false
      writePending env record
      return record) (fun _ g => g.Tidy) h := by
  rw [keeps_bind]
  simp only [signRecord, keeps_lift_bind, keeps_step_bind, keeps_pure, htidy, implies_true, and_true]
  intro message _
  have hlogged : (h.log (.signed (.record record role))).Tidy := htidy
  refine ⟨fun _ _ => hlogged, fun _ _ => ?_, fun _ _ => hlogged⟩
  rw [keeps_bind]
  refine (keeps_writePending_tidy _ hlogged).post ?_
  intro r g hg
  cases r with
  | error e => exact hg
  | ok u => exact (keeps_pure _).mpr hg

/-- An operation that starts tidy ends tidy, and is tidy whenever nothing is staged. -/
theorem Op.keeps_tidy (op : Op) (htidy : h.Tidy) :
    Keeps TidyStep (op.run store env identity) (fun _ g => g.Tidy) h := by
  cases op with
  | prepare session broker =>
      apply keeps_forget
      simp only [PairingStore.prepare, keeps_lift_bind, keeps_step_bind, htidy, implies_true,
        and_true]
      intro _ _ grant _
      have hlogged : (h.log (.approved session.peerCertificate)).Tidy := htidy
      refine ⟨fun _ _ => hlogged, fun _ _ => ⟨fun base _ => ?_, fun _ _ => hlogged⟩,
        fun _ _ => hlogged⟩
      exact keeps_signAndWrite_tidy _ _ false hlogged
  | coSign session pending =>
      apply keeps_forget
      simp only [PairingStore.coSign, keeps_lift_bind, htidy, implies_true, and_true]
      intro _ _ _ _ _ _ _ _
      exact keeps_signAndWrite_tidy _ _ true htidy
  | resumePrepare session pending =>
      apply keeps_forget
      simp only [PairingStore.resumePrepare, keeps_lift_bind, htidy, implies_true, and_true]
      intro _ _ _ _ _ _ base _
      exact keeps_signAndWrite_tidy _ _ false htidy
  | finalize session record =>
      simp only [Op.run, PairingStore.finalize, keeps_lift_bind, htidy, implies_true, and_true]
      intro _ _ _ _
      exact keeps_persistActive_tidy record htidy
  | reconcile session record =>
      simp only [Op.run, PairingStore.reconcile, keeps_lift_bind, htidy, implies_true, and_true]
      intro _ _ _ _
      exact keeps_persistActive_tidy record htidy
  | revoke pairId =>
      simp only [Op.run, PairingStore.revoke, keeps_lift_bind, keeps_read_bind, keeps_step, htidy,
        recordPath_eq_ok, implies_true, and_true]
      intro path hpath found hfound record hrecord _ _ _ _
      obtain ⟨hid, rfl⟩ := hpath
      obtain rfl := (someOr_eq_ok _ _ _).mp hrecord
      obtain ⟨bytes, hfile, _⟩ := (readRecord_eq_ok h .active _ record).mp hfound
      have hrenamed : (h.rename .active (recordFile pairId) .revoked (recordFile pairId)).Tidy := by
        apply htidy.of_subset
        intro f n hsome
        by_cases hname : n = recordFile pairId
        · exact .inr ⟨pairId, hid, hname⟩
        · rw [Host.file_rename_ne hfile (by simp [hname]) (by simp [hname])] at hsome
          exact .inl hsome
      exact ⟨fun _ _ => hrenamed, hrenamed⟩

/-- A run whose interruptions never fall right after a staging step stays tidy. -/
theorem Run.tidy {S : Setting} {start : Host} {calls : List Call}
    (hcut : ∀ l, S.cut l → l ≠ .create ∧ l ≠ .write) (hrun : Run S start calls h)
    (htidy : start.Tidy) : h.Tidy := by
  induction hrun with
  | start => exact htidy
  | sign _ _ ih => exact ih
  | @call calls h call g _ _ hends ih =>
      have hkeeps : Keeps TidyStep (call.op.run (call.store S) call.env S.identity)
          (fun _ g => g.Tidy) h := call.op.keeps_tidy ih
      cases hends with
      | completes => exact hkeeps.2
      | interrupted hmem hl =>
          obtain ⟨_, hstep⟩ := hkeeps.1.of_mem hmem
          exact hstep (hcut _ hl).1 (hcut _ hl).2

end Operations

end OmarchySync
