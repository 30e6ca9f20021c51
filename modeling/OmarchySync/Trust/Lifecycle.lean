import OmarchySync.Trust.Binding
import OmarchySync.Trust.Runs

/-!
# The life of a PairID

A PairID is absent, then active with one record, then revoked with that record. No operation
leaves this path, wherever it is interrupted.
-/

namespace OmarchySync

open Logic Wire Traced

/-- The life of something that is activated once and revoked once. -/
inductive Life (α : Type) where
  | absent
  | active (a : α)
  | revoked (a : α)

namespace Life

variable {α : Type}

inductive Next : Life α → Life α → Prop where
  | activate (a : α) : Next absent (active a)
  | revoke (a : α) : Next (active a) (revoked a)

/-- Any number of steps along the life. -/
abbrev Advances : Life α → Life α → Prop := Relation.ReflTransGen Next

def active? : Life α → Option α
  | active a => some a
  | _ => none

def revoked? : Life α → Option α
  | revoked a => some a
  | _ => none

def held? : Life α → Option α
  | absent => none
  | active a => some a
  | revoked a => some a

theorem Advances.of_revoked {a : α} {life : Life α} (h : Advances (revoked a) life) :
    life = revoked a := by
  rcases Relation.ReflTransGen.cases_head h with heq | ⟨_, hnext, _⟩
  · exact heq.symm
  · cases hnext

theorem Advances.of_active {a : α} {life : Life α} (h : Advances (active a) life) :
    life = active a ∨ life = revoked a := by
  rcases Relation.ReflTransGen.cases_head h with heq | ⟨_, hnext, hrest⟩
  · exact .inl heq.symm
  · cases hnext
    exact .inr (Advances.of_revoked hrest)

end Life

section Steps

variable [Crypto] [Noise]

/-- The record an operation may activate. -/
def Op.activates : Op → Option PairingRecord
  | .finalize _ record => some record
  | .reconcile _ record => some record
  | _ => none

/-- The step in the life of `pairId` an operation may make. -/
inductive Op.Moves (pairId : Text) : Op → Life PairingRecord → Life PairingRecord → Prop where
  | activate {op record} (hop : op.activates = some record) (hid : record.pairId = pairId) :
      Moves pairId op .absent (.active record)
  | revoke {record} : Moves pairId (.revoke pairId) (.active record) (.revoked record)

omit [Crypto] in
theorem Op.Moves.next {pairId : Text} {op : Op} {life life' : Life PairingRecord}
    (h : op.Moves pairId life life') : life.Next life' := by
  cases h with
  | activate _ _ => exact .activate _
  | revoke => exact .revoke _

theorem ActiveGround.activates {store : PairingStore} {identity : DeviceIdentity} {op : Op}
    {record : PairingRecord} (h : ActiveGround store identity op record) :
    op.activates = some record := by
  cases h <;> rfl

theorem ActiveGround.shaped {store : PairingStore} {identity : DeviceIdentity} {op : Op}
    {record : PairingRecord} (h : ActiveGround store identity op record) : record.Shaped := by
  cases h with
  | finalize _ hfits => exact hfits.attested.shaped
  | reconcile _ hfits => exact hfits.attested.shaped

variable [Serde]

/-- The directories hold `pairId` at this point of its life. -/
structure Host.Lives (h : Host) (pairId : Text) (life : Life PairingRecord) : Prop where
  active : h.file .active (recordFile pairId) = life.active?.map PairingRecord.toVec
  revoked : h.file .revoked (recordFile pairId) = life.revoked?.map PairingRecord.toVec
  held : ∀ r, life.held? = some r →
    r.pairId = pairId ∧ PairingRecord.fromBytes r.toVec = .ok r

omit [Crypto] [Noise] in
theorem Host.empty_lives (pairId : Text) : Host.empty.Lives pairId .absent := by
  constructor
  · exact Host.file_empty _ _
  · exact Host.file_empty _ _
  · intro r hr
    cases hr

variable {S : Setting} [LawfulSerde]

/-- One atomic step leaves a PairID where it is or moves it along its life. -/
theorem StoreStep.lives {store : PairingStore} {env : Env} {identity : DeviceIdentity} {op : Op}
    {l : FsStep} {h g : Host} {pairId : Text} {life : Life PairingRecord} (hid : HexId pairId)
    (hstep : StoreStep store env identity op l h g) (hlives : h.Lives pairId life) :
    ∃ life', g.Lives pairId life' ∧ (life' = life ∨ op.Moves pairId life life') := by
  have htemp : ∀ name, recordFile pairId ≠ temporaryName name env.stamp :=
    fun name => (temporaryName_ne_recordFile name env.stamp hid).symm
  have hsame : ∀ g : Host, (∀ folder, folder ≠ .pending →
      g.file folder (recordFile pairId) = h.file folder (recordFile pairId)) →
      ∃ life', g.Lives pairId life' ∧ (life' = life ∨ op.Moves pairId life life') := by
    intro g hfile
    refine ⟨life, ⟨?_, ?_, hlives.held⟩, .inl rfl⟩
    · rw [hfile .active (by decide), hlives.active]
    · rw [hfile .revoked (by decide), hlives.revoked]
  cases hstep with
  | approve _ _ => exact hsame _ fun _ _ => rfl
  | sign _ => exact hsame _ fun _ _ => rfl
  | stage _ _ =>
      apply hsame
      intro folder _
      rw [Host.file_put, if_neg (by simp [htemp])]
  | unstage _ =>
      apply hsame
      intro folder _
      rw [Host.file_drop, if_neg (by simp [htemp])]
  | commitPending _ _ hstaged _ =>
      apply hsame
      intro folder hfolder
      exact Host.file_rename_ne hstaged (by simp [hfolder]) (by simp [hfolder])
  | removePending _ _ _ _ _ =>
      apply hsame
      intro folder hfolder
      rw [Host.file_drop, if_neg (by simp [hfolder])]
  | @commitActive _ record hground hsize hstaged hfree hrevoked =>
      by_cases heq : record.pairId = pairId
      · -- both directories are free, so the PairID was absent
        subst heq
        rw [hlives.active] at hfree
        have hread : PairingRecord.fromBytes record.toVec = .ok record :=
          PairingRecord.fromBytes_toBytes
            ((PairingRecord.toBytes_eq_ok _ _).mpr ⟨hsize, rfl⟩) hground.shaped
        have habsent : life = .absent := by
          rw [hlives.revoked] at hrevoked
          cases life with
          | absent => rfl
          | active a => cases hfree
          | revoked a => cases hrevoked
        subst habsent
        refine ⟨.active record, ⟨?_, ?_, ?_⟩, .inr (.activate hground.activates rfl)⟩
        · exact Host.file_rename_target hstaged _ _
        · rw [Host.file_rename_ne hstaged (by simp) (by simp)]
          exact hrevoked
        · intro r hr
          cases hr
          exact ⟨rfl, hread⟩
      · have hne : recordFile pairId ≠ recordFile record.pairId :=
          fun hname => heq (recordFile_inj hname).symm
        apply hsame
        intro folder _
        exact Host.file_rename_ne hstaged (by simp [htemp]) (by simp [hne])
  | @revoke _ revokedId bytes record hop _ hfile _ _ hfree =>
      by_cases heq : revokedId = pairId
      · subst heq
        have hbytes := hfile
        rw [hlives.active] at hbytes
        cases life with
        | absent => cases hbytes
        | revoked a => cases hbytes
        | active a =>
            cases hbytes
            refine ⟨.revoked a, ⟨?_, ?_, hlives.held⟩, .inr (hop ▸ .revoke)⟩
            · exact Host.file_rename_source hfile (by simp)
            · exact Host.file_rename_target hfile _ _
      · have hne : recordFile pairId ≠ recordFile revokedId :=
          fun hname => heq (recordFile_inj hname).symm
        apply hsame
        intro folder _
        exact Host.file_rename_ne hfile (by simp [hne]) (by simp [hne])

theorem Call.Ends.lives {call : Call} {h g : Host} {pairId : Text} {life : Life PairingRecord}
    (hid : HexId pairId) (hends : call.Ends S h g) (hlives : h.Lives pairId life) :
    ∃ life', g.Lives pairId life' ∧ Relation.ReflTransGen (call.op.Moves pairId) life life' := by
  refine hends.invariant (I := fun a => ∃ life', a.Lives pairId life' ∧
    Relation.ReflTransGen (call.op.Moves pairId) life life') ?_ ⟨life, hlives, .refl⟩
  intro l a b _ hstep ha
  obtain ⟨mid, hmid, hmoves⟩ := ha
  obtain ⟨life', hlives', heq | hmove⟩ := hstep.lives hid hmid
  · subst heq
    exact ⟨_, hlives', hmoves⟩
  · exact ⟨life', hlives', hmoves.tail hmove⟩

theorem Run.lives {start h : Host} {calls : List Call} {pairId : Text}
    {life : Life PairingRecord} (hid : HexId pairId) (hrun : Run S start calls h)
    (hlives : start.Lives pairId life) : ∃ life', h.Lives pairId life' ∧ life.Advances life' := by
  induction hrun with
  | start => exact ⟨life, hlives, .refl⟩
  | call _ _ hends ih =>
      obtain ⟨mid, hmid, hadvances⟩ := ih
      obtain ⟨life', hlives', hmoves⟩ := hends.lives hid hmid
      have hnext : mid.Advances life' := hmoves.lift id fun _ _ hmove => hmove.next
      exact ⟨life', hlives', hadvances.trans hnext⟩
  | sign _ _ ih =>
      obtain ⟨life', hlives', hadvances⟩ := ih
      exact ⟨life', ⟨hlives'.active, hlives'.revoked, hlives'.held⟩, hadvances⟩

omit [LawfulSerde] in
/-- Only a revocation brings a revoked file. -/
theorem StoreStep.revoked_file {store : PairingStore} {env : Env} {identity : DeviceIdentity}
    {op : Op} {l : FsStep} {h g : Host} {name : FileName}
    (hstep : StoreStep store env identity op l h g) (hsome : (g.file .revoked name).isSome) :
    (h.file .revoked name).isSome ∨
      ∃ pairId, op = .revoke pairId ∧ HexId pairId ∧ name = recordFile pairId := by
  cases hstep with
  | approve _ _ => exact .inl hsome
  | sign _ => exact .inl hsome
  | stage _ hfolder =>
      rw [Host.file_put, if_neg (by simp [hfolder.symm])] at hsome
      exact .inl hsome
  | unstage hfolder =>
      rw [Host.file_drop, if_neg (by simp [hfolder.symm])] at hsome
      exact .inl hsome
  | commitPending _ _ hstaged _ =>
      rw [Host.file_rename_ne hstaged (by simp) (by simp)] at hsome
      exact .inl hsome
  | commitActive _ _ hstaged _ _ =>
      rw [Host.file_rename_ne hstaged (by simp) (by simp)] at hsome
      exact .inl hsome
  | removePending _ _ _ _ _ =>
      rw [Host.file_drop, if_neg (by simp)] at hsome
      exact .inl hsome
  | @revoke _ pairId _ _ hop hid hfile _ _ _ =>
      by_cases heq : name = recordFile pairId
      · exact .inr ⟨pairId, hop, hid, heq⟩
      · rw [Host.file_rename_ne hfile (by simp) (by simp [heq])] at hsome
        exact .inl hsome

/-- Revoked files carry the name of a PairID. -/
def Host.RevokedNamed (h : Host) : Prop :=
  ∀ name, (h.file .revoked name).isSome → ∃ pairId, HexId pairId ∧ name = recordFile pairId

omit [LawfulSerde] in
private theorem StoreStep.revokedNamed {store : PairingStore} {env : Env}
    {identity : DeviceIdentity}
    {op : Op} {l : FsStep} {h g : Host} (hstep : StoreStep store env identity op l h g)
    (hnamed : h.RevokedNamed) : g.RevokedNamed := by
  intro name hsome
  rcases hstep.revoked_file hsome with hold | hnew
  · exact hnamed name hold
  · obtain ⟨pairId, -, hname⟩ := hnew
    exact ⟨pairId, hname⟩

/-- The active and revoked directories are as they were. -/
def Host.SameTrust (h g : Host) : Prop :=
  g.trust .active = h.trust .active ∧ g.trust .revoked = h.trust .revoked

omit [Crypto] [Noise] [LawfulSerde] in
private theorem removeStalePending_sameTrust (env : Env) (record : PairingRecord) (h : Host) :
    Keeps (fun _ a b => a.SameTrust b) (removeStalePending env record) (fun _ _ => True) h := by
  simp only [removeStalePending, keeps_read_bind]
  refine (keeps_forEach (I := fun _ => True) _ ?_ trivial).post fun _ _ _ => trivial
  intro name _ g _
  simp only [removeStaleEntry, keeps_read_bind, keeps_lift_bind]
  refine ⟨?_, fun _ _ => trivial⟩
  intro found _
  cases found with
  | none => exact (keeps_pure _).mpr trivial
  | some pending =>
      simp only [keeps_ite, keeps_step, keeps_pure, and_true, implies_true]
      intro _
      exact ⟨by simp [Host.drop], by simp [Host.drop]⟩

omit [Crypto] [Noise] [LawfulSerde] in
private theorem persistActive_sameTrust {env : Env} {record existing : PairingRecord} {h : Host}
    {bytes : Bytes} (hfile : h.file .active (recordFile record.pairId) = some bytes)
    (hread : PairingRecord.fromBytes bytes = .ok existing) :
    Keeps (fun _ a b => a.SameTrust b) (persistActive env record)
      (fun r _ => existing ≠ record → ∃ e, r = .error e) h := by
  have hfound : readRecord h .active (recordFile record.pairId) = .ok (some existing) :=
    (readRecord_eq_ok _ _ _ _).mpr ⟨bytes, hfile, hread⟩
  simp only [persistActive, keeps_lift_bind, keeps_read_bind, keeps_ite, recordPath_eq_ok,
    Except.error.injEq, exists_eq', implies_true, and_true]
  intro path hpath _ _
  obtain ⟨_, rfl⟩ := hpath
  simp only [hfile, hfound, someOr, Option.isSome_some, Except.ok.injEq, forall_eq', true_implies,
    not_true_eq_false, false_implies, and_true, bailIf_eq_ok, ne_eq, not_not]
  intro _ heq
  refine (removeStalePending_sameTrust env record h).post ?_
  intro r g _ hne
  exact absurd heq hne

omit [LawfulSerde] in
private theorem Op.keeps_activate {store : PairingStore} {env : Env} {identity : DeviceIdentity}
    {op : Op}
    {record existing : PairingRecord} {h : Host} {bytes : Bytes}
    (hop : op.activates = some record)
    (hfile : h.file .active (recordFile record.pairId) = some bytes)
    (hread : PairingRecord.fromBytes bytes = .ok existing) :
    Keeps (fun _ a b => a.SameTrust b) (op.run store env identity)
      (fun r _ => existing ≠ record → ∃ e, r = .error e) h := by
  cases op with
  | finalize session r =>
      cases hop
      simp only [Op.run, PairingStore.finalize, keeps_lift_bind, Except.error.injEq, exists_eq',
        implies_true, and_true]
      intro _ _ _ _
      exact persistActive_sameTrust hfile hread
  | reconcile session r =>
      cases hop
      simp only [Op.run, PairingStore.reconcile, keeps_lift_bind, Except.error.injEq, exists_eq',
        implies_true, and_true]
      intro _ _ _ _
      exact persistActive_sameTrust hfile hread
  | _ => cases hop

/-- Where a host stands and what can become of it. -/
structure Host.PairIdLifecycle (S : Setting) (h : Host) : Prop where
  stands : ∀ pairId, HexId pairId → ∃ life, h.Lives pairId life
  disjoint : ∀ name, h.file .active name = none ∨ h.file .revoked name = none
  advances : ∀ calls g, Run S h calls g → ∀ pairId life, HexId pairId → h.Lives pairId life →
    ∃ life', g.Lives pairId life' ∧ life.Advances life'
  moves : ∀ (call : Call) g, call.Ends S h g → ∀ pairId life, HexId pairId → h.Lives pairId life →
    ∃ life', g.Lives pairId life' ∧ Relation.ReflTransGen (call.op.Moves pairId) life life'
  refuses : ∀ (call : Call) record r, call.op.activates = some record →
    h.Lives record.pairId (.active r) →
    (∀ l g, (l, g) ∈ (call.outcome S h).visited → h.SameTrust g) ∧
      (r ≠ record → ∃ e, (call.outcome S h).result = .error e)

/-- In every reachable state every PairID is at one point of its life, and any further run,
crashes included, only advances it. -/
theorem pairId_lifecycle {calls : List Call} {h : Host} (hrun : Run S Host.empty calls h) :
    h.PairIdLifecycle S := by
  have hstands : ∀ pairId, HexId pairId → ∃ life, h.Lives pairId life := by
    intro pairId hid
    obtain ⟨life, hlives, _⟩ := hrun.lives hid (Host.empty_lives pairId)
    exact ⟨life, hlives⟩
  have hnamed : h.RevokedNamed := by
    refine hrun.invariant (I := fun _ a => a.RevokedNamed) ?_ ?_ ?_ ?_
    · intro name hsome
      rw [Host.file_empty] at hsome
      cases hsome
    · exact fun _ _ _ hI => hI
    · exact fun _ _ _ _ hI => hI
    · exact fun _ _ _ _ _ _ _ _ _ hstep hI => hstep.revokedNamed hI
  refine ⟨hstands, ?_, ?_, ?_, ?_⟩
  · intro name
    cases hrevoked : h.file .revoked name with
    | none => exact .inr rfl
    | some bytes =>
        obtain ⟨pairId, hid, rfl⟩ := hnamed name (by rw [hrevoked]; rfl)
        obtain ⟨life, hlives⟩ := hstands pairId hid
        rw [hlives.revoked] at hrevoked
        rw [hlives.active]
        cases life with
        | revoked a => exact .inl rfl
        | _ => cases hrevoked
  · intro calls g hmore pairId life hid hlives
    exact hmore.lives hid hlives
  · intro call g hends pairId life hid hlives
    exact hends.lives hid hlives
  · intro call record r hop hlives
    have hread := (hlives.held r rfl).2
    have hkeeps : Keeps (fun _ a b => a.SameTrust b) (call.op.run (call.store S) call.env S.identity)
        (fun res _ => r ≠ record → ∃ e, res = .error e) h :=
      Op.keeps_activate hop hlives.active hread
    have hsame := hkeeps.1.invariant (I := fun a => h.SameTrust a)
      (fun l a b hab ha => ⟨hab.1.trans ha.1, hab.2.trans ha.2⟩) ⟨rfl, rfl⟩
    exact ⟨hsame.2, hkeeps.2⟩

end Steps

namespace Loopback

attribute [local instance] crypto noise PairingRecord.canonicalSerde
  PairingRecord.canonicalSerde_lawful

/-- One device that may be interrupted anywhere. -/
def crashing (b : UInt8) : Setting := ⟨root, identity b, fun _ => True, fun _ _ => True⟩

/-- A record both participants signed. -/
def complete (r : PairingRecord) (initiator responder : UInt8) : PairingRecord :=
  signedBy (signedBy r initiator roleInitiator) responder roleResponder

/-- The responder activates a complete record. -/
def activation : Call :=
  ⟨100, env, .finalize (sessionOf 7 2 1 roleResponder) (complete (recordOf 7 1 2 2 100) 1 2)⟩

theorem pairId_lifecycle_activation :
    (endState Host.empty (activation.outcome (crashing 2) Host.empty).visited).PairIdLifecycle
      (crashing 2) :=
  pairId_lifecycle (Run.start.call trivial .completes)

end Loopback

end OmarchySync
