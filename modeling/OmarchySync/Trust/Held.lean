import OmarchySync.Trust.Lifecycle
import OmarchySync.Trust.Lookup

/-!
# Records that were activated

Once a record is active its device holds exactly these bytes for good, in the active or in the
revoked directory. Another device trusts what this one holds if each of its active files is such
a record.
-/

namespace OmarchySync

open Logic Wire Traced

private theorem Life.Next.held? {α : Type} {life life' : Life α} {a : α} (hnext : life.Next life')
    (ha : life.held? = some a) : life'.held? = some a := by
  cases hnext with
  | activate b => cases ha
  | revoke b => exact ha

section Held

variable [Serde]

/-- Every PairID is at some point of its life. -/
def Host.Stands (h : Host) : Prop := ∀ pairId, HexId pairId → ∃ life, h.Lives pairId life

/-- The record is active, or it was and is revoked. -/
structure Host.HasActivated (h : Host) (r : PairingRecord) : Prop where
  pairId : HexId r.pairId
  held : ∃ life, h.Lives r.pairId life ∧ life.held? = some r

variable {h g : Host} {r : PairingRecord}

theorem Host.HasActivated.file (hr : h.HasActivated r) :
    h.file .active (recordFile r.pairId) = some r.toVec ∨
      h.file .revoked (recordFile r.pairId) = some r.toVec := by
  obtain ⟨life, hlives, hheld⟩ := hr.held
  cases life with
  | absent => cases hheld
  | active a =>
      left
      rw [hlives.active, ← Option.some.inj hheld]
      rfl
  | revoked a =>
      right
      rw [hlives.revoked, ← Option.some.inj hheld]
      rfl

theorem Host.HasActivated.read (hr : h.HasActivated r) :
    PairingRecord.fromBytes r.toVec = .ok r := by
  obtain ⟨life, hlives, hheld⟩ := hr.held
  exact (hlives.held r hheld).2

/-- What lies under a PairID is in one of the two directories only. -/
theorem Host.HasActivated.active_eq (hr : h.HasActivated r) {bytes : Bytes}
    (hfile : h.file .active (recordFile r.pairId) = some bytes) : bytes = r.toVec := by
  obtain ⟨life, hlives, hheld⟩ := hr.held
  rw [hlives.active] at hfile
  cases life with
  | absent => cases hheld
  | revoked a => cases hfile
  | active a =>
      rw [← Option.some.inj hheld]
      exact (Option.some.inj hfile).symm

theorem Host.Committed.hasActivated (hstands : h.Stands) (hr : h.Committed .active r) :
    h.HasActivated r := by
  obtain ⟨life, hlives⟩ := hstands r.pairId hr.pairId
  obtain ⟨bytes, hfile, hread⟩ := hr.stored
  refine ⟨hr.pairId, life, hlives, ?_⟩
  rw [hlives.active] at hfile
  cases life with
  | absent => cases hfile
  | revoked a => cases hfile
  | active a =>
      have hbytes : a.toVec = bytes := Option.some.inj hfile
      rw [← hbytes, (hlives.held a rfl).2] at hread
      rw [← Except.ok.inj hread]
      rfl

theorem Host.empty_stands : Host.empty.Stands :=
  fun pairId _ => ⟨.absent, Host.empty_lives pairId⟩

/-- Each active record of `h` is one that `b` has activated. -/
def Host.BackedBy (h b : Host) : Prop :=
  ∀ pairId bytes, HexId pairId → h.file .active (recordFile pairId) = some bytes →
    ∃ r, r.pairId = pairId ∧ bytes = r.toVec ∧ b.HasActivated r

theorem Host.empty_backedBy (b : Host) : Host.empty.BackedBy b := by
  intro pairId bytes _ hfile
  rw [Host.file_empty] at hfile
  cases hfile

/-- Nothing that `b` has activated is lost in `b'`. -/
structure Host.Outlasts (b' b : Host) : Prop where
  stands : b.Stands → b'.Stands
  hasActivated : ∀ r, b.HasActivated r → b'.HasActivated r

private theorem Host.Outlasts.refl (b : Host) : b.Outlasts b := ⟨id, fun _ => id⟩

private theorem Host.Outlasts.trans {a b c : Host} (h : a.Outlasts b) (h' : b.Outlasts c) :
    a.Outlasts c :=
  ⟨h.stands ∘ h'.stands, fun r hr => h.hasActivated r (h'.hasActivated r hr)⟩

theorem Host.BackedBy.outlast {a b b' : Host} (hbacked : a.BackedBy b) (hb : b'.Outlasts b) :
    a.BackedBy b' := by
  intro pairId bytes hid hfile
  obtain ⟨r, hpair, hbytes, hr⟩ := hbacked pairId bytes hid hfile
  exact ⟨r, hpair, hbytes, hb.hasActivated r hr⟩

/-- The record can only be one that `b` has activated, if it can become active at all. -/
def Host.Acknowledges (b : Host) (r : PairingRecord) : Prop :=
  r.Shaped → r.isComplete = true → b.HasActivated r

theorem Host.Acknowledges.outlast {b b' : Host} (hr : b.Acknowledges r) (hb : b'.Outlasts b) :
    b'.Acknowledges r :=
  fun hshaped hcomplete => hb.hasActivated r (hr hshaped hcomplete)

variable [Crypto] [Noise]

/-- A step of a device at any time, in an operation that activates only records in `P`. -/
def DeviceStep (identity : DeviceIdentity) (P : PairingRecord → Prop) (l : FsStep) (h g : Host) :
    Prop :=
  ∃ store env op, StoreStep store env identity op l h g ∧ ∀ r, op.activates = some r → P r

variable {identity : DeviceIdentity} {P : PairingRecord → Prop} {l : FsStep}

omit [Serde] in
private theorem complete_of_activeGround {store : PairingStore} {op : Op}
    (hground : ActiveGround store identity op r) : r.isComplete = true := by
  cases hground with
  | finalize _ hfits => exact hfits.complete rfl
  | reconcile _ hfits => exact hfits.complete rfl

private theorem DeviceStep.backedBy {b : Host} (hstep : DeviceStep identity b.Acknowledges l h g)
    (hbacked : h.BackedBy b) : g.BackedBy b := by
  obtain ⟨store, env, op, hstore, hop⟩ := hstep
  intro pairId bytes hid hfile
  rcases hstore.active_file hid hfile with hold | hnew
  · exact hbacked pairId bytes hid hold
  · obtain ⟨r, hground, hpair, hbytes, -⟩ := hnew
    exact ⟨r, hpair, hbytes,
      hop r hground.activates hground.shaped (complete_of_activeGround hground)⟩

theorem backedBy_of_path {visited : List (FsStep × Host)} {b : Host}
    (hpath : Path (DeviceStep identity b.Acknowledges) h visited) (hbacked : h.BackedBy b) :
    (endState h visited).BackedBy b ∧ ∀ l g, (l, g) ∈ visited → g.BackedBy b :=
  hpath.invariant (fun _ _ _ hstep ha => hstep.backedBy ha) hbacked

variable [LawfulSerde]

private theorem DeviceStep.outlasts (hstep : DeviceStep identity P l h g) : g.Outlasts h := by
  obtain ⟨store, env, op, hstore, -⟩ := hstep
  constructor
  · intro hstands pairId hid
    obtain ⟨life, hlives⟩ := hstands pairId hid
    obtain ⟨life', hlives', -⟩ := hstore.lives hid hlives
    exact ⟨life', hlives'⟩
  · intro r hr
    obtain ⟨life, hlives, hheld⟩ := hr.held
    obtain ⟨life', hlives', heq | hmove⟩ := hstore.lives hr.pairId hlives
    · exact ⟨hr.pairId, life', hlives', heq ▸ hheld⟩
    · exact ⟨hr.pairId, life', hlives', hmove.next.held? hheld⟩

/-- Wherever it is stopped, a device has lost nothing. -/
theorem outlasts_of_path {visited : List (FsStep × Host)}
    (hpath : Path (DeviceStep identity P) h visited) :
    (endState h visited).Outlasts h ∧ ∀ l g, (l, g) ∈ visited → g.Outlasts h :=
  hpath.invariant (fun _ _ _ hstep ha => hstep.outlasts.trans ha) (.refl h)

end Held

end OmarchySync
