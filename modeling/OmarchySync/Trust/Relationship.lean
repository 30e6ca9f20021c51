import Mathlib.Data.Set.Insert
import OmarchySync.Logic.Search
import OmarchySync.Trust.Lookup
import OmarchySync.Trust.Success

/-!
# The records of one relationship

What a directory holds of two given devices, as a set of records. The writes of the store
change this set as their names say, and the lookups answer from it.
-/

namespace OmarchySync

open Logic Wire Traced

/-- The second host has one file more; the journals may differ. -/
structure Host.Adds (h g : Host) (folder : Folder) (r : PairingRecord) : Prop where
  file : g.file folder (recordFile r.pairId) = some r.toVec
  others : ∀ folder' name, ¬(folder' = folder ∧ name = recordFile r.pairId) →
    g.file folder' name = h.file folder' name

theorem Host.Adds.elsewhere {h g : Host} {folder folder' : Folder} {r : PairingRecord}
    (hadds : h.Adds g folder r) (hne : folder' ≠ folder) (name : FileName) :
    g.file folder' name = h.file folder' name :=
  hadds.others folder' name fun heq => hne heq.1

/-- In a host that had no file the record's is the only one. -/
theorem Host.Adds.pairId_eq {h : Host} {folder folder' : Folder} {r : PairingRecord}
    {pairId : Text} (hadds : Host.empty.Adds h folder r)
    (hfile : h.file folder' (recordFile pairId) ≠ none) : pairId = r.pairId := by
  by_contra hne
  rw [hadds.others folder' _ fun hsame => hne (recordFile_inj hsame.2)] at hfile
  exact hfile (Host.file_empty folder' _)

theorem PairingRecord.binds_comm {r : PairingRecord} {first second : Text} :
    r.binds second first ↔ r.binds first second := by
  unfold PairingRecord.binds
  tauto

section Between

variable [Serde]

/-- The records of two devices in a directory. -/
def Host.between (h : Host) (folder : Folder) (first second : Text) : Set PairingRecord :=
  {r | h.Committed folder r ∧ r.binds first second}

variable {h g : Host} {folder folder' : Folder} {first second : Text} {r : PairingRecord}

theorem Host.between_comm : h.between folder second first = h.between folder first second := by
  ext r
  exact and_congr_right fun _ => PairingRecord.binds_comm

private theorem Host.Committed.congr (hcommitted : h.Committed folder r)
    (hsame : g.file folder (recordFile r.pairId) = h.file folder (recordFile r.pairId)) :
    g.Committed folder r := by
  refine ⟨hcommitted.pairId, ?_⟩
  rw [hsame]
  exact hcommitted.stored

private theorem Host.between_congr (hsame : ∀ name, g.file folder name = h.file folder name) :
    g.between folder first second = h.between folder first second := by
  ext r
  constructor
  · intro hr
    exact ⟨hr.1.congr (hsame _).symm, hr.2⟩
  · intro hr
    exact ⟨hr.1.congr (hsame _), hr.2⟩

theorem Host.Adds.between_elsewhere (hadds : h.Adds g folder r) (hne : folder' ≠ folder) :
    g.between folder' first second = h.between folder' first second :=
  Host.between_congr (hadds.elsewhere hne)

theorem Host.Adds.between (hadds : h.Adds g folder r)
    (hfree : h.file folder (recordFile r.pairId) = none)
    (hread : PairingRecord.fromBytes r.toVec = .ok r) (hid : HexId r.pairId)
    (hbinds : r.binds first second) :
    g.between folder first second = insert r (h.between folder first second) := by
  have hother : ∀ r' : PairingRecord, r'.pairId ≠ r.pairId →
      g.file folder (recordFile r'.pairId) = h.file folder (recordFile r'.pairId) := by
    intro r' hne
    exact hadds.others folder _ fun heq => hne (recordFile_inj heq.2)
  ext r'
  rw [Set.mem_insert_iff]
  constructor
  · intro hr'
    by_cases heq : r'.pairId = r.pairId
    · obtain ⟨bytes, hfile, hread'⟩ := hr'.1.stored
      rw [heq, hadds.file, Option.some.injEq] at hfile
      rw [← hfile, hread] at hread'
      exact .inl (Except.ok.inj hread').symm
    · exact .inr ⟨hr'.1.congr (hother r' heq).symm, hr'.2⟩
  · intro hr'
    rcases hr' with rfl | hr'
    · exact ⟨⟨hid, _, hadds.file, hread⟩, hbinds⟩
    · have hne : r'.pairId ≠ r.pairId := by
        intro heq
        obtain ⟨bytes, hfile, -⟩ := hr'.1.stored
        rw [heq, hfree] at hfile
        cases hfile
      exact ⟨hr'.1.congr (hother r' hne), hr'.2⟩

private theorem Cleaned.between_pending (hcleaned : Cleaned h g r) (hbinds : r.binds first second) :
    g.between .pending first second = ∅ := by
  apply Set.eq_empty_of_forall_notMem
  intro r' hr'
  obtain ⟨bytes, hfile, hread⟩ := hr'.1.stored
  have hsame : r'.binds r.initiatorDeviceId r.responderDeviceId := by
    have hbinds' := hr'.2
    unfold PairingRecord.binds at *
    rcases hbinds with ⟨rfl, rfl⟩ | ⟨rfl, rfl⟩ <;> tauto
  by_cases hstale : Stale h r (recordFile r'.pairId)
  · rw [hcleaned.removed _ hstale] at hfile
    cases hfile
  · have hkept := hcleaned.kept _ hstale
    rw [hfile] at hkept
    exact hstale ⟨bytes, r', hkept.symm, hread, hsame⟩

variable {valid : PairingRecord → Result Unit}

theorem Host.Holds.congr (hholds : h.Holds folder valid)
    (hsame : ∀ name, g.file folder name = h.file folder name) : g.Holds folder valid := by
  intro name bytes hfile
  rw [hsame] at hfile
  exact hholds name bytes hfile

theorem Host.Holds.add (hholds : h.Holds folder valid) (hadds : h.Adds g folder r)
    (hread : PairingRecord.fromBytes r.toVec = .ok r) (hid : HexId r.pairId)
    (hvalid : valid r = .ok ()) : g.Holds folder valid := by
  intro name bytes hfile
  by_cases hname : name = recordFile r.pairId
  · rw [hname, hadds.file, Option.some.injEq] at hfile
    subst hfile
    exact ⟨r, hid, hname, hread, hvalid⟩
  · rw [hadds.others folder name fun heq => hname heq.2] at hfile
    exact hholds name bytes hfile

private theorem Host.Holds.clean (hholds : h.Holds .pending valid) (hcleaned : Cleaned h g r) :
    g.Holds .pending valid := by
  intro name bytes hfile
  by_cases hstale : Stale h r name
  · rw [hcleaned.removed _ hstale] at hfile
    cases hfile
  · rw [hcleaned.kept _ hstale] at hfile
    exact hholds name bytes hfile

private theorem Host.Holds.readable (hholds : h.Holds .pending valid) : PendingReadable h := by
  intro name bytes hfile
  obtain ⟨r, -, -, hread, -⟩ := hholds name bytes hfile
  exact ⟨r, hread⟩

/-- Only record files: the name of a temporary file is free. -/
theorem Host.Holds.temporary (hholds : h.Holds folder valid) (name : FileName) (stamp : Stamp) :
    h.file folder (temporaryName name stamp) = none := by
  cases hfile : h.file folder (temporaryName name stamp) with
  | none => rfl
  | some bytes =>
      obtain ⟨r, hid, hname, -⟩ := hholds _ bytes hfile
      exact absurd hname (temporaryName_ne_recordFile _ _ hid)

/-- The order lists the file of the record before those of the others of the two devices. -/
def ReadDir.Leads (order : ReadDir) (h : Host) (first second : Text) (r : PairingRecord) : Prop :=
  ∃ before after, order.enumerate (h.trust .pending) = before ++ recordFile r.pairId :: after ∧
    ∀ r' ∈ h.between .pending first second, recordFile r'.pairId ∉ before

/-- A file leads in every order if there is no other of the two devices. -/
theorem ReadDir.leads_of_pairIds (order : ReadDir)
    (hfile : (h.file .pending (recordFile r.pairId)).isSome = true)
    (honly : ∀ r' ∈ h.between .pending first second, r'.pairId = r.pairId) :
    order.Leads h first second r := by
  have hname := (order.mem_enumerate h .pending (recordFile r.pairId)).mpr hfile
  have hnodup : (order.enumerate (h.trust .pending)).Nodup :=
    (order.perm _).nodup_iff.mpr (h.trust .pending).keys_nodup
  obtain ⟨before, after, hlist⟩ := List.append_of_mem hname
  refine ⟨before, after, hlist, ?_⟩
  intro r' hr' hbefore
  rw [honly r' hr'] at hbefore
  rw [hlist] at hnodup
  exact (List.nodup_append.mp hnodup).2.2 _ hbefore _ List.mem_cons_self rfl

end Between

section Store

variable [Crypto] [Serde] {store : PairingStore} {h g : Host} {first second : Text}
  {r : PairingRecord} {env : Env} {order : ReadDir}

/-- The record is the only one of the two devices, and it is active. -/
structure Host.Settled (h : Host) (store : PairingStore) (first second : Text)
    (r : PairingRecord) : Prop where
  kept : h.WellKept store
  active : h.between .active first second = {r}
  pending : h.between .pending first second = ∅

theorem Cleaned.settled (hcleaned : Cleaned h g r) (hkept : h.WellKept store)
    (hactive : h.between .active first second = {r}) (hbinds : r.binds first second) :
    g.Settled store first second r := by
  have hsame := hcleaned.others .active
  simp only [ne_eq, reduceCtorEq, not_false_eq_true, forall_const] at hsame
  constructor
  · exact ⟨hkept.active.congr hsame, hkept.pending.clean hcleaned⟩
  · rw [Host.between_congr hsame, hactive]
  · exact hcleaned.between_pending hbinds

/-- A record that may be activated, or is already, ends up as the only one. -/
theorem persistActive_settles (hkept : h.WellKept store) (hid : HexId r.pairId)
    (hsize : r.toVec.length ≤ maxRecordBytes) (hread : PairingRecord.fromBytes r.toVec = .ok r)
    (hvalid : store.validateStored r = .ok ()) (hbinds : r.binds first second)
    (hrevoked : h.file .revoked (recordFile r.pairId) = none)
    (hslot : h.file .active (recordFile r.pairId) = none ∧ h.between .active first second = ∅ ∨
      h.between .active first second = {r}) :
    Keeps AnyStep (persistActive env r) (fun result g => result = .ok () ∧
      g.Settled store first second r ∧ ∀ name, g.file .revoked name = h.file .revoked name) h := by
  rcases hslot with ⟨hfree, hnone⟩ | hactive
  · apply (persistActive_activates hid hrevoked hfree (hkept.active.temporary _ _) hsize
      hkept.pending.readable).post
    rintro result g ⟨hok, mid, hreplaces, hcleaned⟩
    have hadds : h.Adds mid .active r := ⟨hreplaces.file, hreplaces.others⟩
    have hmid : mid.WellKept store := by
      constructor
      · exact hkept.active.add hadds hread hid hvalid
      · exact hkept.pending.congr (hadds.elsewhere (by decide))
    have hset : mid.between .active first second = {r} := by
      rw [hadds.between hfree hread hid hbinds, hnone, insert_empty_eq]
    refine ⟨hok, hcleaned.settled hmid hset hbinds, ?_⟩
    intro name
    rw [hcleaned.others .revoked name (by decide), hadds.elsewhere (by decide)]
  · have hmem : r ∈ h.between .active first second := by
      rw [hactive]
      exact Set.mem_singleton r
    obtain ⟨bytes, hfile, hread'⟩ := hmem.1.stored
    apply (persistActive_present hid hrevoked hfile hread' hkept.pending.readable).post
    rintro result g ⟨hok, hcleaned⟩
    exact ⟨hok, hcleaned.settled hkept hactive hbinds,
      fun name => hcleaned.others .revoked name (by decide)⟩

section Lookups

variable (hkept : h.WellKept store) (order : ReadDir) (hfirst : HexId first)
  (hsecond : HexId second)

include hkept hfirst hsecond

theorem activePairForPeerAt_none (hnone : h.between .active first second = ∅) :
    store.activePairForPeerAt order h first second = .ok none := by
  obtain ⟨found, hfound, hsome, -⟩ :=
    (hkept.answers order).activePairForPeerAt first second hfirst hsecond
  cases found with
  | none => exact hfound
  | some pairId =>
      obtain ⟨r, hcommitted, hbinds, -⟩ := hsome pairId rfl
      have hmem : r ∈ h.between .active first second := ⟨hcommitted, hbinds⟩
      rw [hnone] at hmem
      exact absurd hmem (Set.notMem_empty r)

theorem activePairForPeerAt_some (hactive : h.between .active first second = {r}) :
    store.activePairForPeerAt order h first second = .ok (some r.pairId) := by
  obtain ⟨found, hfound, hsome, hnone⟩ :=
    (hkept.answers order).activePairForPeerAt first second hfirst hsecond
  have hmem : r ∈ h.between .active first second := by
    rw [hactive]
    exact Set.mem_singleton r
  cases found with
  | none => exact absurd hmem.2 (hnone rfl r hmem.1)
  | some pairId =>
      obtain ⟨r', hcommitted, hbinds, rfl⟩ := hsome pairId rfl
      have heq : r' ∈ ({r} : Set PairingRecord) := hactive ▸ ⟨hcommitted, hbinds⟩
      rw [hfound, Set.mem_singleton_iff.mp heq]

theorem pendingForPeer_none (hnone : h.between .pending first second = ∅) :
    store.pendingForPeer order h first second = .ok none := by
  obtain ⟨found, hfound, hsome, -⟩ :=
    (hkept.answers order).pendingForPeer first second hfirst hsecond
  cases found with
  | none => exact hfound
  | some r =>
      have hmem : r ∈ h.between .pending first second := hsome r rfl
      rw [hnone] at hmem
      exact absurd hmem (Set.notMem_empty r)

/-- A scan of the pending directory comes up with one of the records, whatever the order. -/
theorem pendingForPeer_some (hmem : r ∈ h.between .pending first second) :
    ∃ r' ∈ h.between .pending first second,
      store.pendingForPeer order h first second = .ok (some r') := by
  obtain ⟨found, hfound, hsome, hnone⟩ :=
    (hkept.answers order).pendingForPeer first second hfirst hsecond
  cases found with
  | none => exact absurd hmem.2 (hnone rfl r hmem.1)
  | some r' => exact ⟨r', hsome r' rfl, hfound⟩

theorem pendingForPeer_of_leads (hmem : r ∈ h.between .pending first second)
    (hleads : order.Leads h first second r) :
    store.pendingForPeer order h first second = .ok (some r) := by
  obtain ⟨before, after, hlist, hbefore⟩ := hleads
  have hround : ∀ r', h.Committed .pending r' →
      store.matchPending h first second (recordFile r'.pairId) = .ok (r'.matching first second) := by
    intro r' hcommitted
    have hread := hcommitted.readRecord
    have hvalid := hkept.pending.valid hcommitted
    simp only [PairingStore.matchPending, hread, hvalid, ok_bind, pure_result,
      PairingRecord.matching]
  have hmiss : ∀ name ∈ before, store.matchPending h first second name = .ok none := by
    intro name hname
    have hlisted : name ∈ order.enumerate (h.trust .pending) := by
      rw [hlist]
      exact List.mem_append_left _ hname
    obtain ⟨bytes, hfile⟩ :=
      Option.isSome_iff_exists.mp ((order.mem_enumerate h .pending name).mp hlisted)
    obtain ⟨r', hid, rfl, hread, -⟩ := hkept.pending name bytes hfile
    have hcommitted : h.Committed .pending r' := ⟨hid, bytes, hfile, hread⟩
    rw [hround r' hcommitted, PairingRecord.matching, if_neg]
    intro hbinds
    exact hbefore r' ⟨hcommitted, hbinds⟩ hname
  have hhit := hround r hmem.1
  rw [PairingRecord.matching, if_pos hmem.2] at hhit
  rw [PairingStore.pendingForPeer, validateDeviceId_ok hfirst, validateDeviceId_ok hsecond,
    ok_bind, ok_bind, hlist, search_append hmiss, search_first, hhit]
  rw [hhit]
  simp

end Lookups

end Store

end OmarchySync
