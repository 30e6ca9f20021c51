import OmarchySync.Trust.Steps

/-!
# When the store operations succeed

The conditions under which the writing operations return without an error, and the exact
files they leave behind.
-/

namespace OmarchySync

open Logic Wire Traced

/-- Any step is allowed: only the result and the last state are of interest. -/
abbrev AnyStep : FsStep → Host → Host → Prop := fun _ _ _ => True

theorem keeps_anyStep {α : Type} {m : StoreM α} {Q : Result α → Host → Prop} {h : Host} :
    Keeps AnyStep m Q h ↔ Q (m h).result (endState h (m h).visited) := by
  have hpath : ∀ (g : Host) (v : List (FsStep × Host)), Path AnyStep g v := by
    intro g v
    induction v generalizing g with
    | nil => trivial
    | cons p v ih => exact ⟨trivial, ih p.2⟩
  exact ⟨fun hk => hk.2, fun hq => ⟨hpath _ _, hq⟩⟩

/-- The hosts differ exactly in one file, which has the given contents in the second. -/
structure Host.Replaces (h g : Host) (folder : Folder) (name : FileName)
    (content : Option Bytes) : Prop where
  journal : g.journal = h.journal
  file : g.file folder name = content
  others : ∀ folder' name', ¬(folder' = folder ∧ name' = name) →
    g.file folder' name' = h.file folder' name'

private theorem writeAtomic_succeeds {h : Host} {stamp : Stamp} {folder : Folder} {name : FileName}
    {bytes : Bytes} (hne : temporaryName name stamp ≠ name)
    (htemp : h.file folder (temporaryName name stamp) = none)
    (hfree : h.file folder name = none) :
    Keeps AnyStep (writeAtomic stamp folder name bytes)
      (fun r g => r = .ok () ∧ h.Replaces g folder name (some bytes)) h := by
  have hstaged : ∀ c, ((h.put folder (temporaryName name stamp) []).put folder
      (temporaryName name stamp) c).file folder (temporaryName name stamp) = some c :=
    fun c => by rw [Host.file_put, if_pos ⟨rfl, rfl⟩]
  have hname : ∀ c, ((h.put folder (temporaryName name stamp) []).put folder
      (temporaryName name stamp) c).file folder name = none := by
    intro c
    rw [Host.file_put, if_neg (by simp [hne.symm]), Host.file_put, if_neg (by simp [hne.symm]),
      hfree]
  simp only [writeAtomic, keeps_onFailure, keeps_read_bind, keeps_step_bind, keeps_step,
    keeps_lift_bind, htemp, hname, bailIf_false, Option.isSome_none, Bool.false_eq_true,
    forall_const, reduceCtorEq, false_implies, and_true, true_and]
  rw [Host.rename_of_file (hstaged bytes)]
  refine ⟨rfl, by rw [Host.file_put, if_pos ⟨rfl, rfl⟩], ?_⟩
  intro f n hdiff
  rw [Host.file_put, if_neg hdiff, Host.file_drop]
  split
  next htmp => rw [htmp.1, htmp.2, htemp]
  next htmp =>
    rw [Host.file_put, if_neg htmp, Host.file_put, if_neg htmp]

section Records

variable [Serde]

/-- The pending file holds a record of the two devices `active` binds. -/
def Stale (h : Host) (active : PairingRecord) (name : FileName) : Prop :=
  ∃ bytes pending, h.file .pending name = some bytes ∧
    PairingRecord.fromBytes bytes = .ok pending ∧
    pending.binds active.initiatorDeviceId active.responderDeviceId

/-- Every pending file can be read. -/
def PendingReadable (h : Host) : Prop :=
  ∀ name bytes, h.file .pending name = some bytes → ∃ r, PairingRecord.fromBytes bytes = .ok r

/-- The pending records of the bound devices are gone and nothing else changed. -/
structure Cleaned (h g : Host) (active : PairingRecord) : Prop where
  journal : g.journal = h.journal
  others : ∀ folder name, folder ≠ .pending → g.file folder name = h.file folder name
  removed : ∀ name, Stale h active name → g.file .pending name = none
  kept : ∀ name, ¬Stale h active name → g.file .pending name = h.file .pending name

private theorem removeStaleEntry_stale {h g : Host} {active : PairingRecord} {name : FileName}
    (hsame : g.file .pending name = h.file .pending name) (hstale : Stale h active name) :
    Keeps AnyStep (removeStaleEntry active name)
      (fun r t => r = .ok () ∧ t = g.drop .pending name) g := by
  obtain ⟨bytes, pending, hfile, hpending, hbinds⟩ := hstale
  have hfound : readRecord g .pending name = .ok (some pending) :=
    (readRecord_eq_ok g .pending name pending).mpr ⟨bytes, hsame.trans hfile, hpending⟩
  simp only [removeStaleEntry, keeps_read_bind, keeps_lift_bind, hfound, Except.ok.injEq,
    forall_eq', hbinds, if_true, keeps_step, AnyStep, reduceCtorEq, false_implies, implies_true,
    and_self]

private theorem removeStaleEntry_kept {h g : Host} {active : PairingRecord} {name : FileName}
    (hsame : g.file .pending name = h.file .pending name) (hread : PendingReadable h)
    (hkept : ¬Stale h active name) :
    Keeps AnyStep (removeStaleEntry active name) (fun r t => r = .ok () ∧ t = g) g := by
  cases hfile : h.file .pending name with
  | none =>
      have hfound : readRecord g .pending name = .ok none :=
        (readRecord_eq_none g .pending name).mpr (hsame.trans hfile)
      simp only [removeStaleEntry, keeps_read_bind, keeps_lift_bind, hfound, Except.ok.injEq,
        forall_eq', keeps_pure, reduceCtorEq, false_implies, implies_true, and_self]
  | some bytes =>
      obtain ⟨pending, hpending⟩ := hread name bytes hfile
      have hfound : readRecord g .pending name = .ok (some pending) :=
        (readRecord_eq_ok g .pending name pending).mpr ⟨bytes, hsame.trans hfile, hpending⟩
      have hbinds : ¬pending.binds active.initiatorDeviceId active.responderDeviceId :=
        fun hbinds => hkept ⟨bytes, pending, hfile, hpending, hbinds⟩
      simp only [removeStaleEntry, keeps_read_bind, keeps_lift_bind, hfound, Except.ok.injEq,
        forall_eq', hbinds, if_false, keeps_pure, reduceCtorEq, false_implies, implies_true,
        and_self]

/-- The loop's assertion: entries outside `rest` are done, entries in it are untouched. -/
private structure Visited (h : Host) (active : PairingRecord) (rest : List FileName)
    (g : Host) : Prop where
  journal : g.journal = h.journal
  others : ∀ folder name, folder ≠ .pending → g.file folder name = h.file folder name
  untouched : ∀ name ∈ rest, g.file .pending name = h.file .pending name
  removed : ∀ name, name ∉ rest → Stale h active name → g.file .pending name = none
  kept : ∀ name, ¬Stale h active name → g.file .pending name = h.file .pending name

private theorem Visited.round {h g : Host} {active : PairingRecord} {name : FileName}
    {rest : List FileName} (hread : PendingReadable h) (hfresh : name ∉ rest)
    (hg : Visited h active (name :: rest) g) :
    Keeps AnyStep (removeStaleEntry active name)
      (fun r t => r = .ok () ∧ Visited h active rest t) g := by
  have hsame : g.file .pending name = h.file .pending name := hg.untouched name (by simp)
  by_cases hstale : Stale h active name
  · refine (removeStaleEntry_stale hsame hstale).post ?_
    intro r t ht
    obtain ⟨rfl, rfl⟩ := ht
    refine ⟨rfl, hg.journal, ?_, ?_, ?_, ?_⟩
    · intro folder n hne
      rw [Host.file_drop, if_neg (by simp [hne])]
      exact hg.others folder n hne
    · intro n hn
      have hdiff : n ≠ name := fun heq => hfresh (heq ▸ hn)
      rw [Host.file_drop, if_neg (by simp [hdiff])]
      exact hg.untouched n (by simp [hn])
    · intro n hn hs
      rw [Host.file_drop]
      split
      next => rfl
      next hdiff => exact hg.removed n (by simp_all) hs
    · intro n hs
      have hdiff : n ≠ name := fun heq => hs (heq ▸ hstale)
      rw [Host.file_drop, if_neg (by simp [hdiff])]
      exact hg.kept n hs
  · refine (removeStaleEntry_kept hsame hread hstale).post ?_
    intro r t ht
    obtain ⟨rfl, rfl⟩ := ht
    refine ⟨rfl, hg.journal, hg.others, fun n hn => hg.untouched n (by simp [hn]), ?_, hg.kept⟩
    intro n hn hs
    have hdiff : n ≠ name := fun heq => hstale (heq ▸ hs)
    exact hg.removed n (by simp [hdiff, hn]) hs

private theorem removeStalePending_succeeds {h : Host} (env : Env) (active : PairingRecord)
    (hread : PendingReadable h) :
    Keeps AnyStep (removeStalePending env active)
      (fun r g => r = .ok () ∧ Cleaned h g active) h := by
  have hnodup : (env.order.enumerate (h.trust .pending)).Nodup :=
    ((env.order.perm _).nodup_iff).mpr (AList.keys_nodup _)
  have hstart : Visited h active (env.order.enumerate (h.trust .pending)) h := by
    refine ⟨rfl, fun _ _ _ => rfl, fun _ _ => rfl, ?_, fun _ _ => rfl⟩
    intro name hnot hs
    obtain ⟨bytes, _, hfile, _⟩ := hs
    exact absurd ((env.order.mem_enumerate h .pending name).mpr (by rw [hfile]; rfl)) hnot
  simp only [removeStalePending, keeps_read_bind]
  refine (keeps_forEach_rest _ ?_ hstart).post ?_
  · intro name rest g hsuffix hg
    have htail := hnodup.sublist hsuffix.sublist
    exact hg.round hread (List.nodup_cons.mp htail).1
  · intro r g hg
    exact ⟨hg.1, hg.2.journal, hg.2.others, fun name => hg.2.removed name (by simp), hg.2.kept⟩

private theorem removeStalePending_readable {h : Host} (env : Env) (active : PairingRecord) :
    Keeps AnyStep (removeStalePending env active)
      (fun r _ => r = .ok () → PendingReadable h) h := by
  -- every name off the list was either never there or has been read
  let Read (rest : List FileName) (g : Host) : Prop :=
    (∀ name ∈ rest, g.file .pending name = h.file .pending name) ∧
      ∀ name bytes, name ∉ rest → h.file .pending name = some bytes →
        ∃ r, PairingRecord.fromBytes bytes = .ok r
  have hnodup : (env.order.enumerate (h.trust .pending)).Nodup :=
    ((env.order.perm _).nodup_iff).mpr (AList.keys_nodup _)
  have hstart : Read (env.order.enumerate (h.trust .pending)) h := by
    refine ⟨fun _ _ => rfl, ?_⟩
    intro name bytes hnot hfile
    exact absurd ((env.order.mem_enumerate h .pending name).mpr (by rw [hfile]; rfl)) hnot
  simp only [removeStalePending, keeps_read_bind]
  refine (keeps_forEach_upTo (I := Read) _ ?_ hstart).post ?_
  · intro name rest g hsuffix hg
    have hfresh : name ∉ rest := (List.nodup_cons.mp (hnodup.sublist hsuffix.sublist)).1
    have hsame : g.file .pending name = h.file .pending name := hg.1 name (by simp)
    have hdone : ∀ found, readRecord g .pending name = .ok found → ∀ n bytes, n ∉ rest →
        h.file .pending n = some bytes → ∃ r, PairingRecord.fromBytes bytes = .ok r := by
      intro found hfound n bytes hn hfile
      by_cases heq : n = name
      · subst heq
        cases found with
        | none => rw [readRecord_eq_none, hsame, hfile] at hfound; cases hfound
        | some r =>
            obtain ⟨bytes', hfile', hread⟩ := (readRecord_eq_ok g .pending n r).mp hfound
            rw [hsame, hfile] at hfile'
            cases hfile'
            exact ⟨r, hread⟩
      · exact hg.2 n bytes (by simp [heq, hn]) hfile
    simp only [removeStaleEntry, keeps_read_bind, keeps_lift_bind]
    refine ⟨?_, fun e _ h => by cases h⟩
    intro found hfound
    cases found with
    | none => exact (keeps_pure _).mpr fun _ => ⟨fun n hn => hg.1 n (by simp [hn]), hdone _ hfound⟩
    | some pending =>
        simp only [keeps_ite, keeps_step, keeps_pure]
        refine ⟨fun _ => ⟨trivial, fun _ => ⟨?_, hdone _ hfound⟩⟩,
          fun _ _ => ⟨fun n hn => hg.1 n (by simp [hn]), hdone _ hfound⟩⟩
        intro n hn
        have hdiff : n ≠ name := fun heq => hfresh (heq ▸ hn)
        rw [Host.file_drop, if_neg (by simp [hdiff])]
        exact hg.1 n (by simp [hn])
  · intro r g hg hr name bytes hfile
    exact (hg hr).2 name bytes (by simp) hfile

/-- When `writePending` stores its record or finds it stored. -/
structure PendingStorable (env : Env) (h : Host) (record : PairingRecord) : Prop where
  pairId : HexId record.pairId
  slot : (h.file .pending (recordFile record.pairId) = none ∧
      h.file .pending (temporaryName (recordFile record.pairId) env.stamp) = none ∧
      record.toVec.length ≤ maxRecordBytes) ∨
    ∃ bytes old, h.file .pending (recordFile record.pairId) = some bytes ∧
      PairingRecord.fromBytes bytes = .ok old ∧ ensureSameBinding old record = .ok () ∧
      old.isComplete = true

/-- When `persistActive` activates its record or finds it active. -/
structure ActiveStorable (env : Env) (h : Host) (record : PairingRecord) : Prop where
  pairId : HexId record.pairId
  revoked : h.file .revoked (recordFile record.pairId) = none
  readable : PendingReadable h
  slot : (h.file .active (recordFile record.pairId) = none ∧
      h.file .active (temporaryName (recordFile record.pairId) env.stamp) = none ∧
      record.toVec.length ≤ maxRecordBytes) ∨
    ∃ bytes, h.file .active (recordFile record.pairId) = some bytes ∧
      PairingRecord.fromBytes bytes = .ok record

omit [Serde] in
private theorem writeAtomic_fails {h : Host} (stamp : Stamp) (folder : Folder) (name : FileName)
    (bytes : Bytes) :
    Keeps AnyStep (writeAtomic stamp folder name bytes)
      (fun r _ => r = .ok () → h.file folder name = none ∧
        h.file folder (temporaryName name stamp) = none) h := by
  have hclean : ∀ (e : String) (g : Host), Keeps AnyStep
      (removeTemporary folder (temporaryName name stamp))
      (fun _ _ => (Except.error e : Result Unit) = .ok () → h.file folder name = none ∧
        h.file folder (temporaryName name stamp) = none) g := by
    intro e g
    exact keeps_removeTemporary _ _ (fun _ => ⟨trivial, fun h => nomatch h⟩) fun _ h => nomatch h
  simp only [writeAtomic, keeps_onFailure, keeps_read_bind, keeps_lift_bind, keeps_step_bind,
    keeps_step, bailIf_eq_ok, Bool.not_eq_true, Option.isSome_eq_false_iff,
    Option.isNone_iff_eq_none]
  refine ⟨fun _ htemp => ⟨trivial, trivial, ?_, fun e _ => hclean e _⟩, fun e _ => hclean e _⟩
  intro _ hname
  refine ⟨trivial, fun _ => ⟨?_, htemp⟩⟩
  by_cases heq : name = temporaryName name stamp
  · rw [heq]
    exact htemp
  · simpa [Host.file_put, heq] using hname

theorem writePending_stores {h : Host} {env : Env} {record : PairingRecord}
    (hid : HexId record.pairId) (hfree : h.file .pending (recordFile record.pairId) = none)
    (htemp : h.file .pending (temporaryName (recordFile record.pairId) env.stamp) = none)
    (hsize : record.toVec.length ≤ maxRecordBytes) :
    Keeps AnyStep (writePending env record) (fun r g => r = .ok () ∧
      h.Replaces g .pending (recordFile record.pairId) (some record.toVec)) h := by
  have hpath : recordPath record.pairId = .ok (recordFile record.pairId) :=
    (recordPath_eq_ok _ _).mpr ⟨hid, rfl⟩
  have hbytes : record.toBytes = .ok record.toVec :=
    (PairingRecord.toBytes_eq_ok _ _).mpr ⟨hsize, rfl⟩
  simp only [writePending, keeps_lift_bind, keeps_read_bind, keeps_ite, hpath, hbytes, hfree,
    Except.ok.injEq, forall_eq', Option.isSome_none, Bool.false_eq_true, false_implies,
    not_false_eq_true, true_implies, reduceCtorEq, implies_true, and_true, true_and]
  exact writeAtomic_succeeds (temporaryName_ne_recordFile _ _ hid) htemp hfree

/-- A complete pending record of the same attempt is left as it is. -/
theorem writePending_present {h : Host} {env : Env} {record old : PairingRecord} {bytes : Bytes}
    (hid : HexId record.pairId) (hfile : h.file .pending (recordFile record.pairId) = some bytes)
    (hread : PairingRecord.fromBytes bytes = .ok old)
    (hbinding : ensureSameBinding old record = .ok ()) (hcomplete : old.isComplete = true) :
    Keeps AnyStep (writePending env record) (fun r g => r = .ok () ∧ g = h) h := by
  have hpath : recordPath record.pairId = .ok (recordFile record.pairId) :=
    (recordPath_eq_ok _ _).mpr ⟨hid, rfl⟩
  have hfound : readRecord h .pending (recordFile record.pairId) = .ok (some old) :=
    (readRecord_eq_ok _ _ _ _).mpr ⟨bytes, hfile, hread⟩
  simp only [writePending, keeps_lift_bind, keeps_read_bind, keeps_ite, keeps_pure, hpath,
    hfound, hbinding, hfile, hcomplete, someOr, Except.ok.injEq, forall_eq',
    Option.isSome_some, not_true_eq_false, false_implies, reduceCtorEq, implies_true,
    and_true]

theorem writePending_eq_ok (h : Host) (env : Env) (record : PairingRecord) :
    (writePending env record h).result = .ok () ↔ PendingStorable env h record := by
  constructor
  · have hkeeps : Keeps AnyStep (writePending env record)
        (fun r _ => r = .ok () → PendingStorable env h record) h := by
      simp only [writePending, keeps_lift_bind, keeps_read_bind, keeps_ite, keeps_pure,
        recordPath_eq_ok, someOr_eq_ok, PairingRecord.toBytes_eq_ok, reduceCtorEq,
        false_implies, implies_true, and_true, forall_true_left]
      intro path hpath
      obtain ⟨hid, rfl⟩ := hpath
      refine ⟨?_, ?_⟩
      · intro hsome found hfound old hold _ hbinding
        subst hold
        obtain ⟨bytes, hfile, hread⟩ := (readRecord_eq_ok h .pending _ old).mp hfound
        refine ⟨fun hcomplete => ⟨hid, .inr ⟨bytes, old, hfile, hread, hbinding, hcomplete⟩⟩, ?_⟩
        intro _ out _
        refine (writeAtomic_fails env.stamp .pending _ out).post ?_
        intro r g hr hok
        rw [(hr hok).1] at hsome
        cases hsome
      · intro _ out hout
        obtain ⟨hsize, rfl⟩ := hout
        refine (writeAtomic_fails env.stamp .pending _ _).post ?_
        intro r g hr hok
        exact ⟨hid, .inl ⟨(hr hok).1, (hr hok).2, hsize⟩⟩
    exact hkeeps.2
  · intro hs
    rcases hs.slot with ⟨hfree, htemp, hsize⟩ | ⟨bytes, old, hfile, hread, hbinding, hcomplete⟩
    · exact (writePending_stores hs.pairId hfree htemp hsize).2.1
    · exact (writePending_present hs.pairId hfile hread hbinding hcomplete).2.1

/-- The record is active under its name and stale pending records are gone. -/
def Activated (h g : Host) (record : PairingRecord) : Prop :=
  ∃ mid : Host, h.Replaces mid .active (recordFile record.pairId) (some record.toVec) ∧
    Cleaned mid g record

theorem persistActive_activates {h : Host} {env : Env} {record : PairingRecord}
    (hid : HexId record.pairId) (hrevoked : h.file .revoked (recordFile record.pairId) = none)
    (hfree : h.file .active (recordFile record.pairId) = none)
    (htemp : h.file .active (temporaryName (recordFile record.pairId) env.stamp) = none)
    (hsize : record.toVec.length ≤ maxRecordBytes) (hread : PendingReadable h) :
    Keeps AnyStep (persistActive env record) (fun r g => r = .ok () ∧ Activated h g record) h := by
  have hpath : recordPath record.pairId = .ok (recordFile record.pairId) :=
    (recordPath_eq_ok _ _).mpr ⟨hid, rfl⟩
  have hbytes : record.toBytes = .ok record.toVec :=
    (PairingRecord.toBytes_eq_ok _ _).mpr ⟨hsize, rfl⟩
  simp only [persistActive, keeps_lift_bind, keeps_read_bind, keeps_ite, hpath, hbytes, hfree,
    hrevoked, bailIf_false, Except.ok.injEq, forall_eq', forall_const, Option.isSome_none,
    Bool.false_eq_true, false_implies, not_false_eq_true, reduceCtorEq, and_true, true_and]
  rw [keeps_bind]
  refine (writeAtomic_succeeds (temporaryName_ne_recordFile _ _ hid) htemp hfree).post ?_
  intro r mid hmid
  obtain ⟨rfl, hreplaces⟩ := hmid
  have hread' : PendingReadable mid := by
    intro name bytes hfile
    rw [hreplaces.others .pending name (by simp)] at hfile
    exact hread name bytes hfile
  exact (removeStalePending_succeeds env record hread').post fun r g hg => ⟨hg.1, mid, hreplaces, hg.2⟩

theorem persistActive_present {h : Host} {env : Env} {record : PairingRecord} {bytes : Bytes}
    (hid : HexId record.pairId) (hrevoked : h.file .revoked (recordFile record.pairId) = none)
    (hfile : h.file .active (recordFile record.pairId) = some bytes)
    (hbytes : PairingRecord.fromBytes bytes = .ok record) (hread : PendingReadable h) :
    Keeps AnyStep (persistActive env record) (fun r g => r = .ok () ∧ Cleaned h g record) h := by
  have hpath : recordPath record.pairId = .ok (recordFile record.pairId) :=
    (recordPath_eq_ok _ _).mpr ⟨hid, rfl⟩
  have hfound : readRecord h .active (recordFile record.pairId) = .ok (some record) :=
    (readRecord_eq_ok _ _ _ _).mpr ⟨bytes, hfile, hbytes⟩
  simp only [persistActive, keeps_lift_bind, keeps_read_bind, keeps_ite, hpath, hfound, hfile,
    hrevoked, bailIf_false, someOr, ne_eq, Except.ok.injEq, forall_eq', forall_const,
    Option.isSome_some, Option.isSome_none, Bool.false_eq_true, not_true_eq_false, false_implies,
    reduceCtorEq, and_true]
  exact removeStalePending_succeeds env record hread

theorem persistActive_eq_ok (h : Host) (env : Env) (record : PairingRecord) :
    (persistActive env record h).result = .ok () ↔ ActiveStorable env h record := by
  constructor
  · have hkeeps : Keeps AnyStep (persistActive env record)
        (fun r _ => r = .ok () → ActiveStorable env h record) h := by
      simp only [persistActive, keeps_lift_bind, keeps_read_bind, keeps_ite, recordPath_eq_ok,
        someOr_eq_ok, bailIf_eq_ok, PairingRecord.toBytes_eq_ok, reduceCtorEq, false_implies,
        implies_true, and_true, ne_eq, not_not, Bool.not_eq_true, Option.isSome_eq_false_iff,
        Option.isNone_iff_eq_none]
      intro path hpath _ hrevoked
      obtain ⟨hid, rfl⟩ := hpath
      refine ⟨?_, ?_⟩
      · intro _ found hfound existing hexisting _ heq
        subst hexisting heq
        obtain ⟨bytes, hfile, hread⟩ := (readRecord_eq_ok h .active _ existing).mp hfound
        refine (removeStalePending_readable env existing).post ?_
        intro r g hr hok
        exact ⟨hid, hrevoked, hr hok, .inr ⟨bytes, hfile, hread⟩⟩
      · intro _ out hout
        obtain ⟨hsize, rfl⟩ := hout
        -- the write leaves the pending directory alone, so its readability is that of `h`
        have hwrite : Keeps AnyStep
            (writeAtomic env.stamp .active (recordFile record.pairId) record.toVec)
            (fun r mid => r = .ok () → (h.file .active (recordFile record.pairId) = none ∧
              h.file .active (temporaryName (recordFile record.pairId) env.stamp) = none) ∧
              ∀ name, mid.file .pending name = h.file .pending name) h := by
          refine ⟨(writeAtomic_fails ..).1, fun hok => ?_⟩
          have hfree := (writeAtomic_fails env.stamp .active (recordFile record.pairId)
            record.toVec).2 hok
          refine ⟨hfree, fun name => ?_⟩
          exact (writeAtomic_succeeds (temporaryName_ne_recordFile _ _ hid) hfree.2
            hfree.1).2.2.others .pending name (by simp)
        rw [keeps_bind]
        refine hwrite.post ?_
        intro r mid hmid
        cases r with
        | error e => exact fun h => nomatch h
        | ok u =>
            obtain ⟨hfree, hpending⟩ := hmid rfl
            refine (removeStalePending_readable env record).post ?_
            intro r g hr hok
            refine ⟨hid, hrevoked, ?_, .inl ⟨hfree.1, hfree.2, hsize⟩⟩
            intro name bytes hfile
            exact hr hok name bytes ((hpending name).trans hfile)
    exact hkeeps.2
  · intro hs
    rcases hs.slot with ⟨hfree, htemp, hsize⟩ | ⟨bytes, hfile, hread⟩
    · exact (persistActive_activates hs.pairId hs.revoked hfree htemp hsize hs.readable).2.1
    · exact (persistActive_present hs.pairId hs.revoked hfile hread hs.readable).2.1

theorem writePending_binds [LawfulSerde] {h : Host} (env : Env) {record : PairingRecord}
    (hshaped : record.Shaped) :
    Keeps AnyStep (writePending env record) (fun r g => r = .ok () → ∃ bytes old,
      g.file .pending (recordFile old.pairId) = some bytes ∧
        PairingRecord.fromBytes bytes = .ok old ∧ old.pairId = record.pairId ∧
        old.initiatorDeviceId = record.initiatorDeviceId ∧
        old.responderDeviceId = record.responderDeviceId) h := by
  apply keeps_anyStep.mpr
  intro hok
  have hs := (writePending_eq_ok h env record).mp hok
  rcases hs.slot with ⟨hfree, htemp, hsize⟩ | ⟨bytes, old, hfile, hread, hbinding, hcomplete⟩
  · have hreplaces : h.Replaces (endState h (writePending env record h).visited) .pending
        (recordFile record.pairId) (some record.toVec) :=
      (writePending_stores hs.pairId hfree htemp hsize).2.2
    have hbytes : record.toBytes = .ok record.toVec :=
      (PairingRecord.toBytes_eq_ok _ _).mpr ⟨hsize, rfl⟩
    exact ⟨_, record, hreplaces.file, PairingRecord.fromBytes_toBytes hbytes hshaped, rfl, rfl, rfl⟩
  · have hsame : endState h (writePending env record h).visited = h :=
      (writePending_present hs.pairId hfile hread hbinding hcomplete).2.2
    simp only [ensureSameBinding, bind_eq_ok, bailIf_eq_ok, not_or, not_not, exists_const] at hbinding
    obtain ⟨⟨hpair, hinitiator, hresponder, -⟩, -⟩ := hbinding
    rw [hsame]
    exact ⟨bytes, old, hpair ▸ hfile, hread, hpair, hinitiator, hresponder⟩

private theorem Activated.file {h g : Host} {record : PairingRecord}
    (hactivated : Activated h g record) :
    g.file .active (recordFile record.pairId) = some record.toVec := by
  obtain ⟨mid, hreplaces, hcleaned⟩ := hactivated
  rw [hcleaned.others .active _ (by decide)]
  exact hreplaces.file

/-- A record that `persistActive` has accepted can be read back from the active directory. -/
theorem persistActive_stores [LawfulSerde] {h : Host} (env : Env) {record : PairingRecord}
    (hshaped : record.Shaped) :
    Keeps AnyStep (persistActive env record) (fun r g => r = .ok () → ∃ bytes,
      g.file .active (recordFile record.pairId) = some bytes ∧
        PairingRecord.fromBytes bytes = .ok record) h := by
  apply keeps_anyStep.mpr
  intro hok
  have hs := (persistActive_eq_ok h env record).mp hok
  rcases hs.slot with ⟨hfree, htemp, hsize⟩ | ⟨bytes, hfile, hread⟩
  · have hactivated : Activated h (endState h (persistActive env record h).visited) record :=
      (persistActive_activates hs.pairId hs.revoked hfree htemp hsize hs.readable).2.2
    have hbytes : record.toBytes = .ok record.toVec :=
      (PairingRecord.toBytes_eq_ok _ _).mpr ⟨hsize, rfl⟩
    exact ⟨_, hactivated.file, PairingRecord.fromBytes_toBytes hbytes hshaped⟩
  · have hcleaned : Cleaned h (endState h (persistActive env record h).visited) record :=
      (persistActive_present hs.pairId hs.revoked hfile hread hs.readable).2.2
    refine ⟨bytes, ?_, hread⟩
    rw [hcleaned.others .active _ (by decide)]
    exact hfile

end Records

end OmarchySync
