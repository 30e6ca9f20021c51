import OmarchySync.Trust.Steps

/-!
# Lookups

The readers of the pairing directories. They succeed and answer from the committed records
whenever every file is a valid record under its own PairID.
-/

namespace OmarchySync

open Logic Wire

variable [Crypto] [Serde]

namespace PairingStore

def load (store : PairingStore) (h : Host) (pairId : Text) : Result (Option PairingRecord) := do
  let path ← recordPath pairId
  match ← readRecord h .active path with
  | none => return none
  | some record =>
      bailIf (record.pairId ≠ pairId) "active pairing record filename and PairID differ"
      store.validateStored record
      return some record

/-- One round of the loop in `pendingForPeer`. -/
def matchPending (store : PairingStore) (h : Host) (first second : Text) (name : FileName) :
    Result (Option PairingRecord) := do
  match ← readRecord h .pending name with
  | none => return none
  | some record =>
      store.validatePendingStored record
      return if record.binds first second then some record else none

def pendingForPeer (store : PairingStore) (order : ReadDir) (h : Host)
    (localDeviceId peerDeviceId : Text) : Result (Option PairingRecord) := do
  validateDeviceId localDeviceId
  validateDeviceId peerDeviceId
  search (store.matchPending h localDeviceId peerDeviceId) (order.enumerate (h.trust .pending))

/-- One round of the loop in `hasActivePairing`. -/
def matchActive (store : PairingStore) (h : Host) (first second : Text) (name : FileName) :
    Result (Option PairingRecord) := do
  match ← readRecord h .active name with
  | none => return none
  | some record =>
      store.validateStored record
      return if record.binds first second then some record else none

def hasActivePairing (store : PairingStore) (order : ReadDir) (h : Host)
    (localDeviceId peerDeviceId : Text) : Result Bool := do
  validateDeviceId localDeviceId
  validateDeviceId peerDeviceId
  let found ← search (store.matchActive h localDeviceId peerDeviceId)
    (order.enumerate (h.trust .active))
  return found.isSome

/-- One round of the loops that go by file stems. -/
def matchStem (store : PairingStore) (h : Host) (first second : Text) (name : FileName) :
    Result (Option PairingRecord) :=
  match Text.ofBytes? (fileStem name) with
  | none => .ok none
  | some pairId => do
      match ← store.load h pairId with
      | none => return none
      | some record => return if record.binds first second then some record else none

/-- The active record of two devices, as `recoveryContext` and `activePairForPeerAt` find it. -/
def activeRecord (store : PairingStore) (order : ReadDir) (h : Host) (first second : Text) :
    Result (Option PairingRecord) :=
  search (store.matchStem h first second) (order.enumerate (h.trust .active))

def activePairForPeerAt (store : PairingStore) (order : ReadDir) (h : Host)
    (localId peerId : Text) : Result (Option Text) := do
  let found ← store.activeRecord order h localId peerId
  return found.map PairingRecord.pairId

def contextFromRecordParts (record : PairingRecord) (initiator responder : DeviceCertificate) :
    Result PairedIdentityContext :=
  PairedIdentityContext.fromValidatedRecord record.pairId record.initiatorDeviceId
    record.responderDeviceId record.initiatorPublicKey record.responderPublicKey initiator responder

def contextFromRecord (store : PairingStore) (record : PairingRecord)
    (identity : DeviceIdentity) : Result PairedIdentityContext := do
  store.validatePendingStored record
  let initiator ← DeviceCertificate.fromBytes record.initiatorCertificate
  let responder ← DeviceCertificate.fromBytes record.responderCertificate
  bailIf (identity.deviceId ≠ record.initiatorDeviceId ∧
    identity.deviceId ≠ record.responderDeviceId)
    "local identity is not a participant in pending pairing"
  contextFromRecordParts record initiator responder

def recoveryContext (store : PairingStore) (order : ReadDir) (h : Host)
    (identity : DeviceIdentity) (peerDeviceId : Text) : Result (Option PairedIdentityContext) := do
  match ← store.pendingForPeer order h identity.deviceId peerDeviceId with
  | some record => return some (← store.contextFromRecord record identity)
  | none =>
      match ← store.activeRecord order h identity.deviceId peerDeviceId with
      | some record => return some (← store.contextFromRecord record identity)
      | none => return none

def reconnectContext (store : PairingStore) (h : Host) (identity : DeviceIdentity)
    (pairId : Text) : Result PairedIdentityContext := do
  let record ← store.load h pairId
  let record ← someOr "active pairing record is missing" record
  bailIf (¬record.isComplete) "active pairing record is not fully bilateral"
  let initiator ← DeviceCertificate.fromBytes record.initiatorCertificate
  let responder ← DeviceCertificate.fromBytes record.responderCertificate
  bailIf ((identity.deviceId ≠ record.initiatorDeviceId ∨
      identity.publicKey ≠ record.initiatorPublicKey) ∧
    (identity.deviceId ≠ record.responderDeviceId ∨
      identity.publicKey ≠ record.responderPublicKey))
    "local identity is not a participant in active pairing"
  contextFromRecordParts record initiator responder

end PairingStore

/-- The pending directory holds the record under some name. -/
def Host.HasPending (h : Host) (r : PairingRecord) : Prop :=
  ∃ name bytes, h.file .pending name = some bytes ∧ PairingRecord.fromBytes bytes = .ok r

namespace PairingStore

variable {store : PairingStore} {order : ReadDir} {h : Host} {identity : DeviceIdentity}
  {pairId first second : Text} {r : PairingRecord}

theorem load_hit (hok : store.load h pairId = .ok (some r)) :
    HexId pairId ∧ r.pairId = pairId ∧ ∃ bytes, h.file .active (recordFile pairId) = some bytes := by
  simp only [load, bind_eq_ok, recordPath_eq_ok] at hok
  obtain ⟨_, ⟨hid, rfl⟩, found, hfound, hok⟩ := hok
  cases found with
  | none => cases hok
  | some record =>
      simp only [bind_eq_ok, bailIf_eq_ok, pure_eq_ok, not_not, exists_const, Option.some.injEq] at hok
      obtain ⟨hpair, _, _, rfl⟩ := hok
      obtain ⟨bytes, hfile, _⟩ := (readRecord_eq_ok ..).mp hfound
      exact ⟨hid, hpair, bytes, hfile⟩

theorem pendingForPeer_hit (hok : store.pendingForPeer order h first second = .ok (some r)) :
    h.HasPending r ∧ store.validatePendingStored r = .ok () ∧ r.binds first second := by
  simp only [pendingForPeer, bind_eq_ok] at hok
  obtain ⟨_, -, _, -, hsearch⟩ := hok
  obtain ⟨name, -, hvisit⟩ := search_hit hsearch
  obtain ⟨found, hread, hvisit⟩ := (bind_eq_ok ..).mp hvisit
  cases found with
  | none => cases hvisit
  | some record =>
      simp only [bind_eq_ok, pure_eq_ok] at hvisit
      obtain ⟨_, hvalid, hmatch⟩ := hvisit
      by_cases hbinds : record.binds first second
      · rw [if_pos hbinds, Option.some.injEq] at hmatch
        subst hmatch
        obtain ⟨bytes, hfile, hparse⟩ := (readRecord_eq_ok ..).mp hread
        exact ⟨⟨name, bytes, hfile, hparse⟩, hvalid, hbinds⟩
      · rw [if_neg hbinds] at hmatch
        cases hmatch

theorem activeRecord_hit (hok : store.activeRecord order h first second = .ok (some r)) :
    store.load h r.pairId = .ok (some r) ∧ r.binds first second := by
  obtain ⟨name, -, hvisit⟩ := search_hit hok
  unfold matchStem at hvisit
  split at hvisit
  next => cases hvisit
  next pairId _ =>
    obtain ⟨found, hload, hvisit⟩ := (bind_eq_ok ..).mp hvisit
    cases found with
    | none => cases hvisit
    | some record =>
        by_cases hbinds : record.binds first second
        · simp only [if_pos hbinds, pure_eq_ok, Option.some.injEq] at hvisit
          subst hvisit
          rw [(load_hit hload).2.1]
          exact ⟨hload, hbinds⟩
        · simp [if_neg hbinds, pure_eq_ok] at hvisit

omit [Serde] in
theorem contextFromRecord_pairId {context : PairedIdentityContext}
    (hok : store.contextFromRecord r identity = .ok context) : context.pairId = r.pairId := by
  simp only [contextFromRecord, contextFromRecordParts, PairedIdentityContext.fromValidatedRecord,
    bind_eq_ok, pure_eq_ok] at hok
  obtain ⟨_, -, _, -, _, -, _, -, _, -, rfl⟩ := hok
  rfl

end PairingStore

/-- A record in place under its own PairID. -/
structure Host.Committed (h : Host) (folder : Folder) (r : PairingRecord) : Prop where
  pairId : HexId r.pairId
  stored : ∃ bytes, h.file folder (recordFile r.pairId) = some bytes ∧
    PairingRecord.fromBytes bytes = .ok r

namespace PairingStore

variable {store : PairingStore} {order : ReadDir} {h : Host} {pairId first second : Text}
  {r : PairingRecord}

theorem load_committed (hok : store.load h pairId = .ok (some r)) :
    h.Committed .active r ∧ store.validateStored r = .ok () := by
  simp only [load, bind_eq_ok, recordPath_eq_ok] at hok
  obtain ⟨_, ⟨hid, rfl⟩, found, hfound, hok⟩ := hok
  cases found with
  | none => cases hok
  | some record =>
      simp only [bind_eq_ok, bailIf_eq_ok, pure_eq_ok, not_not, exists_const, Option.some.injEq] at hok
      obtain ⟨rfl, _, hvalid, rfl⟩ := hok
      exact ⟨⟨hid, (readRecord_eq_ok ..).mp hfound⟩, hvalid⟩

/-- A scan of the active directory by file stems overlooks no committed record. -/
theorem activeRecord_miss (hok : store.activeRecord order h first second = .ok none)
    (hcommitted : h.Committed .active r) : ¬r.binds first second := by
  intro hbinds
  obtain ⟨bytes, hfile, hread⟩ := hcommitted.stored
  have hname : recordFile r.pairId ∈ order.enumerate (h.trust .active) :=
    (order.mem_enumerate h .active _).mpr (by rw [hfile]; rfl)
  have hmiss := search_miss hok _ hname
  have hstem : Text.ofBytes? (fileStem (recordFile r.pairId)) = some r.pairId := by
    rw [fileStem_recordFile hcommitted.pairId, Text.ofBytes?_bytes]
  simp only [matchStem, hstem, bind_eq_ok] at hmiss
  obtain ⟨found, hload, hmiss⟩ := hmiss
  cases found with
  | none =>
      simp only [load, bind_eq_ok, recordPath_eq_ok] at hload
      obtain ⟨_, ⟨-, rfl⟩, found, hfound, hload⟩ := hload
      rw [(readRecord_eq_ok ..).mpr ⟨bytes, hfile, hread⟩] at hfound
      cases hfound
      simp only [bind_eq_ok, pure_eq_ok, reduceCtorEq, and_false, exists_false] at hload
  | some record =>
      obtain ⟨bytes', hfile', hread'⟩ := (load_committed hload).1.stored
      rw [(load_hit hload).2.1, hfile] at hfile'
      cases hfile'
      rw [hread] at hread'
      cases hread'
      simp only [if_pos hbinds, pure_eq_ok, reduceCtorEq] at hmiss

/-- A scan of the pending directory overlooks no record, under whatever name. -/
theorem pendingForPeer_miss (hok : store.pendingForPeer order h first second = .ok none)
    (hpending : h.HasPending r) : ¬r.binds first second := by
  intro hbinds
  obtain ⟨name, bytes, hfile, hread⟩ := hpending
  simp only [pendingForPeer, bind_eq_ok] at hok
  obtain ⟨_, -, _, -, hsearch⟩ := hok
  have hname : name ∈ order.enumerate (h.trust .pending) :=
    (order.mem_enumerate h .pending _).mpr (by rw [hfile]; rfl)
  have hmiss := search_miss hsearch _ hname
  simp only [matchPending, bind_eq_ok] at hmiss
  obtain ⟨found, hfound, hmiss⟩ := hmiss
  rw [(readRecord_eq_ok ..).mpr ⟨bytes, hfile, hread⟩] at hfound
  cases hfound
  simp only [if_pos hbinds, bind_eq_ok, pure_eq_ok, reduceCtorEq, and_false, exists_false] at hmiss

end PairingStore

/-- Every file of the folder is a record under its own PairID that passes `valid`. -/
def Host.Holds (h : Host) (folder : Folder) (valid : PairingRecord → Result Unit) : Prop :=
  ∀ name bytes, h.file folder name = some bytes → ∃ r, HexId r.pairId ∧
    name = recordFile r.pairId ∧ PairingRecord.fromBytes bytes = .ok r ∧ valid r = .ok ()

/-- Writers and readers agree: every active and every pending file passes its validator. -/
structure Host.WellKept (h : Host) (store : PairingStore) : Prop where
  active : h.Holds .active store.validateStored
  pending : h.Holds .pending store.validatePendingStored

/-- The lookups succeed and answer from committed records. -/
structure Host.Answers (h : Host) (store : PairingStore) (order : ReadDir) : Prop where
  load : ∀ pairId, HexId pairId → ∃ found, store.load h pairId = .ok found ∧
    ∀ r, found = some r ↔ h.Committed .active r ∧ r.pairId = pairId
  hasActivePairing : ∀ first second, HexId first → HexId second →
    ∃ found, store.hasActivePairing order h first second = .ok found ∧
      (found = true ↔ ∃ r, h.Committed .active r ∧ r.binds first second)
  activePairForPeerAt : ∀ first second, HexId first → HexId second →
    ∃ found, store.activePairForPeerAt order h first second = .ok found ∧
      (∀ pairId, found = some pairId →
        ∃ r, h.Committed .active r ∧ r.binds first second ∧ r.pairId = pairId) ∧
      (found = none → ∀ r, h.Committed .active r → ¬r.binds first second)
  pendingForPeer : ∀ first second, HexId first → HexId second →
    ∃ found, store.pendingForPeer order h first second = .ok found ∧
      (∀ r, found = some r → h.Committed .pending r ∧ r.binds first second) ∧
      (found = none → ∀ r, h.Committed .pending r → ¬r.binds first second)
  recoveryContext : ∀ identity peer, HexId peer →
    ∃ found, store.recoveryContext order h identity peer = .ok found ∧
      (∀ context, found = some context → ∃ r, (h.Committed .pending r ∨ h.Committed .active r) ∧
        r.binds identity.deviceId peer ∧ store.contextFromRecord r identity = .ok context) ∧
      (found = none → ∀ r, h.Committed .pending r ∨ h.Committed .active r →
        ¬r.binds identity.deviceId peer)

section Answers

variable {h : Host} {folder : Folder} {store : PairingStore} {order : ReadDir}

omit [Crypto] in
theorem Host.Holds.valid {valid : PairingRecord → Result Unit} (hholds : h.Holds folder valid)
    {r : PairingRecord} (hcommitted : h.Committed folder r) : valid r = .ok () := by
  obtain ⟨bytes, hfile, hread⟩ := hcommitted.stored
  obtain ⟨r', _, _, hread', hvalid⟩ := hholds _ bytes hfile
  rw [hread] at hread'
  cases hread'
  exact hvalid

/-- The record when it binds the two devices. -/
def PairingRecord.matching (r : PairingRecord) (first second : Text) : Option PairingRecord :=
  if r.binds first second then some r else none

omit [Crypto] in
private theorem Host.Holds.scan {valid : PairingRecord → Result Unit}
    {visit : FileName → Result (Option PairingRecord)} {first second : Text}
    (hholds : h.Holds folder valid) (order : ReadDir)
    (hvisit : ∀ r, h.Committed folder r → valid r = .ok () →
      visit (recordFile r.pairId) = .ok (r.matching first second)) :
    ∃ found, search visit (order.enumerate (h.trust folder)) = .ok found ∧
      (∀ r, found = some r → h.Committed folder r ∧ r.binds first second) ∧
      (found = none → ∀ r, h.Committed folder r → ¬r.binds first second) := by
  have hround : ∀ name ∈ order.enumerate (h.trust folder),
      ∃ r, h.Committed folder r ∧ visit name = .ok (r.matching first second) := by
    intro name hname
    obtain ⟨bytes, hfile⟩ := Option.isSome_iff_exists.mp ((order.mem_enumerate h folder name).mp hname)
    obtain ⟨r, hid, rfl, hread, hvalid⟩ := hholds name bytes hfile
    have hcommitted : h.Committed folder r := ⟨hid, bytes, hfile, hread⟩
    exact ⟨r, hcommitted, hvisit r hcommitted hvalid⟩
  have hfound : ∀ name ∈ order.enumerate (h.trust folder), ∃ found, visit name = .ok found := by
    intro name hname
    obtain ⟨r, _, hr⟩ := hround name hname
    exact ⟨_, hr⟩
  rcases search_ok hfound with ⟨name, hname, r, hr, hend⟩ | ⟨hnone, hend⟩
  · refine ⟨some r, hend, ?_, fun hempty => nomatch hempty⟩
    intro r' heq
    cases heq
    obtain ⟨r', hcommitted, hr'⟩ := hround name hname
    rw [hr, Except.ok.injEq] at hr'
    by_cases hbinds : r'.binds first second
    · rw [PairingRecord.matching, if_pos hbinds] at hr'
      cases hr'
      exact ⟨hcommitted, hbinds⟩
    · rw [PairingRecord.matching, if_neg hbinds] at hr'
      cases hr'
  · refine ⟨none, hend, fun r heq => (nomatch heq), ?_⟩
    intro _ r hcommitted hbinds
    obtain ⟨bytes, hfile, _⟩ := hcommitted.stored
    have hname : recordFile r.pairId ∈ order.enumerate (h.trust folder) :=
      (order.mem_enumerate h folder _).mpr (by rw [hfile]; rfl)
    have hmiss := hnone _ hname
    rw [hvisit r hcommitted (hholds.valid hcommitted), PairingRecord.matching, if_pos hbinds] at hmiss
    cases hmiss

omit [Crypto] in
theorem Host.Committed.readRecord {r : PairingRecord} (hcommitted : h.Committed folder r) :
    readRecord h folder (recordFile r.pairId) = .ok (some r) :=
  (readRecord_eq_ok _ _ _ _).mpr hcommitted.stored

theorem Host.Committed.load {r : PairingRecord} (hcommitted : h.Committed .active r)
    (hvalid : store.validateStored r = .ok ()) : store.load h r.pairId = .ok (some r) := by
  have hpath : recordPath r.pairId = .ok (recordFile r.pairId) :=
    (recordPath_eq_ok _ _).mpr ⟨hcommitted.pairId, rfl⟩
  simp [PairingStore.load, hpath, hcommitted.readRecord, hvalid, pure, Except.pure]

omit [Crypto] [Serde] in
theorem validateDeviceId_ok {deviceId : Text} (hid : HexId deviceId) :
    validateDeviceId deviceId = .ok () := by
  simp only [validateDeviceId, bailIf_eq_ok, not_badHexId_iff]
  exact hid

omit [Serde] in
theorem contextFromRecord_ok {identity : DeviceIdentity} {r : PairingRecord}
    (hvalid : store.validatePendingStored r = .ok ())
    (hlocal : identity.deviceId = r.initiatorDeviceId ∨ identity.deviceId = r.responderDeviceId) :
    ∃ context, store.contextFromRecord r identity = .ok context := by
  obtain ⟨_, initiator, responder, hcert, _, _⟩ :=
    (PairingStore.validatePendingStored_eq_ok store r ()).mp hvalid
  have hinitiator := (DeviceCertificate.fromBytes_eq_ok _ _).mpr hcert.initiatorBytes
  have hresponder := (DeviceCertificate.fromBytes_eq_ok _ _).mpr hcert.responderBytes
  have hparticipant : ¬(identity.deviceId ≠ r.initiatorDeviceId ∧
      identity.deviceId ≠ r.responderDeviceId) := by
    intro hne
    exact hlocal.elim hne.1 hne.2
  refine ⟨⟨r.pairId, r.initiatorDeviceId, r.responderDeviceId, r.initiatorPublicKey,
    r.responderPublicKey, initiator, responder⟩, ?_⟩
  simp only [PairingStore.contextFromRecord, hvalid, hinitiator, hresponder, ok_bind, bind_eq_ok,
    bailIf_eq_ok, exists_const]
  refine ⟨hparticipant, ?_⟩
  simp [PairingStore.contextFromRecordParts, PairedIdentityContext.fromValidatedRecord,
    hcert.distinct, hcert.initiatorFields, hcert.responderFields]

omit [Serde] in
theorem validatePendingStored_of_stored {r : PairingRecord}
    (hvalid : store.validateStored r = .ok ()) : store.validatePendingStored r = .ok () := by
  obtain ⟨hcomplete, hattested⟩ := (PairingStore.validateStored_eq_ok store r ()).mp hvalid
  refine (PairingStore.validatePendingStored_eq_ok store r ()).mpr ⟨?_, hattested⟩
  intro hnone
  simp [PairingRecord.isComplete, hnone.1] at hcomplete

theorem Host.Holds.pendingForPeer (hholds : h.Holds .pending store.validatePendingStored)
    (order : ReadDir) {first second : Text} (hfirst : HexId first) (hsecond : HexId second) :
    ∃ found, store.pendingForPeer order h first second = .ok found ∧
      (∀ r, found = some r → h.Committed .pending r ∧ r.binds first second) ∧
      (found = none → ∀ r, h.Committed .pending r → ¬r.binds first second) := by
  have hvisit : ∀ r, h.Committed .pending r → store.validatePendingStored r = .ok () →
      store.matchPending h first second (recordFile r.pairId) = .ok (r.matching first second) := by
    intro r hcommitted hvalid
    simp [PairingStore.matchPending, hcommitted.readRecord, hvalid, PairingRecord.matching, pure,
      Except.pure]
  have hids : store.pendingForPeer order h first second =
      search (store.matchPending h first second) (order.enumerate (h.trust .pending)) := by
    simp [PairingStore.pendingForPeer, validateDeviceId_ok hfirst, validateDeviceId_ok hsecond]
  rw [hids]
  exact hholds.scan order hvisit

theorem Host.Holds.hasActivePairing (hholds : h.Holds .active store.validateStored)
    (order : ReadDir) {first second : Text} (hfirst : HexId first) (hsecond : HexId second) :
    ∃ found, store.hasActivePairing order h first second = .ok found ∧
      (found = true ↔ ∃ r, h.Committed .active r ∧ r.binds first second) := by
  have hvisit : ∀ r, h.Committed .active r → store.validateStored r = .ok () →
      store.matchActive h first second (recordFile r.pairId) = .ok (r.matching first second) := by
    intro r hcommitted hvalid
    simp [PairingStore.matchActive, hcommitted.readRecord, hvalid, PairingRecord.matching, pure,
      Except.pure]
  obtain ⟨found, hsearch, hsome, hnone⟩ := hholds.scan order hvisit
  refine ⟨found.isSome, ?_, ?_⟩
  · simp [PairingStore.hasActivePairing, validateDeviceId_ok hfirst, validateDeviceId_ok hsecond,
      hsearch, pure, Except.pure]
  · constructor
    · intro h
      obtain ⟨r, hr⟩ := Option.isSome_iff_exists.mp h
      exact ⟨r, hsome r hr⟩
    · intro h
      obtain ⟨r, hcommitted, hbinds⟩ := h
      cases found with
      | none => exact absurd hbinds (hnone rfl r hcommitted)
      | some r => rfl

private theorem Host.Holds.activeRecord (hholds : h.Holds .active store.validateStored)
    (order : ReadDir) (first second : Text) :
    ∃ found, store.activeRecord order h first second = .ok found ∧
      (∀ r, found = some r → h.Committed .active r ∧ r.binds first second) ∧
      (found = none → ∀ r, h.Committed .active r → ¬r.binds first second) := by
  have hvisit : ∀ r, h.Committed .active r → store.validateStored r = .ok () →
      store.matchStem h first second (recordFile r.pairId) = .ok (r.matching first second) := by
    intro r hcommitted hvalid
    have hstem : Text.ofBytes? (fileStem (recordFile r.pairId)) = some r.pairId := by
      rw [fileStem_recordFile hcommitted.pairId, Text.ofBytes?_bytes]
    simp [PairingStore.matchStem, hstem, hcommitted.load hvalid, PairingRecord.matching, pure,
      Except.pure]
  exact hholds.scan order hvisit

private theorem Host.Holds.load (hholds : h.Holds .active store.validateStored) {pairId : Text}
    (hid : HexId pairId) : ∃ found, store.load h pairId = .ok found ∧
      ∀ r, found = some r ↔ h.Committed .active r ∧ r.pairId = pairId := by
  have hpath : recordPath pairId = .ok (recordFile pairId) := (recordPath_eq_ok _ _).mpr ⟨hid, rfl⟩
  cases hfile : h.file .active (recordFile pairId) with
  | none =>
      refine ⟨none, ?_, ?_⟩
      · have hnone := (readRecord_eq_none h .active (recordFile pairId)).mpr hfile
        simp [PairingStore.load, hpath, hnone, pure, Except.pure]
      · intro r
        simp only [reduceCtorEq, false_iff]
        intro hr
        obtain ⟨hcommitted, rfl⟩ := hr
        obtain ⟨bytes, hbytes, _⟩ := hcommitted.stored
        rw [hfile] at hbytes
        cases hbytes
  | some bytes =>
      obtain ⟨r, _, hname, hread, hvalid⟩ := hholds _ bytes hfile
      obtain rfl : pairId = r.pairId := recordFile_inj hname
      have hcommitted : h.Committed .active r := ⟨hid, bytes, hfile, hread⟩
      refine ⟨some r, hcommitted.load hvalid, ?_⟩
      intro r'
      constructor
      · intro heq
        cases heq
        exact ⟨hcommitted, rfl⟩
      · intro hr
        obtain ⟨bytes', hfile', hread'⟩ := hr.1.stored
        rw [hr.2, hfile] at hfile'
        cases hfile'
        rw [hread] at hread'
        rw [Except.ok.inj hread']

theorem Host.WellKept.answers (hkept : h.WellKept store) (order : ReadDir) :
    h.Answers store order := by
  refine ⟨fun _ hid => hkept.active.load hid,
    fun _ _ hfirst hsecond => hkept.active.hasActivePairing order hfirst hsecond, ?_,
    fun _ _ hfirst hsecond => hkept.pending.pendingForPeer order hfirst hsecond, ?_⟩
  · intro first second _ _
    obtain ⟨found, hactive, hsome, hnone⟩ := hkept.active.activeRecord order first second
    refine ⟨found.map PairingRecord.pairId, ?_, ?_, ?_⟩
    · simp [PairingStore.activePairForPeerAt, hactive, pure, Except.pure]
    · intro pairId heq
      obtain ⟨r, hr, rfl⟩ := Option.map_eq_some_iff.mp heq
      exact ⟨r, (hsome r hr).1, (hsome r hr).2, rfl⟩
    · intro heq
      exact hnone (Option.map_eq_none_iff.mp heq)
  · intro identity peer hpeer
    have hcontext : ∀ r, (h.Committed .pending r ∨ h.Committed .active r) ∧
        r.binds identity.deviceId peer →
        ∃ context, store.contextFromRecord r identity = .ok context := by
      intro r hr
      refine contextFromRecord_ok ?_ (hr.2.imp (fun hb => hb.1.symm) fun hb => hb.2.symm)
      exact hr.1.elim hkept.pending.valid fun hactive =>
        validatePendingStored_of_stored (hkept.active.valid hactive)
    obtain ⟨found, hpending, hsome, hnone⟩ :=
      hkept.pending.pendingForPeer order (deviceIdForPublicKey_hexId identity.publicKey) hpeer
    obtain ⟨found', hactive, hsome', hnone'⟩ :=
      hkept.active.activeRecord order identity.deviceId peer
    have hhit : ∀ r, (h.Committed .pending r ∨ h.Committed .active r) ∧
        r.binds identity.deviceId peer →
        (∀ context, store.contextFromRecord r identity = .ok context →
          store.recoveryContext order h identity peer = .ok (some context)) →
        ∃ found, store.recoveryContext order h identity peer = .ok found ∧
          (∀ context, found = some context →
            ∃ r, (h.Committed .pending r ∨ h.Committed .active r) ∧
              r.binds identity.deviceId peer ∧ store.contextFromRecord r identity = .ok context) ∧
          (found = none → ∀ r, h.Committed .pending r ∨ h.Committed .active r →
            ¬r.binds identity.deviceId peer) := by
      intro r hr hresult
      obtain ⟨context, hctx⟩ := hcontext r hr
      refine ⟨some context, hresult context hctx, ?_, fun heq => nomatch heq⟩
      intro context' heq
      cases heq
      exact ⟨r, hr.1, hr.2, hctx⟩
    change store.pendingForPeer order h identity.deviceId peer = .ok found at hpending
    cases found with
    | some r =>
        refine hhit r ⟨.inl (hsome r rfl).1, (hsome r rfl).2⟩ ?_
        intro context hctx
        simp [PairingStore.recoveryContext, hpending, hctx, pure, Except.pure]
    | none =>
        cases found' with
        | some r =>
            refine hhit r ⟨.inr (hsome' r rfl).1, (hsome' r rfl).2⟩ ?_
            intro context hctx
            simp [PairingStore.recoveryContext, hpending, hactive, hctx, pure, Except.pure]
        | none =>
            refine ⟨none, ?_, fun _ heq => (nomatch heq), ?_⟩
            · simp [PairingStore.recoveryContext, hpending, hactive, pure, Except.pure]
            · intro _ r hr
              exact hr.elim (hnone rfl r) (hnone' rfl r)

end Answers

end OmarchySync
