import OmarchySync.Logic.Search
import OmarchySync.Trust.Lifecycle
import OmarchySync.Trust.Lookup

/-!
# Lookups and the order of directories

The lookups stop at the first entry that matches or fails. They are independent of the order
in which the directories are listed exactly when the entries that can stop one of them would
all stop it with the same result.
-/

namespace OmarchySync

open Logic Wire

theorem ReadDir.exists_enumerate (d : Dir) (names : List FileName)
    (hperm : names.Perm d.keys) :
    ∃ order : ReadDir, order.enumerate d = names := by
  classical
  refine ⟨⟨fun d' => if d' = d then names else d'.keys, ?_⟩, if_pos rfl⟩
  intro d'
  by_cases heq : d' = d
  · rw [if_pos heq, heq]
    exact hperm
  · rw [if_neg heq]

section Order

variable [Crypto] [Serde]

/-- A file of the folder that cannot be read as a valid record. -/
def Host.Rejected (h : Host) (folder : Folder) (valid : PairingRecord → Result Unit)
    (name : FileName) (e : String) : Prop :=
  readRecord h folder name = .error e ∨
    ∃ r, readRecord h folder name = .ok (some r) ∧ valid r = .error e

/-- A file of the folder holding a valid record that binds the two devices. -/
def Host.Matched (h : Host) (folder : Folder) (valid : PairingRecord → Result Unit)
    (first second : Text) (name : FileName) (r : PairingRecord) : Prop :=
  readRecord h folder name = .ok (some r) ∧ valid r = .ok () ∧ r.binds first second

/-- An active file whose stem does not load. -/
def Host.StemRejected (h : Host) (store : PairingStore) (name : FileName) (e : String) : Prop :=
  (h.file .active name).isSome ∧
    ∃ pairId, Text.ofBytes? (fileStem name) = some pairId ∧ store.load h pairId = .error e

/-- An active file whose stem loads a record that binds the two devices. -/
def Host.StemMatched (h : Host) (store : PairingStore) (first second : Text) (name : FileName)
    (r : PairingRecord) : Prop :=
  (h.file .active name).isSome ∧
    ∃ pairId, Text.ofBytes? (fileStem name) = some pairId ∧
      store.load h pairId = .ok (some r) ∧ r.binds first second

/-- What a reconnect context keeps of a record. -/
def PairingRecord.relationship (r : PairingRecord) : Text × Bytes × Bytes :=
  (r.pairId, r.initiatorCertificate, r.responderCertificate)

/-- The four lookups answer alike in whatever order the directories are listed, and
`hasActivePairing` fails closed. -/
structure Host.OrderIndependent (h : Host) (store : PairingStore) (identity : DeviceIdentity)
    (first second : Text) : Prop where
  hasActivePairing : ∀ order order' : ReadDir,
    store.hasActivePairing order h first second = store.hasActivePairing order' h first second
  pendingForPeer : ∀ order order' : ReadDir,
    store.pendingForPeer order h first second = store.pendingForPeer order' h first second
  recoveryContext : ∀ order order' : ReadDir,
    store.recoveryContext order h identity second = store.recoveryContext order' h identity second
  activePairForPeerAt : ∀ order order' : ReadDir,
    store.activePairForPeerAt order h first second =
      store.activePairForPeerAt order' h first second
  failsClosed : ∀ (order : ReadDir) name e, h.Rejected .active store.validateStored name e →
    ∃ e', store.hasActivePairing order h first second = .error e'
  answers : HexId first → HexId second → ∀ order : ReadDir,
    (∀ name e, ¬h.Rejected .active store.validateStored name e) →
      ∃ found, store.hasActivePairing order h first second = .ok found ∧
        (found = true ↔
          ∃ name r, h.Matched .active store.validateStored first second name r)

/-- Files that stop one lookup: all of them match or all of them are invalid, with one answer. -/
structure Host.Unambiguous (h : Host) (store : PairingStore) (identity : DeviceIdentity)
    (first second : Text) : Prop where
  active : HexId first → HexId second → Decisive (h.Rejected .active store.validateStored)
    fun name (_ : Unit) => ∃ r, h.Matched .active store.validateStored first second name r
  pending : HexId first → HexId second → Decisive (h.Rejected .pending store.validatePendingStored)
    (h.Matched .pending store.validatePendingStored first second)
  stems : Decisive (h.StemRejected store)
    fun name pairId => ∃ r, h.StemMatched store first second name r ∧ r.pairId = pairId
  recovery : HexId second → Decisive (h.Rejected .pending store.validatePendingStored)
    fun name relationship => ∃ r,
      h.Matched .pending store.validatePendingStored identity.deviceId second name r ∧
        r.relationship = relationship
  repair : HexId second → (∀ name e, ¬h.Rejected .pending store.validatePendingStored name e) →
    (∀ name r, ¬h.Matched .pending store.validatePendingStored identity.deviceId second name r) →
    Decisive (h.StemRejected store)
      fun name relationship => ∃ r, h.StemMatched store identity.deviceId second name r ∧
        r.relationship = relationship

section Rounds

variable {h : Host} {store : PairingStore} {identity : DeviceIdentity} {first second : Text}
  {name : FileName}

omit [Crypto] [Serde] in
/-- A lookup that scans one directory depends on no order exactly when its scan is decisive. -/
theorem scan_order_iff {α : Type} (visit : FileName → Result (Option α)) (h : Host)
    (folder : Folder) :
    (∀ order order' : ReadDir, search visit (order.enumerate (h.trust folder)) =
        search visit (order'.enumerate (h.trust folder))) ↔
      Decisive (fun name e => (h.file folder name).isSome ∧ visit name = .error e)
        (fun name a => (h.file folder name).isSome ∧ visit name = .ok (some a)) := by
  have hnames := search_order_iff visit (h.names folder)
  simp only [Host.mem_names] at hnames
  rw [← hnames]
  constructor
  · intro horder as bs has hbs
    rcases ReadDir.exists_enumerate (h.trust folder) as has with ⟨order, rfl⟩
    rcases ReadDir.exists_enumerate (h.trust folder) bs hbs with ⟨order', rfl⟩
    exact horder order order'
  · intro hall order order'
    exact hall _ _ (order.perm _) (order'.perm _)

omit [Crypto] in
private theorem Host.Rejected.isSome {folder : Folder} {valid : PairingRecord → Result Unit}
    {e : String}
    (hrejected : h.Rejected folder valid name e) : (h.file folder name).isSome := by
  by_contra hnone
  have hmissing := (readRecord_eq_none h folder name).mpr (Option.not_isSome_iff_eq_none.mp hnone)
  rcases hrejected with hread | ⟨r, hread, -⟩
  · rw [hmissing] at hread
    cases hread
  · rw [hmissing] at hread
    cases hread

omit [Crypto] in
private theorem Host.Matched.isSome {folder : Folder} {valid : PairingRecord → Result Unit}
    {r : PairingRecord} (hmatched : h.Matched folder valid first second name r) :
    (h.file folder name).isSome := by
  rcases (readRecord_eq_ok ..).mp hmatched.1 with ⟨bytes, hfile, -⟩
  rw [hfile]
  rfl

/-- The round that `matchPending` and `matchActive` share. -/
def matchRound (h : Host) (folder : Folder) (valid : PairingRecord → Result Unit)
    (first second : Text) (name : FileName) : Result (Option PairingRecord) := do
  match ← readRecord h folder name with
  | none => return none
  | some record =>
      valid record
      return if record.binds first second then some record else none

omit [Crypto] in
private theorem matchRound_eq_error (folder : Folder) (valid : PairingRecord → Result Unit)
    (e : String) :
    matchRound h folder valid first second name = .error e ↔ h.Rejected folder valid name e := by
  unfold matchRound Host.Rejected
  cases readRecord h folder name with
  | error e' => simp
  | ok found =>
      cases found with
      | none => simp [pure_result]
      | some r =>
          simp only [ok_bind, reduceCtorEq, Except.ok.injEq, Option.some.injEq, false_or,
            exists_eq_left']
          cases valid r <;> simp [pure_result]

omit [Crypto] in
private theorem matchRound_eq_hit (folder : Folder) (valid : PairingRecord → Result Unit)
    (r : PairingRecord) :
    matchRound h folder valid first second name = .ok (some r) ↔
      h.Matched folder valid first second name r := by
  unfold matchRound Host.Matched
  cases readRecord h folder name with
  | error e' => simp
  | ok found =>
      cases found with
      | none => simp [pure_result]
      | some r' =>
          simp only [ok_bind, bind_eq_ok, pure_eq_ok, Option.ite_none_right_eq_some,
            Option.some.injEq, Except.ok.injEq]
          constructor
          · rintro ⟨_, hvalid, hbinds, rfl⟩
            exact ⟨rfl, hvalid, hbinds⟩
          · rintro ⟨rfl, hvalid, hbinds⟩
            exact ⟨(), hvalid, hbinds, rfl⟩

omit [Crypto] in
private theorem matchRound_order_iff (h : Host) (folder : Folder)
    (valid : PairingRecord → Result Unit)
    (first second : Text) :
    (∀ order order' : ReadDir,
        search (matchRound h folder valid first second) (order.enumerate (h.trust folder)) =
          search (matchRound h folder valid first second) (order'.enumerate (h.trust folder))) ↔
      Decisive (h.Rejected folder valid) (h.Matched folder valid first second) := by
  rw [scan_order_iff]
  apply decisive_congr
  · intro name e
    rw [matchRound_eq_error]
    exact ⟨And.right, fun hrejected => ⟨hrejected.isSome, hrejected⟩⟩
  · intro name r
    rw [matchRound_eq_hit]
    exact ⟨And.right, fun hmatched => ⟨hmatched.isSome, hmatched⟩⟩

private theorem matchStem_eq_error (e : String) :
    (h.file .active name).isSome ∧ store.matchStem h first second name = .error e ↔
      h.StemRejected store name e := by
  unfold PairingStore.matchStem Host.StemRejected
  cases Text.ofBytes? (fileStem name) with
  | none => simp
  | some pairId =>
      simp only [Option.some.injEq, exists_eq_left']
      cases store.load h pairId with
      | error e' => simp
      | ok found => cases found <;> simp [pure_result]

private theorem matchStem_eq_hit (r : PairingRecord) :
    (h.file .active name).isSome ∧ store.matchStem h first second name = .ok (some r) ↔
      h.StemMatched store first second name r := by
  unfold PairingStore.matchStem Host.StemMatched
  cases Text.ofBytes? (fileStem name) with
  | none => simp
  | some pairId =>
      simp only [Option.some.injEq, exists_eq_left']
      cases store.load h pairId with
      | error e' => simp
      | ok found =>
          cases found with
          | none => simp [pure_result]
          | some r' =>
              simp only [ok_bind, pure_eq_ok, Option.ite_none_right_eq_some, Option.some.injEq,
                Except.ok.injEq]
              constructor
              · rintro ⟨hsome, hbinds, rfl⟩
                exact ⟨hsome, rfl, hbinds⟩
              · rintro ⟨hsome, rfl, hbinds⟩
                exact ⟨hsome, hbinds, rfl⟩

end Rounds

/-! ### One lookup at a time -/

section Lookups

variable {h : Host} {store : PairingStore} {identity : DeviceIdentity} {first second : Text}

omit [Crypto] [Serde] in
private theorem validateDeviceId_error {deviceId : Text} (hid : ¬HexId deviceId) :
    ∃ e, validateDeviceId deviceId = .error e := by
  cases hcheck : validateDeviceId deviceId with
  | error e => exact ⟨e, rfl⟩
  | ok u =>
      simp only [validateDeviceId, bailIf_eq_ok, not_badHexId_iff] at hcheck
      exact absurd hcheck hid

private theorem pendingForPeer_eq_search (order : ReadDir) (hfirst : HexId first)
    (hsecond : HexId second) : store.pendingForPeer order h first second =
      search (matchRound h .pending store.validatePendingStored first second)
        (order.enumerate (h.trust .pending)) := by
  simp only [PairingStore.pendingForPeer, validateDeviceId_ok hfirst, validateDeviceId_ok hsecond,
    ok_bind]
  rfl

private theorem hasActivePairing_eq_search (order : ReadDir) (hfirst : HexId first)
    (hsecond : HexId second) : store.hasActivePairing order h first second =
      (search (matchRound h .active store.validateStored first second)
        (order.enumerate (h.trust .active))).map Option.isSome := by
  simp only [PairingStore.hasActivePairing, validateDeviceId_ok hfirst,
    validateDeviceId_ok hsecond, ok_bind]
  rfl

omit [Crypto] [Serde] in
private theorem validateDeviceIds_error (α : Type) (hids : ¬(HexId first ∧ HexId second)) :
    ∃ e, ∀ rest : Result α, (do
      validateDeviceId first
      validateDeviceId second
      rest) = .error e := by
  by_cases hfirst : HexId first
  · have hsecond : ¬HexId second := fun hsecond => hids ⟨hfirst, hsecond⟩
    rcases validateDeviceId_error hsecond with ⟨e, he⟩
    exact ⟨e, fun rest => by simp [validateDeviceId_ok hfirst, he]⟩
  · rcases validateDeviceId_error hfirst with ⟨e, he⟩
    exact ⟨e, fun rest => by simp [he]⟩

private theorem pendingForPeer_order_iff (h : Host) (store : PairingStore) (first second : Text) :
    (∀ order order' : ReadDir, store.pendingForPeer order h first second =
        store.pendingForPeer order' h first second) ↔
      (HexId first → HexId second → Decisive (h.Rejected .pending store.validatePendingStored)
        (h.Matched .pending store.validatePendingStored first second)) := by
  by_cases hids : HexId first ∧ HexId second
  · simp only [pendingForPeer_eq_search _ hids.1 hids.2, matchRound_order_iff, hids.1, hids.2,
      forall_true_left]
  · rcases validateDeviceIds_error _ hids with ⟨e, he⟩
    constructor
    · intro _ hfirst hsecond
      exact absurd ⟨hfirst, hsecond⟩ hids
    · intro _ order order'
      exact (he _).trans (he _).symm

omit [Crypto] [Serde] in
private theorem scan_onHit_order_iff {α β : Type} (visit : FileName → Result (Option α))
    (answer : α → Result β) (h : Host) (folder : Folder) :
    (∀ order order' : ReadDir,
        search visit (order.enumerate (h.trust folder)) >>= onHit answer =
          search visit (order'.enumerate (h.trust folder)) >>= onHit answer) ↔
      Decisive
        (fun name e => (h.file folder name).isSome ∧
          (visit name = .error e ∨ ∃ a, visit name = .ok (some a) ∧ answer a = .error e))
        (fun name b => (h.file folder name).isSome ∧
          ∃ a, visit name = .ok (some a) ∧ answer a = .ok b) := by
  simp only [← search_onHit]
  rw [scan_order_iff]
  apply decisive_congr
  · intro name e
    rw [bind_onHit_eq_error]
  · intro name b
    rw [bind_onHit_eq_hit]

omit [Crypto] [Serde] in
private theorem isSome_eq_iff {α : Type} (r s : Result (Option α)) :
    r.map Option.isSome = s.map Option.isSome ↔
      r >>= onHit (fun _ => .ok ()) = s >>= onHit (fun _ => .ok ()) := by
  cases r with
  | error e => 
      cases s with
      | error e' => simp [Except.map]
      | ok found => cases found <;> simp [Except.map, onHit, pure_result]
  | ok found =>
      cases s with
      | error e' => cases found <;> simp [Except.map, onHit, pure_result]
      | ok found' => cases found <;> cases found' <;> simp [Except.map, onHit, pure_result]

private theorem hasActivePairing_order_iff (h : Host) (store : PairingStore) (first second : Text) :
    (∀ order order' : ReadDir, store.hasActivePairing order h first second =
        store.hasActivePairing order' h first second) ↔
      (HexId first → HexId second → Decisive (h.Rejected .active store.validateStored)
        fun name (_ : Unit) => ∃ r,
          h.Matched .active store.validateStored first second name r) := by
  by_cases hids : HexId first ∧ HexId second
  · simp only [hasActivePairing_eq_search _ hids.1 hids.2, isSome_eq_iff, hids.1, hids.2,
      forall_true_left]
    rw [scan_onHit_order_iff]
    apply decisive_congr
    · intro name e
      simp only [reduceCtorEq, and_false, exists_false, or_false, matchRound_eq_error]
      exact ⟨And.right, fun hrejected => ⟨hrejected.isSome, hrejected⟩⟩
    · intro name _
      simp only [and_true, matchRound_eq_hit]
      exact ⟨And.right, fun hmatched => ⟨hmatched.elim fun _ h => h.isSome, hmatched⟩⟩
  · rcases validateDeviceIds_error _ hids with ⟨e, he⟩
    constructor
    · intro _ hfirst hsecond
      exact absurd ⟨hfirst, hsecond⟩ hids
    · intro _ order order'
      exact (he _).trans (he _).symm

private theorem hasActivePairing_failsClosed (order : ReadDir)
    (halone : HexId first → HexId second → ∀ name r,
      ¬h.Matched .active store.validateStored first second name r)
    {name : FileName} {e : String} (hrejected : h.Rejected .active store.validateStored name e) :
    ∃ e', store.hasActivePairing order h first second = .error e' := by
  by_cases hids : HexId first ∧ HexId second
  · rw [hasActivePairing_eq_search order hids.1 hids.2]
    cases hsearch : search (matchRound h .active store.validateStored first second)
        (order.enumerate (h.trust .active)) with
    | error e' => exact ⟨e', rfl⟩
    | ok found =>
        cases found with
        | none =>
            have hmiss := search_miss hsearch name
              ((order.mem_enumerate h .active name).mpr hrejected.isSome)
            rw [(matchRound_eq_error ..).mpr hrejected] at hmiss
            cases hmiss
        | some r =>
            rcases search_hit hsearch with ⟨name', -, hhit⟩
            exact absurd ((matchRound_eq_hit ..).mp hhit) (halone hids.1 hids.2 name' r)
  · rcases validateDeviceIds_error _ hids with ⟨e', he⟩
    exact ⟨e', he _⟩

private theorem hasActivePairing_answers (order : ReadDir) (hfirst : HexId first)
    (hsecond : HexId second)
    (hvalid : ∀ name e, ¬h.Rejected .active store.validateStored name e) :
    ∃ found, store.hasActivePairing order h first second = .ok found ∧
      (found = true ↔ ∃ name r, h.Matched .active store.validateStored first second name r) := by
  rw [hasActivePairing_eq_search order hfirst hsecond]
  rcases search_ends (matchRound h .active store.validateStored first second)
    (order.enumerate (h.trust .active)) with hend | hmiss
  · rcases hend with ⟨name, -, hne, heq⟩
    rw [heq]
    cases hround : matchRound h .active store.validateStored first second name with
    | error e => exact absurd ((matchRound_eq_error ..).mp hround) (hvalid name e)
    | ok found =>
        cases found with
        | none => exact absurd hround hne
        | some r =>
            have hmatched := (matchRound_eq_hit ..).mp hround
            exact ⟨true, rfl, fun _ => ⟨name, r, hmatched⟩, fun _ => rfl⟩
  · refine ⟨false, by rw [hmiss.2]; rfl, by simp, ?_⟩
    intro hmatched
    rcases hmatched with ⟨name, r, hmatched⟩
    have hround := hmiss.1 name ((order.mem_enumerate h .active name).mpr hmatched.isSome)
    rw [(matchRound_eq_hit ..).mpr hmatched] at hround
    cases hround

private theorem activePairForPeerAt_order_iff (h : Host) (store : PairingStore)
    (first second : Text) :
    (∀ order order' : ReadDir, store.activePairForPeerAt order h first second =
        store.activePairForPeerAt order' h first second) ↔
      Decisive (h.StemRejected store)
        fun name pairId => ∃ r, h.StemMatched store first second name r ∧ r.pairId = pairId := by
  have hanswer : ∀ order, store.activePairForPeerAt order h first second =
      search (store.matchStem h first second) (order.enumerate (h.trust .active)) >>=
        onHit fun r => .ok r.pairId := by
    intro order
    simp only [PairingStore.activePairForPeerAt, PairingStore.activeRecord]
    congr 1
    funext found
    cases found <;> rfl
  simp only [hanswer]
  rw [scan_onHit_order_iff]
  apply decisive_congr
  · intro name e
    simp only [reduceCtorEq, and_false, exists_false, or_false, matchStem_eq_error]
  · intro name pairId
    simp only [Except.ok.injEq, ← matchStem_eq_hit, and_assoc, exists_and_left]

/-! ### Recovery -/

omit [Serde] in
private theorem contextFromRecord_fields {r : PairingRecord} {context : PairedIdentityContext}
    (hok : store.contextFromRecord r identity = .ok context) :
    context.pairId = r.pairId ∧
      context.initiatorCertificate.toBytes = .ok r.initiatorCertificate ∧
      context.responderCertificate.toBytes = .ok r.responderCertificate ∧
      context.initiatorDeviceId = context.initiatorCertificate.deviceId ∧
      context.responderDeviceId = context.responderCertificate.deviceId ∧
      context.initiatorPublicKey = context.initiatorCertificate.publicKey ∧
      context.responderPublicKey = context.responderCertificate.publicKey := by
  simp only [PairingStore.contextFromRecord, PairingStore.contextFromRecordParts,
    PairedIdentityContext.fromValidatedRecord, bind_eq_ok, pure_eq_ok, bailIf_eq_ok, not_or,
    not_not, DeviceCertificate.fromBytes_eq_ok] at hok
  rcases hok with ⟨_, -, i, hi, rsp, hr, _, -, _, hfields, rfl⟩
  exact ⟨rfl, hi, hr, hfields.2.1.symm, hfields.2.2.1.symm, hfields.2.2.2.1.symm,
    hfields.2.2.2.2.symm⟩

omit [Serde] in
private theorem contextFromRecord_inj {r r' : PairingRecord}
    {context context' : PairedIdentityContext}
    (hok : store.contextFromRecord r identity = .ok context)
    (hok' : store.contextFromRecord r' identity = .ok context') :
    context = context' ↔ r.relationship = r'.relationship := by
  have hfields := contextFromRecord_fields hok
  have hfields' := contextFromRecord_fields hok'
  simp only [PairingRecord.relationship, Prod.mk.injEq]
  constructor
  · intro heq
    subst heq
    exact ⟨hfields.1.symm.trans hfields'.1,
      Except.ok.inj (hfields.2.1.symm.trans hfields'.2.1),
      Except.ok.inj (hfields.2.2.1.symm.trans hfields'.2.2.1)⟩
  · intro heq
    have hi : context.initiatorCertificate = context'.initiatorCertificate :=
      DeviceCertificate.toBytes_injective (heq.2.1 ▸ hfields.2.1) hfields'.2.1
    have hr : context.responderCertificate = context'.responderCertificate :=
      DeviceCertificate.toBytes_injective (heq.2.2 ▸ hfields.2.2.1) hfields'.2.2.1
    have hpair : context.pairId = context'.pairId := by
      rw [hfields.1, hfields'.1, heq.1]
    cases context with
    | mk p i rsp ki kr ci cr =>
        cases context' with
        | mk p' i' rsp' ki' kr' ci' cr' =>
            simp only at hfields hfields' hi hr hpair
            simp only [PairedIdentityContext.mk.injEq]
            exact ⟨hpair, by rw [hfields.2.2.2.1, hfields'.2.2.2.1, hi],
              by rw [hfields.2.2.2.2.1, hfields'.2.2.2.2.1, hr],
              by rw [hfields.2.2.2.2.2.1, hfields'.2.2.2.2.2.1, hi],
              by rw [hfields.2.2.2.2.2.2, hfields'.2.2.2.2.2.2, hr], hi, hr⟩

private theorem Host.Matched.context {name : FileName} {r : PairingRecord}
    (hmatched : h.Matched .pending store.validatePendingStored identity.deviceId second name r) :
    ∃ context, store.contextFromRecord r identity = .ok context :=
  contextFromRecord_ok hmatched.2.1 (hmatched.2.2.imp (fun hb => hb.1.symm) fun hb => hb.2.symm)

private theorem Host.StemMatched.context {name : FileName} {r : PairingRecord}
    (hmatched : h.StemMatched store identity.deviceId second name r) :
    ∃ context, store.contextFromRecord r identity = .ok context := by
  rcases hmatched.2 with ⟨pairId, -, hload, hbinds⟩
  have hpair := (PairingStore.load_hit hload).2.1
  have hvalid := (PairingStore.load_committed (hpair ▸ hload)).2
  exact contextFromRecord_ok (validatePendingStored_of_stored hvalid)
    (hbinds.imp (fun hb => hb.1.symm) fun hb => hb.2.symm)

/-- The pending scan of `recoveryContext`, with its answer built. -/
def pendingContext (store : PairingStore) (order : ReadDir) (h : Host) (identity : DeviceIdentity)
    (peer : Text) : Result (Option PairedIdentityContext) :=
  search (matchRound h .pending store.validatePendingStored identity.deviceId peer)
    (order.enumerate (h.trust .pending)) >>= onHit fun r => store.contextFromRecord r identity

/-- The active scan of `recoveryContext`, with its answer built. -/
def activeContext (store : PairingStore) (order : ReadDir) (h : Host) (identity : DeviceIdentity)
    (peer : Text) : Result (Option PairedIdentityContext) :=
  search (store.matchStem h identity.deviceId peer)
    (order.enumerate (h.trust .active)) >>= onHit fun r => store.contextFromRecord r identity

private theorem recoveryContext_eq (order : ReadDir) (hsecond : HexId second) :
    store.recoveryContext order h identity second =
      pendingContext store order h identity second >>= fun found =>
        match found with
        | some context => .ok (some context)
        | none => activeContext store order h identity second := by
  have hpending : store.pendingForPeer order h identity.deviceId second =
      search (matchRound h .pending store.validatePendingStored identity.deviceId second)
        (order.enumerate (h.trust .pending)) :=
    pendingForPeer_eq_search order (deviceIdForPublicKey_hexId identity.publicKey) hsecond
  rw [PairingStore.recoveryContext, hpending, pendingContext, activeContext,
    PairingStore.activeRecord]
  cases search (matchRound h .pending store.validatePendingStored identity.deviceId second)
      (order.enumerate (h.trust .pending)) with
  | error e => rfl
  | ok found =>
      cases found with
      | some r =>
          simp only [ok_bind, onHit]
          cases store.contextFromRecord r identity <;> rfl
      | none =>
          simp only [ok_bind, onHit]
          cases search (store.matchStem h identity.deviceId second)
              (order.enumerate (h.trust .active)) with
          | error e => rfl
          | ok found' => cases found' <;> rfl

/-- No pending file ends the scan of `recoveryContext`. -/
def Host.PendingQuiet (h : Host) (store : PairingStore) (identity : DeviceIdentity)
    (peer : Text) : Prop :=
  (∀ name e, ¬h.Rejected .pending store.validatePendingStored name e) ∧
    ∀ name r, ¬h.Matched .pending store.validatePendingStored identity.deviceId peer name r

private theorem pendingContext_eq_none (order : ReadDir) :
    pendingContext store order h identity second = .ok none ↔
      h.PendingQuiet store identity second := by
  rw [pendingContext, ← search_onHit, search_eq_none_iff]
  constructor
  · intro hmiss
    constructor
    · intro name e hrejected
      have hround := hmiss name ((order.mem_enumerate h .pending name).mpr hrejected.isSome)
      rw [(matchRound_eq_error ..).mpr hrejected] at hround
      cases hround
    · intro name r hmatched
      have hround := hmiss name ((order.mem_enumerate h .pending name).mpr hmatched.isSome)
      rcases hmatched.context with ⟨context, hcontext⟩
      rw [(matchRound_eq_hit ..).mpr hmatched] at hround
      simp only [ok_bind, onHit, hcontext] at hround
      cases hround
  · intro hquiet name _
    cases hround : matchRound h .pending store.validatePendingStored identity.deviceId second
        name with
    | error e => exact absurd ((matchRound_eq_error ..).mp hround) (hquiet.1 name e)
    | ok found =>
        cases found with
        | none => rfl
        | some r => exact absurd ((matchRound_eq_hit ..).mp hround) (hquiet.2 name r)

private theorem pendingContext_order_iff (h : Host) (store : PairingStore)
    (identity : DeviceIdentity)
    (peer : Text) :
    (∀ order order' : ReadDir, pendingContext store order h identity peer =
        pendingContext store order' h identity peer) ↔
      Decisive (h.Rejected .pending store.validatePendingStored) fun name relationship => ∃ r,
        h.Matched .pending store.validatePendingStored identity.deviceId peer name r ∧
          r.relationship = relationship := by
  simp only [pendingContext]
  rw [scan_onHit_order_iff, ← decisive_key_iff (f := fun r => store.contextFromRecord r identity)
    (fun _ _ hmatched => hmatched.context) fun _ _ _ _ _ _ _ _ => contextFromRecord_inj]
  apply decisive_congr
  · intro name e
    simp only [matchRound_eq_error, matchRound_eq_hit]
    constructor
    · rintro ⟨-, hrejected | ⟨r, hmatched, herror⟩⟩
      · exact hrejected
      · rcases hmatched.context with ⟨context, hcontext⟩
        rw [hcontext] at herror
        cases herror
    · exact fun hrejected => ⟨hrejected.isSome, .inl hrejected⟩
  · intro name context
    simp only [matchRound_eq_hit]
    exact ⟨And.right, fun hhit => ⟨hhit.elim fun _ hr => hr.1.isSome, hhit⟩⟩

private theorem activeContext_order_iff (h : Host) (store : PairingStore)
    (identity : DeviceIdentity)
    (peer : Text) :
    (∀ order order' : ReadDir, activeContext store order h identity peer =
        activeContext store order' h identity peer) ↔
      Decisive (h.StemRejected store) fun name relationship => ∃ r,
        h.StemMatched store identity.deviceId peer name r ∧ r.relationship = relationship := by
  simp only [activeContext]
  rw [scan_onHit_order_iff, ← decisive_key_iff (f := fun r => store.contextFromRecord r identity)
    (fun _ _ hmatched => hmatched.context) fun _ _ _ _ _ _ _ _ => contextFromRecord_inj]
  apply decisive_congr
  · intro name e
    rw [and_or_left, matchStem_eq_error]
    constructor
    · rintro (hrejected | ⟨hsome, r, hround, herror⟩)
      · exact hrejected
      · rcases ((matchStem_eq_hit r).mp ⟨hsome, hround⟩).context with ⟨context, hcontext⟩
        rw [hcontext] at herror
        cases herror
    · exact .inl
  · intro name context
    simp only [← matchStem_eq_hit, and_assoc, exists_and_left]

private theorem recoveryContext_order_iff (h : Host) (store : PairingStore)
    (identity : DeviceIdentity)
    (hsecond : HexId second) :
    (∀ order order' : ReadDir, store.recoveryContext order h identity second =
        store.recoveryContext order' h identity second) ↔
      (∀ order order' : ReadDir, pendingContext store order h identity second =
          pendingContext store order' h identity second) ∧
        (h.PendingQuiet store identity second →
          ∀ order order' : ReadDir, activeContext store order h identity second =
            activeContext store order' h identity second) := by
  have hquiet : h.PendingQuiet store identity second → ∀ order,
      store.recoveryContext order h identity second =
        activeContext store order h identity second := by
    intro hquiet order
    rw [recoveryContext_eq order hsecond, (pendingContext_eq_none order).mpr hquiet]
    rfl
  have hloud : ¬h.PendingQuiet store identity second → ∀ order,
      store.recoveryContext order h identity second =
        pendingContext store order h identity second := by
    intro hloud order
    have hne := mt (pendingContext_eq_none order).mp hloud
    rw [recoveryContext_eq order hsecond]
    cases hscan : pendingContext store order h identity second with
    | error e => rfl
    | ok found =>
        cases found with
        | none => exact absurd hscan hne
        | some context => rfl
  by_cases hq : h.PendingQuiet store identity second
  · simp only [hquiet hq, hq, forall_true_left, (pendingContext_eq_none _).mpr hq, implies_true,
      true_and]
  · simp only [hloud hq, hq, false_imp_iff, and_true]

end Lookups

/-- Lookups answer alike in every directory order, and fail closed, exactly when the files that
can stop one of them all stop it alike. -/
theorem orderIndependent_iff_unambiguous (h : Host) (store : PairingStore)
    (identity : DeviceIdentity) (first second : Text) :
    h.OrderIndependent store identity first second ↔
      h.Unambiguous store identity first second := by
  constructor
  · intro hfree
    have hrecovery := fun hsecond =>
      (recoveryContext_order_iff h store identity hsecond).mp hfree.recoveryContext
    constructor
    · exact (hasActivePairing_order_iff ..).mp hfree.hasActivePairing
    · exact (pendingForPeer_order_iff ..).mp hfree.pendingForPeer
    · exact (activePairForPeerAt_order_iff ..).mp hfree.activePairForPeerAt
    · intro hsecond
      exact (pendingContext_order_iff ..).mp (hrecovery hsecond).1
    · intro hsecond hvalid hunmatched
      exact (activeContext_order_iff ..).mp ((hrecovery hsecond).2 ⟨hvalid, hunmatched⟩)
  · intro hclear
    constructor
    · exact (hasActivePairing_order_iff ..).mpr hclear.active
    · exact (pendingForPeer_order_iff ..).mpr hclear.pending
    · by_cases hsecond : HexId second
      · apply (recoveryContext_order_iff h store identity hsecond).mpr
        constructor
        · exact (pendingContext_order_iff ..).mpr (hclear.recovery hsecond)
        · intro hquiet
          exact (activeContext_order_iff ..).mpr (hclear.repair hsecond hquiet.1 hquiet.2)
      · have hids : ¬(HexId identity.deviceId ∧ HexId second) := fun hids => hsecond hids.2
        rcases validateDeviceIds_error _ hids with ⟨e, he⟩
        have herror : ∀ order, store.recoveryContext order h identity second = .error e := by
          intro order
          have hpending : store.pendingForPeer order h identity.deviceId second = .error e := he _
          rw [PairingStore.recoveryContext, hpending]
          rfl
        intro order order'
        rw [herror, herror]
    · exact (activePairForPeerAt_order_iff ..).mpr hclear.stems
    · intro order name e hrejected
      apply hasActivePairing_failsClosed order _ hrejected
      intro hfirst hsecond name' r hmatched
      exact (hclear.active hfirst hsecond).alone hrejected (c := ()) ⟨r, hmatched⟩
    · intro hfirst hsecond order hvalid
      exact hasActivePairing_answers order hfirst hsecond hvalid

end Order

namespace Loopback

attribute [local instance] crypto noise PairingRecord.canonicalSerde
  PairingRecord.canonicalSerde_lawful

/-- The listing that ends with what `listing` starts with. -/
def backwards : ReadDir := ⟨fun d => d.keys.reverse, fun d => List.reverse_perm d.keys⟩

/-- An active pairing next to a file that holds no record. -/
def damaged : Host :=
  (endState Host.empty (activation.outcome (crashing 2) Host.empty).visited).put .active
    (ascii "damaged.json") []

/-- Listed after the record the damaged file is ignored, listed before it the lookup fails. -/
theorem not_orderIndependent_damaged :
    (store 200).hasActivePairing backwards damaged (deviceIdOf 2) (deviceIdOf 1) = .ok true ∧
      ((store 200).hasActivePairing listing damaged (deviceIdOf 2) (deviceIdOf 1)).isOk = false ∧
      ¬damaged.OrderIndependent (store 200) (identity 2) (deviceIdOf 2) (deviceIdOf 1) := by
  have hfound : (store 200).hasActivePairing backwards damaged (deviceIdOf 2) (deviceIdOf 1) =
      .ok true := by decide +kernel
  have hfails : ((store 200).hasActivePairing listing damaged (deviceIdOf 2)
      (deviceIdOf 1)).isOk = false := by decide +kernel
  refine ⟨hfound, hfails, ?_⟩
  intro hfree
  rw [hfree.hasActivePairing listing backwards, hfound] at hfails
  cases hfails

end Loopback

end OmarchySync
