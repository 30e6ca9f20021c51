import OmarchySync.Trust.Lifecycle
import OmarchySync.Trust.Lookup
import OmarchySync.Trust.Success
import OmarchySync.Trust.Tidy

/-!
# Writers and readers

The writers check certificates at the clock of the call, the readers at the time the record
carries. Where the two agree, every file a run leaves behind passes its reader, and lookups
answer from the committed records, also after a crash that leaves no temporary file.
-/

namespace OmarchySync

open Logic Wire Traced

/-- The record's certificates are valid at `time`. -/
def PairingRecord.CertificatesValidAt (r : PairingRecord) (time : UInt64) : Prop :=
  ∀ c : DeviceCertificate,
    c.toBytes = .ok r.initiatorCertificate ∨ c.toBytes = .ok r.responderCertificate →
      c.ValidAt time

private theorem PairingRecord.certificatesValidAt_setSignature {r : PairingRecord} {role : UInt8}
    {signature : Array8 64} {time : UInt64} :
    (r.setSignature role signature).CertificatesValidAt time ↔ r.CertificatesValidAt time := by
  unfold setSignature
  split <;> exact Iff.rfl

section Steps

variable [Crypto]

private theorem Attested.at_time {root : PinnedOmarchyRoot} {r : PairingRecord}
    {time time' : UInt64}
    (hattested : Attested root r time) (hvalid : r.CertificatesValidAt time') :
    Attested root r time' := by
  obtain ⟨initiator, responder, hcert, _, _⟩ := hattested
  exact ⟨initiator, responder, hcert, hvalid _ (.inl hcert.initiatorBytes),
    hvalid _ (.inr hcert.responderBytes)⟩

private theorem Attested.certificatesValidAt {root : PinnedOmarchyRoot} {r : PairingRecord}
    {time : UInt64} (hattested : Attested root r time) : r.CertificatesValidAt time := by
  obtain ⟨initiator, responder, hcert, hinitiator, hresponder⟩ := hattested
  intro c hc
  rcases hc with hc | hc
  · rw [DeviceCertificate.toBytes_injective hc hcert.initiatorBytes]
    exact hinitiator
  · rw [DeviceCertificate.toBytes_injective hc hcert.responderBytes]
    exact hresponder

variable [Noise]

/-- Whatever record the call's own validator accepts has certificates valid at the time the
record carries. -/
def Call.TimesAgree (call : Call) (S : Setting) : Prop :=
  match call.op with
  | .coSign session pending =>
      (call.store S).validateRecord pending session S.identity false true false = .ok () →
        pending.CertificatesValidAt pending.authorizedAt
  | .finalize session record =>
      (call.store S).validateRecord record session S.identity true true false = .ok () →
        record.CertificatesValidAt record.authorizedAt
  | .resumePrepare session pending =>
      (call.store S).validatePendingStored pending = .ok () →
        session.localCertificate.ValidAt pending.authorizedAt ∧
          session.peerCertificate.ValidAt pending.authorizedAt
  | _ => True

private theorem Call.timesAgree_coSign {S : Setting} {call : Call}
    {session : AuthenticatedPairingSession}
    {pending : PairingRecord} (hop : call.op = .coSign session pending)
    (htime : pending.authorizedAt = call.now) : call.TimesAgree S := by
  rw [Call.TimesAgree, hop]
  intro hvalid
  rw [htime]
  exact ((PairingStore.validateRecord_eq_ok ..).mp hvalid).attested.certificatesValidAt

private theorem Call.timesAgree_finalize {S : Setting} {call : Call}
    {session : AuthenticatedPairingSession} {record : PairingRecord}
    (hop : call.op = .finalize session record) (htime : record.authorizedAt = call.now) :
    call.TimesAgree S := by
  rw [Call.TimesAgree, hop]
  intro hvalid
  rw [htime]
  exact ((PairingStore.validateRecord_eq_ok ..).mp hvalid).attested.certificatesValidAt

private theorem recordFromSession_certificates {session : AuthenticatedPairingSession}
    {pairId : Text}
    {grant : AuthorizationGrant} {identity : DeviceIdentity} {base : PairingRecord} {time : UInt64}
    (hbase : recordFromSession session pairId grant identity = .ok base)
    (hlocal : session.localCertificate.ValidAt time) (hpeer : session.peerCertificate.ValidAt time) :
    base.CertificatesValidAt time := by
  have hroles : session.certificatesByRole.1.ValidAt time ∧
      session.certificatesByRole.2.ValidAt time := by
    unfold AuthenticatedPairingSession.certificatesByRole
    split
    · exact ⟨hlocal, hpeer⟩
    · exact ⟨hpeer, hlocal⟩
  simp only [recordFromSession, bind_eq_ok, pure_eq_ok] at hbase
  obtain ⟨initiatorBytes, hinitiator, responderBytes, hresponder, rfl⟩ := hbase
  intro c hc
  rcases hc with hc | hc
  · rw [DeviceCertificate.toBytes_injective hc hinitiator]
    exact hroles.1
  · rw [DeviceCertificate.toBytes_injective hc hresponder]
    exact hroles.2

omit [Crypto] [Noise] in
private theorem PairingRecord.signed_setSignature (r : PairingRecord) (role : UInt8)
    (signature : Array8 64) :
    ¬((r.setSignature role signature).initiatorSignature = none ∧
      (r.setSignature role signature).responderSignature = none) := by
  unfold PairingRecord.setSignature
  split <;> simp

private theorem PendingGround.validatePendingStored {S : Setting} {call : Call}
    {journal : List Event}
    {session : AuthenticatedPairingSession} {unsigned record : PairingRecord}
    (hground : PendingGround (call.store S) S.identity journal call.op session unsigned record)
    (htimes : call.TimesAgree S) : (call.store S).validatePendingStored record = .ok () := by
  have hattested : Attested S.root record call.now := hground.fits.attested
  have hvalid : Attested S.root record record.authorizedAt := by
    have hrecord := hground.result
    have hsign := hground.ground
    generalize hop : call.op = op, localRole session = role at hsign
    cases hsign with
    | prepare _ _ _ _ =>
        have htime : record.authorizedAt = call.now := by
          rw [hrecord, PairingRecord.authorizedAt_setSignature]
          rfl
        rw [htime]
        exact hattested
    | coSign _ _ hfits _ =>
        rw [Call.TimesAgree, hop] at htimes
        have hcerts := htimes ((PairingStore.validateRecord_eq_ok _ _ _ _ _ _ _ ()).mpr hfits)
        apply hattested.at_time
        rw [hrecord, PairingRecord.certificatesValidAt_setSignature,
          PairingRecord.authorizedAt_setSignature]
        exact hcerts
    | resumePrepare _ hstored _ hbase =>
        rw [Call.TimesAgree, hop] at htimes
        have hcerts := htimes hstored
        have hbaseCerts := recordFromSession_certificates hbase hcerts.1 hcerts.2
        apply hattested.at_time
        rw [hrecord, PairingRecord.certificatesValidAt_setSignature,
          PairingRecord.authorizedAt_setSignature]
        exact hbaseCerts
  refine (PairingStore.validatePendingStored_eq_ok _ _ ()).mpr ⟨?_, hvalid⟩
  rw [hground.result]
  exact PairingRecord.signed_setSignature _ _ _

private theorem ActiveGround.validateStored {S : Setting} {call : Call} {record : PairingRecord}
    (hground : ActiveGround (call.store S) S.identity call.op record)
    (htimes : call.TimesAgree S) : (call.store S).validateStored record = .ok () := by
  refine (PairingStore.validateStored_eq_ok _ _ ()).mpr ?_
  generalize hop : call.op = op at hground
  cases hground with
  | finalize _ hfits =>
      rw [Call.TimesAgree, hop] at htimes
      have hcerts := htimes ((PairingStore.validateRecord_eq_ok _ _ _ _ _ _ _ ()).mpr hfits)
      exact ⟨hfits.complete rfl, hfits.attested.at_time hcerts⟩
  | reconcile _ hfits => exact ⟨hfits.complete rfl, hfits.attested⟩

variable [Serde] [LawfulSerde]

/-- The record files of both directories pass their readers; temporary files may exist. -/
structure Host.Readable (h : Host) (store : PairingStore) : Prop where
  active : ∀ pairId bytes, HexId pairId → h.file .active (recordFile pairId) = some bytes →
    ∃ r, r.pairId = pairId ∧ PairingRecord.fromBytes bytes = .ok r ∧
      store.validateStored r = .ok ()
  pending : ∀ pairId bytes, HexId pairId → h.file .pending (recordFile pairId) = some bytes →
    ∃ r, r.pairId = pairId ∧ PairingRecord.fromBytes bytes = .ok r ∧
      store.validatePendingStored r = .ok ()

omit [LawfulSerde] [Noise] in
private theorem Host.Readable.wellKept {h : Host} {store : PairingStore}
    (hreadable : h.Readable store)
    (htidy : h.Tidy) : h.WellKept store := by
  constructor
  · intro name bytes hfile
    obtain ⟨pairId, hid, rfl⟩ := htidy .active name (by rw [hfile]; rfl)
    obtain ⟨r, rfl, hread, hvalid⟩ := hreadable.active pairId bytes hid hfile
    exact ⟨r, hid, rfl, hread, hvalid⟩
  · intro name bytes hfile
    obtain ⟨pairId, hid, rfl⟩ := htidy .pending name (by rw [hfile]; rfl)
    obtain ⟨r, rfl, hread, hvalid⟩ := hreadable.pending pairId bytes hid hfile
    exact ⟨r, hid, rfl, hread, hvalid⟩

private theorem StoreStep.readable {S : Setting} {call : Call} {l : FsStep} {h g : Host}
    {now : UInt64}
    (hstep : StoreStep (call.store S) call.env S.identity call.op l h g)
    (htimes : call.TimesAgree S) (hreadable : h.Readable ⟨S.root, now⟩) :
    g.Readable ⟨S.root, now⟩ := by
  have hstored : ∀ r : PairingRecord, r.Shaped → r.toVec.length ≤ maxRecordBytes →
      PairingRecord.fromBytes r.toVec = .ok r :=
    fun r hshape hsize =>
      PairingRecord.fromBytes_toBytes ((PairingRecord.toBytes_eq_ok _ _).mpr ⟨hsize, rfl⟩) hshape
  constructor
  · intro pairId bytes hid hfile
    rcases hstep.active_file hid hfile with hold | ⟨record, hground, hrecord, rfl, hsize⟩
    · exact hreadable.active pairId bytes hid hold
    · exact ⟨record, hrecord, hstored record hground.shaped hsize, hground.validateStored htimes⟩
  · intro pairId bytes hid hfile
    rcases hstep.pending_file hid hfile with
      hold | ⟨session, unsigned, record, hground, hrecord, rfl, hsize⟩
    · exact hreadable.pending pairId bytes hid hold
    · exact ⟨record, hrecord, hstored record hground.fits.attested.shaped hsize,
        hground.validatePendingStored htimes⟩

/-- The store stays readable over runs whose calls agree on times. -/
theorem Run.readable {S : Setting} {start h : Host} {calls : List Call} {now : UInt64}
    (htimes : ∀ h call, S.allowed h call → call.TimesAgree S) (hrun : Run S start calls h)
    (hstart : start.Readable ⟨S.root, now⟩) : h.Readable ⟨S.root, now⟩ := by
  refine hrun.invariant (I := fun _ a => a.Readable ⟨S.root, now⟩) hstart
    (fun _ _ _ ha => ha) (fun _ _ _ _ ha => ⟨ha.active, ha.pending⟩) ?_
  intro _ call h hallowed _ l a b _ hstep ha
  exact hstep.readable (htimes h call hallowed) ha

omit [LawfulSerde] [Noise] in
private theorem empty_readable (store : PairingStore) : Host.empty.Readable store := by
  constructor <;> intro pairId bytes _ hfile <;> cases (Host.file_empty _ _).symm.trans hfile

omit [Crypto] [Noise] [Serde] [LawfulSerde] in
private theorem empty_tidy : Host.empty.Tidy := by
  intro folder name hsome
  rw [Host.file_empty] at hsome
  cases hsome

/-- Every file a run leaves behind passes its reader and every lookup succeeds, at whatever
time the store is reopened, if the calls agree on times and none is interrupted. -/
theorem readers_agree_of_timesAgree {S : Setting} {calls : List Call} {h : Host}
    (hcut : ∀ l, ¬S.cut l) (htimes : ∀ h call, S.allowed h call → call.TimesAgree S)
    (hrun : Run S Host.empty calls h) (now : UInt64) (order : ReadDir) :
    h.WellKept ⟨S.root, now⟩ ∧ h.Answers ⟨S.root, now⟩ order := by
  have htidy : h.Tidy := hrun.tidy (fun l hl => absurd hl (hcut l)) empty_tidy
  have hkept : h.WellKept ⟨S.root, now⟩ :=
    (hrun.readable htimes (empty_readable _)).wellKept htidy
  exact ⟨hkept, hkept.answers order⟩

omit [LawfulSerde] in
private theorem Call.revoke_file {S : Setting} {call : Call} {h : Host} {pairId : Text}
    (hop : call.op = .revoke pairId) (hok : (call.outcome S h).result = .ok ()) :
    (endState h (call.outcome S h).visited).file .active (recordFile pairId) = none := by
  have hkeeps : Keeps AnyStep (call.op.run (call.store S) call.env S.identity)
      (fun r g => r = .ok () → g.file .active (recordFile pairId) = none) h := by
    rw [hop]
    simp only [Op.run, PairingStore.revoke, keeps_lift_bind, keeps_read_bind, keeps_step,
      recordPath_eq_ok, reduceCtorEq, false_implies, implies_true, and_true, forall_true_left,
      true_and]
    intro path hpath found hfound record hrecord _ _ _ _
    obtain ⟨_, rfl⟩ := hpath
    obtain rfl := (someOr_eq_ok _ _ _).mp hrecord
    obtain ⟨bytes, hfile, _⟩ := (readRecord_eq_ok h .active _ record).mp hfound
    exact Host.file_rename_source hfile (by simp)
  exact hkeeps.2 hok

/-- The lookups answer from committed records, and a pairing whose only committed record is
revoked is no longer active. -/
structure Host.CrashSafe (S : Setting) (h : Host) : Prop where
  answers : ∀ now order, h.Answers ⟨S.root, now⟩ order
  revoked : ∀ (call : Call) pairId, call.op = .revoke pairId →
    (call.outcome S h).result = .ok () → ∀ first second, HexId first → HexId second →
    (∀ r, h.Committed .active r → r.binds first second → r.pairId = pairId) →
    ∀ now order, PairingStore.hasActivePairing ⟨S.root, now⟩ order
      (endState h (call.outcome S h).visited) first second = .ok false

/-- The store is safe against crashes other than those right after a temporary file was created
or written, if the calls agree on times. -/
theorem crashSafe_of_timesAgree {S : Setting} {calls : List Call} {h : Host}
    (hcut : ∀ l, S.cut l → l ≠ .create ∧ l ≠ .write)
    (htimes : ∀ h call, S.allowed h call → call.TimesAgree S)
    (hrun : Run S Host.empty calls h) : h.CrashSafe S := by
  have htidy : h.Tidy := hrun.tidy hcut empty_tidy
  have hreadable : ∀ now, h.Readable ⟨S.root, now⟩ :=
    fun now => hrun.readable htimes (empty_readable _)
  refine ⟨fun now order => ((hreadable now).wellKept htidy).answers order, ?_⟩
  intro call pairId hop hok first second hfirst hsecond honly now order
  have hagree : call.TimesAgree S := by
    rw [Call.TimesAgree, hop]
    trivial
  have hends : call.Ends S h (endState h (call.outcome S h).visited) := .completes
  have htidy' : (endState h (call.outcome S h).visited).Tidy := (call.op.keeps_tidy htidy).2
  have hreadable' := hends.invariant (I := fun a => a.Readable ⟨S.root, now⟩)
    (fun l a b _ hstep ha => hstep.readable hagree ha) (hreadable now)
  have hkept := hreadable'.wellKept htidy'
  obtain ⟨found, hfound, hiff⟩ := hkept.active.hasActivePairing order hfirst hsecond
  cases found with
  | false => exact hfound
  | true =>
      obtain ⟨r, hcommitted, hbinds⟩ := hiff.mp rfl
      obtain ⟨bytes, hfile, hread⟩ := hcommitted.stored
      -- a revocation adds no active file, so the record was committed before
      have hbefore := hends.invariant
        (I := fun a => a.file .active (recordFile r.pairId) = some bytes →
          h.file .active (recordFile r.pairId) = some bytes)
        (by
          intro l a b _ hstep ha hb
          rcases hstep.active_file hcommitted.pairId hb with hold | ⟨_, hground, _⟩
          · exact ha hold
          · rw [hop] at hground
            cases hground)
        id hfile
      have hpair := honly r ⟨hcommitted.pairId, bytes, hbefore, hread⟩ hbinds
      rw [hpair, Call.revoke_file hop hok] at hfile
      cases hfile

end Steps

namespace Loopback

attribute [local instance] crypto noise PairingRecord.canonicalSerde
  PairingRecord.canonicalSerde_lawful

/-- One device whose calls agree on times and that may be interrupted as `cut` says. -/
def timely (b : UInt8) (cut : FsStep → Prop) : Setting where
  root := root
  identity := identity b
  cut
  allowed _ call := call.TimesAgree ⟨root, identity b, cut, fun _ _ => True⟩

/-- One device that is never interrupted. -/
def uncrashed (b : UInt8) : Setting := ⟨root, identity b, fun _ => False, fun _ _ => True⟩

/-- The responder authorizes the initiator. -/
def authorization : Call :=
  ⟨100, env, .prepare (sessionOf 7 2 1 roleResponder) fun _ => .ok ⟨marker⟩⟩

/-- Towards a third device it initiates, and signs what that device has authorized. -/
def coSigning : Call :=
  ⟨100, env, .coSign (sessionOf 9 2 3 roleInitiator)
    (signedBy (recordOf 9 2 3 3 100) 3 roleResponder)⟩

/-- The responder's device after an uninterrupted call. -/
def completed (call : Call) (h : Host) : Host := endState h (call.outcome (crashing 2) h).visited

theorem readers_agree_of_timesAgree_coSigning :
    (completed coSigning (completed authorization Host.empty)).WellKept (store 5000) ∧
      (completed coSigning (completed authorization Host.empty)).Answers (store 5000) listing := by
  have hauthorized : Run (timely 2 fun _ => False) Host.empty ([] ++ [authorization])
      (completed authorization Host.empty) := .call .start trivial .completes
  have hagree : ∀ S, coSigning.TimesAgree S := fun _ => Call.timesAgree_coSign rfl rfl
  have hallowed : (timely 2 fun _ => False).allowed (completed authorization Host.empty)
      coSigning := hagree ⟨root, identity 2, fun _ => False, fun _ _ => True⟩
  exact readers_agree_of_timesAgree (fun _ => id) (fun _ _ h => h)
    (.call hauthorized hallowed .completes) 5000 listing

/-- The state a trace is in after its `n`-th step. -/
def stateAt (visited : List (FsStep × Host)) (n : Nat) : Host :=
  (visited[n]?.map Prod.snd).getD Host.empty

theorem stateAt_mem {visited : List (FsStep × Host)} {n : Nat} {l : FsStep}
    (hn : (visited.map Prod.fst)[n]? = some l) : (l, stateAt visited n) ∈ visited := by
  rw [List.getElem?_map, Option.map_eq_some_iff] at hn
  obtain ⟨⟨l', h⟩, hget, rfl⟩ := hn
  rw [stateAt, hget]
  exact List.mem_of_getElem? hget

/-- The activation has renamed its record into place and not yet removed the pending one. -/
def uncleaned : Host :=
  stateAt (activation.outcome (crashing 2) (completed authorization Host.empty)).visited 2

theorem crashSafe_of_timesAgree_uncleaned :
    uncleaned.CrashSafe (timely 2 fun l => l = .rename) := by
  have hauthorized : Run (timely 2 fun l => l = .rename) Host.empty ([] ++ [authorization])
      (completed authorization Host.empty) := .call .start trivial .completes
  have hagree : ∀ S, activation.TimesAgree S := fun _ => Call.timesAgree_finalize rfl rfl
  have hallowed : (timely 2 fun l => l = .rename).allowed (completed authorization Host.empty)
      activation := hagree ⟨root, identity 2, fun l => l = .rename, fun _ _ => True⟩
  have hstep : ((activation.outcome (crashing 2)
      (completed authorization Host.empty)).visited.map Prod.fst)[2]? = some .rename := by
    decide +kernel
  have hrun : Run (timely 2 fun l => l = .rename) Host.empty ([] ++ [authorization] ++ [activation])
      uncleaned := .call hauthorized hallowed (.interrupted (stateAt_mem hstep) rfl)
  refine crashSafe_of_timesAgree ?_ (fun _ _ h => h) hrun
  intro l hl
  rw [show l = .rename from hl]
  decide

/-- The state an interruption after the `n`-th step of `activation` leaves behind. -/
def interruptedAt (n : Nat) : Host :=
  stateAt (activation.outcome (crashing 2) Host.empty).visited n

private theorem run_interruptedAt {n : Nat} (hn : n < 3) :
    Run (crashing 2) Host.empty [activation] (interruptedAt n) := by
  have hsteps : (activation.outcome (crashing 2) Host.empty).visited.map Prod.fst =
      [.create, .write, .rename] := by decide +kernel
  obtain ⟨l, hl⟩ : ∃ l, ([.create, .write, .rename] : List FsStep)[n]? = some l :=
    ⟨_, List.getElem?_eq_getElem hn⟩
  exact Run.start.call trivial (.interrupted (stateAt_mem (hsteps ▸ hl)) trivial)

/-- Stopped right after creating its temporary file, an activation makes lookups fail; stopped
right after writing it, the temporary file counts as an active record. -/
theorem not_crashSafe_interrupted :
    ¬(∀ calls h, Run (crashing 2) Host.empty calls h → h.CrashSafe (crashing 2)) ∧
      ((store 200).hasActivePairing listing (interruptedAt 0) (deviceIdOf 2) (deviceIdOf 1)).isOk =
        false ∧
      (store 200).hasActivePairing listing (interruptedAt 1) (deviceIdOf 2) (deviceIdOf 1) =
        .ok true ∧
      ((store 200).activePairForPeerAt listing (interruptedAt 1) (deviceIdOf 2)
        (deviceIdOf 1)).isOk = false := by
  have hfacts : ((store 200).hasActivePairing listing (interruptedAt 0) (deviceIdOf 2)
        (deviceIdOf 1)).isOk = false ∧
      (store 200).hasActivePairing listing (interruptedAt 1) (deviceIdOf 2) (deviceIdOf 1) =
        .ok true ∧
      ((store 200).activePairForPeerAt listing (interruptedAt 1) (deviceIdOf 2)
        (deviceIdOf 1)).isOk = false := by
    decide +kernel
  refine ⟨?_, hfacts⟩
  intro hall
  obtain ⟨hcreated, -⟩ := hfacts
  obtain ⟨found, hfound, _⟩ := ((hall _ _ (run_interruptedAt (n := 0) (by decide))).answers 200
    listing).hasActivePairing _ _ (deviceIdForPublicKey_hexId (keyOf 2))
    (deviceIdForPublicKey_hexId (keyOf 1))
  change (store 200).hasActivePairing listing _ (deviceIdOf 2) (deviceIdOf 1) = .ok found at hfound
  rw [hfound] at hcreated
  cases hcreated

/-- The responder signs a record dated before the certificates were valid. -/
def backdated : Call :=
  ⟨100, env, .coSign (sessionOf 7 2 1 roleResponder) (signedBy (recordOf 7 1 2 1 5) 1 roleInitiator)⟩

/-- The file of a backdated record fails its reader, also in lookups of other peers. -/
theorem coSign_backdated :
    ¬(∀ calls h, Run (uncrashed 2) Host.empty calls h → h.WellKept (store 200)) ∧
      ∃ h, Run (uncrashed 2) Host.empty [backdated] h ∧
        ((store 200).pendingForPeer listing h (deviceIdOf 2) (deviceIdOf 3)).isOk = false := by
  have hrun : Run (uncrashed 2) Host.empty [backdated]
      (endState Host.empty (backdated.outcome (uncrashed 2) Host.empty).visited) :=
    Run.start.call trivial .completes
  have hfails : ((store 200).pendingForPeer listing
      (endState Host.empty (backdated.outcome (uncrashed 2) Host.empty).visited) (deviceIdOf 2)
      (deviceIdOf 3)).isOk = false := by decide +kernel
  refine ⟨fun hall => ?_, _, hrun, hfails⟩
  obtain ⟨found, hfound, _⟩ := (hall _ _ hrun).pending.pendingForPeer listing
    (deviceIdForPublicKey_hexId (keyOf 2)) (deviceIdForPublicKey_hexId (keyOf 3))
  change (store 200).pendingForPeer listing _ (deviceIdOf 2) (deviceIdOf 3) = .ok found at hfound
  rw [hfound] at hfails
  cases hfails

end Loopback

end OmarchySync
