import OmarchySync.Pairing.SingleHandshake
import OmarchySync.Runtime.Solo
import OmarchySync.Trust.Activation
import OmarchySync.Trust.Success

/-!
# What the success of a driver means

A driver that returns without an error should leave its device with an active record of the
pairing, and a responder should acknowledge only such a record.
-/

namespace OmarchySync

open Logic Wire Traced PairingM

section Trust

variable [Crypto] [Noise]

variable [Serde]

/-- The device holds an active, complete record of the two devices. -/
def Host.Established (h : Host) (first second : Text) : Prop :=
  ∃ r : PairingRecord, h.Committed .active r ∧ r.isComplete = true ∧ r.binds first second

section Store

variable {store : PairingStore} {env : Env} {session : AuthenticatedPairingSession}
  {identity : DeviceIdentity} {record : PairingRecord} {peer : Text} {h : Host}

private theorem persistActive_establishes [LawfulSerde] {bound stored : Bool}
    (hid : validateSessionIdentity session identity = .ok ())
    (hfits : PairingStore.FitsSession store record session identity true bound stored)
    (hmeets : session.Meets peer) :
    Keeps AnyStep (persistActive env record)
      (fun r g => r = .ok () → g.Established identity.deviceId peer) h := by
  have hshaped := hfits.attested.shaped
  refine (persistActive_stores env hshaped).post ?_
  intro r g hstored hok
  exact ⟨record, ⟨hshaped.pairId, hstored hok⟩, hfits.complete rfl,
    hmeets.certificate ▸ hfits.binds hid⟩

private theorem finalize_establishes [LawfulSerde] (hmeets : session.Meets peer) :
    Keeps AnyStep (store.finalize env session identity record)
      (fun r g => r = .ok () → g.Established identity.deviceId peer) h := by
  simp only [PairingStore.finalize, keeps_lift_bind, PairingStore.validateRecord_eq_ok,
    reduceCtorEq, false_implies, implies_true, and_true]
  intro _ hid _ hfits
  exact persistActive_establishes hid hfits hmeets

private theorem reconcile_establishes [LawfulSerde] (hmeets : session.Meets peer) :
    Keeps AnyStep (store.reconcile env session identity record)
      (fun r g => r = .ok () → g.Established identity.deviceId peer) h := by
  simp only [PairingStore.reconcile, keeps_lift_bind, PairingStore.validateRecord_eq_ok,
    reduceCtorEq, false_implies, implies_true, and_true]
  intro _ hid _ hfits
  exact persistActive_establishes hid hfits hmeets

theorem StoreStep.established {op : Op} {l : FsStep} {g : Host} {first second : Text}
    (hop : op.activates = none) (hstep : StoreStep store env identity op l h g)
    (hestablished : g.Established first second) : h.Established first second := by
  obtain ⟨r, hcommitted, hrest⟩ := hestablished
  obtain ⟨bytes, hfile, hread⟩ := hcommitted.stored
  rcases hstep.active_file hcommitted.pairId hfile with hold | hnew
  · exact ⟨r, ⟨hcommitted.pairId, bytes, hold, hread⟩, hrest⟩
  · obtain ⟨r', hground, -⟩ := hnew
    rw [hground.activates] at hop
    cases hop

end Store

section Drivers

variable {rt : Runtime} {os : Opening} {env env' : Env} {store : PairingStore}
  {session : AuthenticatedPairingSession} {peer : Text} {stream start : Bytes} {h : Host}

/-- Every acknowledgement is sent by a device that holds the record. -/
def AcknowledgesTrust (first second : Text) (l : DriverStep) (_ g : Host) : Prop :=
  l = .sent .finalized → g.Established first second

/-- The driver ends in an established pairing with the peer of the session it returns. -/
def EndsTrusted (first second : Text) (r : Result AuthenticatedPairingSession) (g : Host) : Prop :=
  ∀ session, r = .ok session → session.peerDeviceId = second ∧ g.Established first second

omit [Crypto] in
private theorem endsTrusted_error {first second : Text} {e : String} {g : Host} :
    EndsTrusted first second (.error e) g := by
  intro session hsession
  cases hsession

omit [Crypto] [Noise] in
private theorem acknowledgesTrust_store (first second : Text) (l : FsStep) (g g' : Host) :
    AcknowledgesTrust first second (.store l) g g' := by
  intro hl
  cases hl

omit [Crypto] [Noise] [Serde] in
private theorem onStore_keeps {α : Type} {R : DriverStep → Host → Host → Prop} {m : StoreM α}
    {Q : Result α → Host → Prop} (hR : ∀ l g g', R (.store l) g g') (hm : Keeps AnyStep m Q h) :
    Keeps R (onStore m) Q h := by
  apply (keeps_relabel _ _).mpr
  apply hm.mono
  · intro l g g' _
    exact hR l g g'
  · intro r g hr
    exact hr

private theorem awaitFinalized_trusted [LawfulSerde] [AppSerde] {complete : PairingRecord}
    (hmeets : session.Meets peer) :
    Keeps (AcknowledgesTrust rt.identity.deviceId peer)
      (awaitFinalized rt env store session complete stream)
      (EndsTrusted rt.identity.deviceId peer) h := by
  simp only [awaitFinalized, keeps_lift_bind, endsTrusted_error, implies_true, and_true]
  intro received hreceived _ _
  have hmeets' := hmeets.sameEnds (receive_sameEnds hreceived)
  rw [keeps_bind]
  refine (onStore_keeps (acknowledgesTrust_store _ _) (reconcile_establishes hmeets')).post ?_
  intro r g hr
  cases r with
  | error e => exact endsTrusted_error
  | ok u =>
      apply (keeps_pure _).mpr
      intro session' hsession'
      cases hsession'
      exact ⟨hmeets'.peer, hr rfl⟩

private theorem runInitiator_trusted [LawfulSerde] [AppSerde] :
    Keeps (AcknowledgesTrust rt.identity.deviceId rt.peerDeviceId)
      (runInitiator rt os env env' stream)
      (EndsTrusted rt.identity.deviceId rt.peerDeviceId) h := by
  simp only [runInitiator, keeps_read_bind, keeps_lift_bind, endsTrusted_error, implies_true,
    and_true]
  intro opened hopened authenticated hauthenticated
  have hmeets := authenticateInitiator_meets (openInitiator_expects hopened) hauthenticated
  rw [keeps_bind]
  refine keeps_send ?_ fun _ => endsTrusted_error
  intro sent hsent
  refine ⟨fun h => (by cases h), ?_⟩
  simp only [keeps_lift_bind, endsTrusted_error, implies_true, and_true]
  intro received hreceived
  have hmeets' := (hmeets.sameEnds (sendMessage_sameEnds hsent)).sameEnds (receive_sameEnds hreceived)
  cases received.1 with
  | complete bytes =>
      simp only [keeps_lift_bind, endsTrusted_error, implies_true, and_true]
      intro _ _ complete _
      exact awaitFinalized_trusted hmeets'
  | prepared bytes =>
      simp only [keeps_lift_bind, endsTrusted_error, implies_true, and_true]
      intro record _
      rw [keeps_bind]
      refine (onStore_keeps (acknowledgesTrust_store _ _) (keeps_anyStep.mpr trivial)
        (Q := fun _ _ => True)).post ?_
      intro r g _
      cases r with
      | error e => exact endsTrusted_error
      | ok complete =>
          simp only [keeps_lift_bind, endsTrusted_error, implies_true, and_true]
          intro bytes _
          rw [keeps_bind]
          refine keeps_send ?_ fun _ => endsTrusted_error
          intro sent hsent
          refine ⟨fun h => (by cases h), ?_⟩
          exact awaitFinalized_trusted (hmeets'.sameEnds (sendMessage_sameEnds hsent))
  | _ =>
      simp only [keeps_lift]
      exact endsTrusted_error

variable [AppSerde]

/-- The record with which the initiator answers the offer, when the responder can still
acknowledge it. -/
def answeredRecord (rt : Runtime) (os : Opening) (env : Env) (broker : AuthorizationBroker)
    (start stream : Bytes) (h : Host) : Result PairingRecord := do
  let (found, session, stream) ← awaitRequest rt os h start stream
  bailIf (found.activePair ≠ none) "the devices are already paired"
  let offered ← (offerRecord rt env broker ⟨rt.root, os.opened⟩ found session h).result
  let (message, session, _) ← receive offered stream
  match message with
  | .complete bytes =>
      let record ← PairingRecord.fromBytes bytes
      let _ ← sendMessage session .finalized
      return record
  | _ => .error "expected completed pairing record"

omit [AppSerde] in
private theorem presentActive_trusted {found : Found} {pairId : Text}
    (hmeets : session.Meets rt.peerDeviceId) (hfound : found.At rt os h start)
    (hpaired : found.activePair = some pairId) :
    Keeps (AcknowledgesTrust rt.identity.deviceId rt.peerDeviceId)
      (presentActive ⟨rt.root, os.opened⟩ session pairId)
      (EndsTrusted rt.identity.deviceId rt.peerDeviceId) h := by
  have hactive := hfound.activePair
  rw [hpaired] at hactive
  obtain ⟨r, hload, hbinds⟩ := PairingStore.activePairForPeerAt_hit hactive
  obtain ⟨hcommitted, hvalid⟩ := PairingStore.load_committed hload
  have hcomplete := ((PairingStore.validateStored_eq_ok ..).mp hvalid).1
  have hestablished : h.Established rt.identity.deviceId rt.peerDeviceId :=
    ⟨r, hcommitted, hcomplete, hbinds⟩
  simp only [presentActive, keeps_read_bind, keeps_lift_bind, endsTrusted_error, implies_true,
    and_true]
  intro _ _ _ _ _ _
  rw [keeps_bind]
  refine keeps_send ?_ fun _ => endsTrusted_error
  intro sent hsent
  refine ⟨fun h => (by cases h), ?_⟩
  refine keeps_send ?_ fun _ => endsTrusted_error
  intro sent' hsent'
  refine ⟨fun _ => hestablished, ?_⟩
  intro session' hsession'
  cases hsession'
  have hmeets' := (hmeets.sameEnds (sendMessage_sameEnds hsent)).sameEnds (sendMessage_sameEnds hsent')
  exact ⟨hmeets'.peer, hestablished⟩

omit [AppSerde] in
private theorem offerRecord_meets {broker : AuthorizationBroker} {found : Found}
    (hmeets : session.Meets peer) {first second : Text} :
    Keeps (AcknowledgesTrust first second) (offerRecord rt env broker store found session)
      (fun r _ => ∀ session', r = .ok session' → session'.Meets peer) h := by
  simp only [offerRecord]
  rw [keeps_bind]
  refine (onStore_keeps (acknowledgesTrust_store _ _) (keeps_anyStep.mpr trivial)
        (Q := fun _ _ => True)).post ?_
  intro r g _
  cases r with
  | error e =>
      intro session' hsession'
      cases hsession'
  | ok prepared =>
      simp only [keeps_lift_bind, reduceCtorEq, false_implies, implies_true, and_true]
      intro bytes _
      refine keeps_send ?_ fun _ _ h => (by cases h)
      intro sent hsent
      refine ⟨fun h => (by cases h), ?_⟩
      intro session' hsession'
      cases hsession'
      exact hmeets.sameEnds (sendMessage_sameEnds hsent)

omit [AppSerde] in
private theorem activateRecord_establishes [LawfulSerde] {complete : PairingRecord}
    (hmeets : session.Meets peer) (hcomplete : complete.isComplete = true) :
    Keeps AnyStep (activateRecord rt env store session complete)
      (fun r g => r = .ok () → g.Established rt.identity.deviceId peer) h := by
  rw [activateRecord, if_pos hcomplete, keeps_ite]
  exact ⟨fun _ => finalize_establishes hmeets, fun _ => reconcile_establishes hmeets⟩

private theorem takeRecord_trusted [LawfulSerde] (hmeets : session.Meets peer)
    (hanswer : ∀ bytes session' rest record acknowledged,
      receive session stream = .ok (.complete bytes, session', rest) →
      PairingRecord.fromBytes bytes = .ok record →
      sendMessage session' .finalized = .ok acknowledged → record.isComplete = true) :
    Keeps (AcknowledgesTrust rt.identity.deviceId peer)
      (takeRecord rt env store session stream) (EndsTrusted rt.identity.deviceId peer) h := by
  simp only [takeRecord, keeps_lift_bind, endsTrusted_error, implies_true, and_true, Prod.forall]
  intro message session' rest hreceived
  have hmeets' := hmeets.sameEnds (receive_sameEnds hreceived)
  cases message with
  | complete bytes =>
      simp only [keeps_lift_bind, endsTrusted_error, implies_true, and_true]
      intro complete hcomplete
      rw [keeps_bind]
      have hstored : Keeps AnyStep (activateRecord rt env store session' complete)
          (fun r g => r = .ok () → ∀ acknowledged,
            sendMessage session' .finalized = .ok acknowledged →
            g.Established rt.identity.deviceId peer) h := by
        by_cases hboth : complete.isComplete = true
        · refine (activateRecord_establishes hmeets' hboth).post ?_
          intro r g hr hok _ _
          exact hr hok
        · apply keeps_anyStep.mpr
          intro _ acknowledged hsent
          exact absurd (hanswer _ _ _ _ _ hreceived hcomplete hsent) hboth
      refine (onStore_keeps (acknowledgesTrust_store _ _) hstored).post ?_
      intro r g hr
      cases r with
      | error e => exact endsTrusted_error
      | ok u =>
          refine keeps_send ?_ fun _ => endsTrusted_error
          intro sent hsent
          have hestablished := hr rfl sent hsent
          refine ⟨fun _ => hestablished, ?_⟩
          intro session' hsession'
          cases hsession'
          exact ⟨(hmeets'.sameEnds (sendMessage_sameEnds hsent)).peer, hestablished⟩
  | _ =>
      simp only [keeps_lift]
      exact endsTrusted_error

private theorem runResponderWithStart_trusted [LawfulSerde] {broker : AuthorizationBroker}
    (hbilateral : ∀ record, answeredRecord rt os env broker start stream h = .ok record →
      record.isComplete = true) :
    Keeps (AcknowledgesTrust rt.identity.deviceId rt.peerDeviceId)
      (runResponderWithStart rt os env env' broker start stream)
      (EndsTrusted rt.identity.deviceId rt.peerDeviceId) h := by
  simp only [runResponderWithStart, keeps_read_bind, keeps_lift_bind, endsTrusted_error,
    implies_true, and_true, Prod.forall]
  intro found session stream' hrequest
  obtain ⟨hmeets, hfound⟩ := awaitRequest_meets hrequest
  cases hpaired : found.activePair with
  | some pairId => exact presentActive_trusted hmeets hfound hpaired
  | none =>
      dsimp only
      rw [keeps_bind]
      refine (offerRecord_meets hmeets).result.post ?_
      intro r g hr
      cases r with
      | error e => exact endsTrusted_error
      | ok offered =>
          refine takeRecord_trusted (hr.1 _ rfl) ?_
          intro bytes session' rest record acknowledged hanswer hrecord hsent
          apply hbilateral record
          have hunpaired : bailIf (found.activePair ≠ none) "the devices are already paired" =
              .ok () := (bailIf_eq_ok ..).mpr (not_not.mpr hpaired)
          simp only [answeredRecord, hrequest, hunpaired, hr.2, hanswer, hrecord, hsent, ok_bind,
            pure_result]

omit [AppSerde] in
private theorem preparedRecord_established {broker : AuthorizationBroker} {found : Found}
    (first second : Text) :
    Keeps AnyStep (preparedRecord rt env broker store found session)
      (fun _ g => g.Established first second → h.Established first second) h := by
  have hop : ∀ (op : Op) (m : StoreM PairingRecord), op.activates = none →
      op.run store env rt.identity = forget m →
      Keeps AnyStep m (fun _ g => g.Established first second → h.Established first second) h := by
    intro op m hnone hrun
    have hkeeps : Keeps (StoreStep store env rt.identity op) (op.run store env rt.identity)
        (fun _ _ => True) h := op.keeps_run h
    rw [hrun] at hkeeps
    have hpath := (keeps_forget_iff (I := fun _ => True)).mp hkeeps
    apply keeps_anyStep.mpr
    refine (hpath.1.invariant (I := fun a => a.Established first second →
      h.Established first second) ?_ id).1
    intro l a b hstep ha hb
    exact ha (hstep.established hnone hb)
  unfold preparedRecord
  split
  next record _ =>
    rw [keeps_ite]
    refine ⟨fun _ => (keeps_pure _).mpr id, fun _ => ?_⟩
    exact hop (.resumePrepare session record) _ rfl rfl
  next => exact hop (.prepare session broker) _ rfl rfl

omit [AppSerde] in
private theorem offerRecord_established {broker : AuthorizationBroker} {found : Found}
    (first second : Text) :
    Keeps (fun _ _ _ => True) (offerRecord rt env broker store found session)
      (fun _ g => g.Established first second → h.Established first second) h := by
  simp only [offerRecord]
  rw [keeps_bind]
  refine (onStore_keeps (fun _ _ _ => trivial) (preparedRecord_established first second)).post ?_
  intro r g hg
  cases r with
  | error e => exact hg
  | ok prepared =>
      simp only [keeps_lift_bind]
      refine ⟨?_, fun _ _ => hg⟩
      intro bytes _
      exact keeps_send (fun _ _ => ⟨trivial, hg⟩) fun _ => hg

private theorem takeRecord_unsigned {bytes rest : Bytes} {session' : AuthenticatedPairingSession}
    {record : PairingRecord} {acknowledged : Bytes × AuthenticatedPairingSession}
    (hanswer : receive session stream = .ok (.complete bytes, session', rest))
    (hrecord : PairingRecord.fromBytes bytes = .ok record) (hunsigned : ¬record.isComplete = true)
    (hsent : sendMessage session' .finalized = .ok acknowledged) :
    Keeps (fun _ _ _ => True) (takeRecord rt env store session stream)
      (fun r g => r = .ok acknowledged.2 ∧ g = h) h := by
  have hleft : activateRecord rt env store session' record = pure () := if_neg hunsigned
  simp only [takeRecord, keeps_lift_bind, hanswer, Except.ok.injEq, forall_eq', hrecord, hleft,
    reduceCtorEq, false_implies, implies_true, and_true]
  rw [keeps_bind]
  apply (keeps_relabel _ _).mpr
  apply (keeps_pure _).mpr
  simp only [send, hsent, keeps_lift_bind, keeps_step_bind, keeps_pure, Except.ok.injEq, forall_eq',
    reduceCtorEq, false_implies, implies_true, and_true, id_eq, and_self]

/-- What the success of a driver and an acknowledgement of the responder stand for. -/
structure TrustOnSuccess (rt : Runtime) (h : Host)
    (outcome : Outcome DriverStep Host AuthenticatedPairingSession) : Prop where
  returns : ∀ session, outcome.result = .ok session → session.peerDeviceId = rt.peerDeviceId ∧
    (endState h outcome.visited).Established rt.identity.deviceId session.peerDeviceId
  acknowledges : ∀ g, (.sent .finalized, g) ∈ outcome.visited →
    g.Established rt.identity.deviceId rt.peerDeviceId

omit [AppSerde] in
private theorem trustOnSuccess_of_keeps {m : DriverM AuthenticatedPairingSession}
    (hkeeps : Keeps (AcknowledgesTrust rt.identity.deviceId rt.peerDeviceId) m
      (EndsTrusted rt.identity.deviceId rt.peerDeviceId) h) : TrustOnSuccess rt h (m h) := by
  constructor
  · intro session hsession
    obtain ⟨hpeer, hestablished⟩ := hkeeps.2 session hsession
    exact ⟨hpeer, hpeer ▸ hestablished⟩
  · intro g hmem
    obtain ⟨_, hsent⟩ := hkeeps.1.of_mem hmem
    exact hsent rfl

/-- The initiator's success always stands for an established pairing. The responder's does, and
its acknowledgement too, exactly when the record the peer answers with carries both
signatures. -/
theorem trustOnSuccess_iff_bilateral [LawfulSerde] (rt : Runtime) (os : Opening) (env env' : Env)
    (broker : AuthorizationBroker) (start stream : Bytes) (h : Host) :
    TrustOnSuccess rt h (runInitiator rt os env env' stream h) ∧
      (TrustOnSuccess rt h (runResponderWithStart rt os env env' broker start stream h) ↔
        ∀ record, answeredRecord rt os env broker start stream h = .ok record →
          record.isComplete = true) := by
  refine ⟨trustOnSuccess_of_keeps runInitiator_trusted, ?_, ?_⟩
  · intro htrust record hanswered
    simp only [answeredRecord, bind_eq_ok, Prod.exists, bailIf_eq_ok, not_not,
      exists_const] at hanswered
    obtain ⟨found, session, stream', hrequest, hunpaired, offered, hoffer, message, session', rest,
      hanswer, hanswered⟩ := hanswered
    cases message with
    | request => cases hanswered
    | prepared bytes => cases hanswered
    | finalized => cases hanswered
    | complete bytes =>
    simp only [bind_eq_ok, Prod.exists, pure_eq_ok] at hanswered
    obtain ⟨_, hrecord, out, acknowledged, hsent, rfl⟩ := hanswered
    by_contra hunsigned
    -- the run goes on to acknowledge, in a state that still lacks the record
    have hkeeps : Keeps (fun _ _ _ => True)
        (runResponderWithStart rt os env env' broker start stream)
        (fun r g => (∃ session, r = .ok session) ∧
          (g.Established rt.identity.deviceId rt.peerDeviceId →
            h.Established rt.identity.deviceId rt.peerDeviceId)) h := by
      simp only [runResponderWithStart, keeps_read_bind, keeps_lift_bind, hrequest,
        Except.ok.injEq, forall_eq', hunpaired, reduceCtorEq, false_implies, implies_true,
        and_true]
      rw [keeps_bind]
      refine (offerRecord_established rt.identity.deviceId rt.peerDeviceId).result.post ?_
      intro r g hr
      rw [hoffer] at hr
      obtain ⟨hback, rfl⟩ := hr
      refine (takeRecord_unsigned hanswer hrecord hunsigned hsent).post ?_
      intro r' g' hr'
      obtain ⟨rfl, rfl⟩ := hr'
      exact ⟨⟨_, rfl⟩, hback⟩
    obtain ⟨⟨session, hresult⟩, hback⟩ := hkeeps.2
    obtain ⟨hpeer, hestablished⟩ := htrust.returns session hresult
    rw [hpeer] at hestablished
    obtain ⟨r, hcommitted, -, hbinds⟩ := hback hestablished
    obtain ⟨-, hfound⟩ := awaitRequest_meets hrequest
    have hactive := hfound.activePair
    rw [hunpaired] at hactive
    simp only [PairingStore.activePairForPeerAt, bind_eq_ok, pure_eq_ok, Option.map_eq_none_iff,
      exists_eq_right] at hactive
    exact PairingStore.activeRecord_miss hactive hcommitted hbinds
  · intro hbilateral
    exact trustOnSuccess_of_keeps (runResponderWithStart_trusted hbilateral)

end Drivers

end Trust

namespace Loopback

attribute [local instance] crypto noise transportLaws PairingRecord.canonicalSerde
  PairingRecord.canonicalSerde_lawful PairMessage.canonicalSerde

def responderRuntime : Runtime := ⟨identity 2, root, certificate (keyOf 2), deviceIdOf 1⟩

/-- The operating system at time 100. -/
def opening (entropy : UInt8) : Opening :=
  ⟨100, 100, listing, listing, listing, .ok (List.Vector.replicate 16 7), keyOf entropy⟩

def approving : AuthorizationBroker := fun _ => .ok ⟨marker⟩

/-- An authenticated initiator that sends the given messages. -/
def authenticated (messages : List PairMessage) : Bytes :=
  wireLayout (handshakeFrame roleInitiator (message (keyOf 11) 2)) ++
    (wireLayout (authFrame roleInitiator 1 initiatorKey 0 helloOf) ++
      (wireLayout signatureFrame ++
        sealedStream roleInitiator initiatorKey 2 (messages.map PairMessage.payload)))

/-- It answers with the given record. -/
def answering (record : PairingRecord) : Bytes :=
  authenticated [.request, .complete record.toVec]

def respond (record : PairingRecord) : Outcome DriverStep Host AuthenticatedPairingSession :=
  runResponderWithStart responderRuntime (opening 12) env env approving (startOf 11)
    (answering record) Host.empty

/-- The record of the session with both signatures. -/
def bilateralRecord : PairingRecord :=
  complete { recordOf 7 1 2 2 100 with sessionBinding := digest transcriptOf } 1 2

set_option maxRecDepth 40000 in
/-- A responder that is answered with a complete record. -/
theorem trustOnSuccess_iff_bilateral_answered :
    (answeredRecord responderRuntime (opening 12) env approving (startOf 11)
        (answering bilateralRecord) Host.empty).map PairingRecord.isComplete = .ok true ∧
      TrustOnSuccess responderRuntime Host.empty (respond bilateralRecord) := by
  have hanswered : (answeredRecord responderRuntime (opening 12) env approving (startOf 11)
      (answering bilateralRecord) Host.empty).map PairingRecord.isComplete = .ok true := by
    decide +kernel
  refine ⟨hanswered, ?_⟩
  apply (trustOnSuccess_iff_bilateral responderRuntime (opening 12) env env approving (startOf 11)
    (answering bilateralRecord) Host.empty).2.mpr
  intro record hrecord
  rw [hrecord] at hanswered
  exact Except.ok.inj hanswered

/-- A record that nobody has signed. -/
def unsignedRecord : PairingRecord :=
  { recordOf 7 1 2 2 100 with initiatorCertificate := [0], responderCertificate := [0] }

/-- The responder acknowledges the unsigned record it gets and holds no active record. -/
theorem trustOnSuccess_unsigned :
    ¬∀ (rt : Runtime) (os : Opening) (env env' : Env) (broker : AuthorizationBroker)
      (start stream : Bytes) (h : Host),
      TrustOnSuccess rt h (runInitiator rt os env env' stream h) ∧
        TrustOnSuccess rt h (runResponderWithStart rt os env env' broker start stream h) := by
  intro hall
  have hrun : (respond unsignedRecord).result.isOk = true ∧
      ((endState Host.empty (respond unsignedRecord).visited).trust .active).entries = [] := by
    decide +kernel
  obtain ⟨hok, hactive⟩ := hrun
  obtain ⟨session, hsession⟩ := (isOk_iff _).mp hok
  have htrust := (hall responderRuntime (opening 12) env env approving (startOf 11)
    (answering unsignedRecord) Host.empty).2
  obtain ⟨-, r, hcommitted, -⟩ := htrust.returns session hsession
  obtain ⟨bytes, hfile, -⟩ := hcommitted.stored
  change Host.file (endState Host.empty (respond unsignedRecord).visited) _ _ = _ at hfile
  simp [Host.file, AList.lookup, hactive] at hfile

end Loopback

end OmarchySync
