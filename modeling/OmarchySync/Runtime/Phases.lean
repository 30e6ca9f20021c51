import OmarchySync.Runtime.Completeness
import OmarchySync.Runtime.Driver
import OmarchySync.Trust.Held
import OmarchySync.Trust.Success

/-!
# The phases of the two drivers

What a driver does from one read to the next: the steps of its store, the stage it reaches and
what it sends. A responder acknowledges a record when it has activated it.
-/

namespace OmarchySync

open Logic Wire Traced PairingM

section Lines

variable [Noise] [TransportLaws]

/-- The messages from `s` to `r` that `r` has yet to read, after `s` has sealed `sent` payloads. -/
structure Line (sent : Nat) (s r : AuthenticatedPairingSession) (stream : Bytes)
    (messages : List PairMessage) : Prop where
  pipe : Pipe sent s r stream (messages.map PairMessage.payload)
  stored : ∀ m ∈ messages, m.Stored

namespace Line

variable {sent : Nat} {s r : AuthenticatedPairingSession} {stream : Bytes} {m : PairMessage}
  {ms : List PairMessage}

/-- What `s` sends joins the messages on the way. -/
theorem send (h : Line sent s r stream ms) (hm : m.Stored) (hsent : sent < nonceLimit) :
    ∃ out s', sendMessage s m = .ok (out, s') ∧ Line (sent + 1) s' r (stream ++ out) (ms ++ [m]) ∧
      ∀ sent' stream' ms', Line sent' r s stream' ms' → Line sent' r s' stream' ms' := by
  obtain ⟨frame, t, hseal, hwire, hpipe, hback⟩ := h.pipe.push (payload_framed hm) hsent
  refine ⟨wireLayout frame, { s with transport := t }, ?_, ⟨?_, ?_⟩, ?_⟩
  · simp only [sendMessage, encodeApp_ok hm, hseal, hwire, ok_bind, pure_result]
  · rw [List.map_append]
    exact hpipe
  · intro m' hm'
    rcases List.mem_append.mp hm' with hm' | hm'
    · exact h.stored m' hm'
    · rw [List.mem_singleton.mp hm']
      exact hm
  · intro sent' stream' ms' hline
    exact ⟨hback _ _ _ hline.pipe, hline.stored⟩

theorem receive [AppSerde] [LawfulAppSerde] (h : Line sent s r stream (m :: ms))
    (hsent : sent ≤ nonceLimit) :
    ∃ frame rest r', readWire stream = .ok (frame, rest) ∧ receiveMessage r frame = .ok (m, r') ∧
      Line sent s r' rest ms ∧
      ∀ sent' stream' ms', Line sent' r s stream' ms' → Line sent' r' s stream' ms' := by
  obtain ⟨frame, rest, t, hread, hopen, hpipe, hback⟩ := h.pipe.pop hsent
  have hm := h.stored m (List.mem_cons_self ..)
  refine ⟨frame, rest, { r with transport := t }, hread, ?_, ⟨hpipe, ?_⟩, ?_⟩
  · simp only [receiveMessage, hopen, decodeApp_payload hm, ok_bind, pure_result]
  · intro m' hm'
    exact h.stored m' (List.mem_cons_of_mem _ hm')
  · intro sent' stream' ms' hline
    exact ⟨hback _ _ _ hline.pipe, hline.stored⟩

theorem silent (h : Line sent s r stream []) : stream = [] := h.pipe.stream_nil

end Line

end Lines

theorem readWire_nil : ∃ e, readWire [] = .error e := by
  cases h : readWire [] with
  | error e => exact ⟨e, rfl⟩
  | ok out =>
      have heq := ((readWire_eq_ok _ out.1 out.2).mp h).2
      have hlength := congrArg List.length heq
      simp only [wireLayout, List.length_nil, List.length_append, beBytes_length] at hlength
      omega

section Stages

variable [Crypto] [Noise] [Serde]

variable {rt : Runtime} {os : Opening} {env : Env} {store : PairingStore}
  {session session' : AuthenticatedPairingSession} {frame : Bytes} {h b : Host}
  {P : PairingRecord → Prop}

theorem openInitiator_fresh {x : PairingInitiator} {reconnect : Bool}
    (hok : openInitiator rt os h = .ok (x, reconnect)) : x.Fresh := by
  have hreconnect : ∀ context, PairingInitiator.newReconnect rt.identity context os.entropy =
      .ok x → x.Fresh := by
    intro context hnew
    simp only [PairingInitiator.newReconnect, bind_eq_ok, bailIf_eq_ok, pure_eq_ok,
      exists_const] at hnew
    obtain ⟨role, -, -, ⟨handshake, static⟩, hbuild, rfl⟩ := hnew
    exact PairingInitiator.fresh_of_build hbuild
  simp only [openInitiator, bind_eq_ok] at hok
  obtain ⟨found, -, pending, -, hok⟩ := hok
  cases found with
  | some pairId =>
      simp only [bind_eq_ok, pure_eq_ok, Prod.mk.injEq] at hok
      obtain ⟨context, -, _, hnew, rfl, -⟩ := hok
      exact hreconnect context hnew
  | none =>
      dsimp only at hok
      split at hok
      · simp only [bind_eq_ok, pure_eq_ok, Prod.mk.injEq] at hok
        obtain ⟨_, -, context, -, _, hnew, rfl, -⟩ := hok
        exact hreconnect context hnew
      · simp only [bind_eq_ok, pure_eq_ok, Prod.mk.injEq] at hok
        obtain ⟨_, hnew, rfl, -⟩ := hok
        simp only [PairingInitiator.new, bind_eq_ok, pure_eq_ok] at hnew
        obtain ⟨_, -, _, -, pairId, -, ⟨handshake, static⟩, hbuild, rfl⟩ := hnew
        exact PairingInitiator.fresh_of_build hbuild

theorem Op.keeps_device (op : Op) (env : Env) (store : PairingStore) (identity : DeviceIdentity)
    (h : Host) (hop : ∀ r, op.activates = some r → P r) :
    Keeps (DeviceStep identity P) (op.run store env identity) (fun _ _ => True) h :=
  (op.keeps_run h).mono (fun _ _ _ hstep => ⟨store, env, op, hstep, hop⟩) fun _ _ => id

theorem revoke_keeps (P : PairingRecord → Prop) (store : PairingStore) (identity : DeviceIdentity)
    (pairId : Text) (h : Host) :
    Keeps (DeviceStep identity P) (store.revoke pairId) (fun _ _ => True) h := by
  -- a revocation names no temporary file, so any environment will do
  have env : Env := ⟨⟨0, 0⟩, ⟨fun d => d.keys, fun _ => .refl _⟩⟩
  apply Op.keeps_device (.revoke pairId) env
  intro r hr
  cases hr

private theorem keeps_device_of_forget (op : Op) {m : StoreM PairingRecord}
    (hrun : op.run store env rt.identity = forget m) (hnone : op.activates = none) :
    Keeps (DeviceStep rt.identity P) m (fun _ _ => True) h := by
  apply (keeps_forget_iff (I := fun _ => True)).mp
  rw [← hrun]
  apply op.keeps_device
  intro r hr
  rw [hnone] at hr
  cases hr

private theorem completeRecord_keeps {record : PairingRecord} :
    Keeps (DeviceStep rt.identity P) (completeRecord rt env store session record)
      (fun _ _ => True) h := by
  simp only [completeRecord, keeps_read_bind, keeps_lift_bind, implies_true, and_true]
  intro pending _
  cases pending.filter (·.isComplete) with
  | some found =>
      simp only [keeps_lift_bind, keeps_pure, implies_true, and_true]
  | none =>
      dsimp only
      rw [keeps_ite]
      constructor
      · intro _
        exact (keeps_pure _).mpr trivial
      · intro _
        exact keeps_device_of_forget (.coSign session record) rfl rfl

private theorem preparedRecord_keeps {broker : AuthorizationBroker} {found : Found} :
    Keeps (DeviceStep rt.identity P) (preparedRecord rt env broker store found session)
      (fun _ _ => True) h := by
  unfold preparedRecord
  split
  next record _ =>
    rw [keeps_ite]
    constructor
    · intro _
      exact (keeps_pure _).mpr trivial
    · intro _
      exact keeps_device_of_forget (.resumePrepare session record) rfl rfl
  next => exact keeps_device_of_forget (.prepare session broker) rfl rfl

variable [LawfulSerde] {record : PairingRecord}

private theorem persistActive_commits {bound stored : Bool}
    (hfits : PairingStore.FitsSession store record session rt.identity true bound stored) :
    Keeps AnyStep (persistActive env record)
      (fun r g => r = .ok () → g.Committed .active record) h := by
  have hshaped := hfits.attested.shaped
  apply (persistActive_stores env hshaped).post
  intro r g hstored hok
  exact ⟨hshaped.pairId, hstored hok⟩

private theorem activateRecord_keeps :
    Keeps (DeviceStep rt.identity fun _ => True) (activateRecord rt env store session record)
      (fun r g => r = .ok () → record.isComplete = true → g.Committed .active record) h := by
  unfold activateRecord
  rw [keeps_ite]
  constructor
  · intro _
    rw [keeps_ite]
    constructor
    · intro _
      constructor
      · exact (Op.keeps_device (.finalize session record) env store rt.identity h
          fun _ _ => trivial).1
      · have hcommits : Keeps AnyStep (store.finalize env session rt.identity record)
            (fun r g => r = .ok () → g.Committed .active record) h := by
          simp only [PairingStore.finalize, keeps_lift_bind, PairingStore.validateRecord_eq_ok,
            reduceCtorEq, false_implies, implies_true, and_true]
          intro _ _ _ hfits
          exact persistActive_commits hfits
        intro hok _
        exact hcommits.2 hok
    · intro _
      constructor
      · exact (Op.keeps_device (.reconcile session record) env store rt.identity h
          fun _ _ => trivial).1
      · have hcommits : Keeps AnyStep (store.reconcile env session rt.identity record)
            (fun r g => r = .ok () → g.Committed .active record) h := by
          simp only [PairingStore.reconcile, keeps_lift_bind, PairingStore.validateRecord_eq_ok,
            reduceCtorEq, false_implies, implies_true, and_true]
          intro _ _ _ hfits
          exact persistActive_commits hfits
        intro hok _
        exact hcommits.2 hok
  · intro hincomplete
    apply (keeps_pure _).mpr
    intro _ hcomplete
    exact absurd hcomplete hincomplete

variable [AppSerde] {m : PairMessage}

/-- How the initiator goes on from a response. -/
inductive Replied (store : PairingStore) (session : AuthenticatedPairingSession) :
    PairMessage → InitiatorStage → Bytes → Prop where
  | complete {bytes record} (hread : PairingRecord.fromBytes bytes = .ok record) :
      Replied store session (.complete bytes) (.finalized store record session) []
  | prepared {bytes record out session'} (hsize : record.toVec.length ≤ maxRecordBytes)
      (hsend : sendMessage session (.complete record.toVec) = .ok (out, session')) :
      Replied store session (.prepared bytes) (.finalized store record session') out

omit [LawfulSerde] in
theorem onResponse_keeps {reconnect : Bool}
    (hreceive : receiveMessage session frame = .ok (m, session')) :
    Keeps (DeviceStep rt.identity P)
      (InitiatorStage.onResponse rt env store reconnect session frame)
      (fun r _ => ∀ stage out, r = .ok (stage, out) → Replied store session' m stage out) h := by
  simp only [InitiatorStage.onResponse, keeps_lift_bind, hreceive, Except.ok.injEq, forall_eq',
    reduceCtorEq, false_implies, implies_true, and_true]
  cases m with
  | complete bytes =>
      simp only [keeps_lift_bind, keeps_pure, reduceCtorEq, false_implies, implies_true, and_true]
      intro _ _ record hread stage out hout
      cases hout
      exact .complete hread
  | prepared bytes =>
      simp only [keeps_lift_bind, reduceCtorEq, false_implies, implies_true, and_true]
      intro record _
      rw [keeps_bind]
      apply completeRecord_keeps.post
      intro r g _
      cases r with
      | error e =>
          intro stage out hout
          cases hout
      | ok complete =>
          simp only [keeps_lift_bind, keeps_pure, PairingRecord.toBytes_eq_ok, reduceCtorEq,
            false_implies, implies_true, and_true]
          intro bytes hbytes sent hsend stage out hout
          obtain ⟨hsize, rfl⟩ := hbytes
          cases hout
          exact .prepared hsize hsend
  | _ =>
      apply (keeps_lift _).mpr
      intro stage out hout
      cases hout

omit [LawfulSerde] in
theorem onFinalized_keeps (hreceive : receiveMessage session frame = .ok (m, session'))
    (hP : m = .finalized → P record) :
    Keeps (DeviceStep rt.identity P) (InitiatorStage.onFinalized rt env store record session frame)
      (fun r _ => ∀ stage out, r = .ok (stage, out) → stage = .returned (.ok ())) h := by
  simp only [InitiatorStage.onFinalized, keeps_lift_bind, hreceive, Except.ok.injEq, forall_eq',
    reduceCtorEq, false_implies, implies_true, and_true, bailIf_eq_ok, not_not]
  intro _ hfinalized
  rw [keeps_bind]
  have hop : ∀ r, (Op.reconcile session' record).activates = some r → P r := by
    intro r hr
    cases hr
    exact hP hfinalized
  apply (Op.keeps_device (.reconcile session' record) env store rt.identity h hop).post
  intro r g _
  cases r with
  | error e =>
      intro stage out hout
      cases hout
  | ok u =>
      apply (keeps_pure _).mpr
      intro stage out hout
      cases hout
      rfl

/-- How the responder goes on from the request. -/
inductive Offered (b : Host) (store : PairingStore) (session : AuthenticatedPairingSession) :
    ResponderStage → Bytes → Prop where
  | prepared {bytes out session'} (hsize : bytes.length ≤ maxRecordBytes)
      (hsend : sendMessage session (.prepared bytes) = .ok (out, session')) :
      Offered b store session (.complete store session') out
  | active {bytes out session' e} (hsize : bytes.length ≤ maxRecordBytes)
      (hactive : ∀ record, PairingRecord.fromBytes bytes = .ok record → b.HasActivated record)
      (hsend : sendMessage session (.complete bytes) = .ok (out, session'))
      (hfails : sendMessage session' .finalized = .error e) :
      Offered b store session (.returned (.error e)) out
  | acknowledged {bytes out session' out' session''} (hsize : bytes.length ≤ maxRecordBytes)
      (hactive : ∀ record, PairingRecord.fromBytes bytes = .ok record → b.HasActivated record)
      (hsend : sendMessage session (.complete bytes) = .ok (out, session'))
      (hsend' : sendMessage session' .finalized = .ok (out', session'')) :
      Offered b store session (.returned (.ok ())) (out ++ out')

theorem onRequest_keeps {broker : AuthorizationBroker} {found : Found} (hstands : b.Stands)
    (hreceive : receiveMessage session frame = .ok (m, session')) :
    Keeps (DeviceStep rt.identity fun _ => True)
      (ResponderStage.onRequest rt env broker store found session frame)
      (fun r g => ∀ stage out, r = .ok (stage, out) → Offered g store session' stage out) b := by
  simp only [ResponderStage.onRequest, keeps_lift_bind, hreceive, Except.ok.injEq, forall_eq',
    reduceCtorEq, false_implies, implies_true, and_true]
  intro _ _
  cases found.activePair with
  | some pairId =>
      simp only [keeps_lift_bind, keeps_read_bind, reduceCtorEq, false_implies, implies_true,
        and_true, PairingRecord.toBytes_eq_ok, someOr_eq_ok]
      intro loaded hload active hactive bytes hbytes sent hsend
      subst hactive
      obtain ⟨hsize, rfl⟩ := hbytes
      obtain ⟨hcommitted, hvalid⟩ := PairingStore.load_committed hload
      have hshaped := ((PairingStore.validateStored_eq_ok ..).mp hvalid).2.shaped
      have hread : PairingRecord.fromBytes active.toVec = .ok active :=
        PairingRecord.fromBytes_toBytes ((PairingRecord.toBytes_eq_ok _ _).mpr ⟨hsize, rfl⟩) hshaped
      have hheld : ∀ record, PairingRecord.fromBytes active.toVec = .ok record →
          b.HasActivated record := by
        intro record hrecord
        rw [hread] at hrecord
        rw [← Except.ok.inj hrecord]
        exact hcommitted.hasActivated hstands
      cases hsend' : sendMessage sent.2 .finalized with
      | error e =>
          apply (keeps_pure _).mpr
          intro stage out hout
          cases hout
          exact .active hsize hheld hsend hsend'
      | ok sent' =>
          apply (keeps_pure _).mpr
          intro stage out hout
          cases hout
          exact .acknowledged hsize hheld hsend hsend'
  | none =>
      dsimp only
      rw [keeps_bind]
      apply preparedRecord_keeps.post
      intro r g _
      cases r with
      | error e =>
          intro stage out hout
          cases hout
      | ok prepared =>
          simp only [keeps_lift_bind, keeps_pure, PairingRecord.toBytes_eq_ok, reduceCtorEq,
            false_implies, implies_true, and_true]
          intro bytes hbytes sent hsend stage out hout
          obtain ⟨hsize, rfl⟩ := hbytes
          cases hout
          exact .prepared hsize hsend

/-- The acknowledgement goes out when the record is active. -/
theorem onComplete_keeps {complete : PairingRecord} (hstands : b.Stands)
    (hsize : complete.toVec.length ≤ maxRecordBytes)
    (hreceive : receiveMessage session frame = .ok (.complete complete.toVec, session')) :
    Keeps (DeviceStep rt.identity fun _ => True)
      (ResponderStage.onComplete rt env store session frame)
      (fun r g => ∀ stage out, r = .ok (stage, out) → g.Acknowledges complete ∧
        stage = .returned (.ok ()) ∧ ∃ session'', sendMessage session' .finalized =
          .ok (out, session'')) b := by
  simp only [ResponderStage.onComplete, keeps_lift_bind, hreceive, Except.ok.injEq, forall_eq',
    reduceCtorEq, false_implies, implies_true, and_true]
  intro received hread
  have hsame : complete.Shaped → received = complete := by
    intro hshaped
    have hread' := PairingRecord.fromBytes_toBytes
      ((PairingRecord.toBytes_eq_ok _ _).mpr ⟨hsize, rfl⟩) hshaped
    rw [hread] at hread'
    exact Except.ok.inj hread'
  rw [keeps_bind]
  have hactivate : Keeps (DeviceStep rt.identity fun _ => True)
      (activateRecord rt env store session' received)
      (fun r g => r = .ok () → received.isComplete = true → g.Committed .active received) b :=
    activateRecord_keeps
  have houtlasts := (outlasts_of_path hactivate.1).1
  refine ⟨hactivate.1, ?_⟩
  have hpost := hactivate.2
  revert hpost
  cases (activateRecord rt env store session' received b).result with
  | error e =>
      intro _ stage out hout
      cases hout
  | ok u =>
      intro hcommits
      simp only [keeps_lift_bind, keeps_pure, reduceCtorEq, false_implies, implies_true, and_true]
      intro sent hsend stage out hout
      cases hout
      refine ⟨?_, rfl, sent.2, hsend⟩
      intro hshaped hcomplete
      obtain rfl := hsame hshaped
      exact (hcommits rfl hcomplete).hasActivated (houtlasts.stands hstands)

/-- Whatever a responder reads, it makes steps of its device. -/
theorem ResponderStage.receive_keeps {broker : AuthorizationBroker} (stage : ResponderStage) :
    Keeps (DeviceStep rt.identity fun _ => True) (stage.receive rt env broker frame)
      (fun _ _ => True) b := by
  cases stage with
  | listening => exact (keeps_pure _).mpr trivial
  | returned result => exact (keeps_pure _).mpr trivial
  | request store found session =>
      simp only [receive, onRequest, keeps_lift_bind, implies_true, and_true]
      intro received _ _ _
      cases found.activePair with
      | some pairId =>
          simp only [keeps_read_bind, keeps_lift_bind, implies_true, and_true]
          intro _ _ _ _ _ _ sent _
          cases sendMessage sent.2 .finalized with
          | error e => exact (keeps_pure _).mpr trivial
          | ok sent' => exact (keeps_pure _).mpr trivial
      | none =>
          dsimp only
          rw [keeps_bind]
          apply preparedRecord_keeps.post
          intro r g _
          cases r with
          | error e => trivial
          | ok prepared => simp only [keeps_lift_bind, keeps_pure, implies_true, and_true]
  | complete store session =>
      simp only [receive, onComplete, keeps_lift_bind, implies_true, and_true]
      intro received _
      cases received.1 with
      | complete bytes =>
          simp only [keeps_lift_bind, implies_true, and_true]
          intro record _
          rw [keeps_bind]
          apply activateRecord_keeps.post
          intro r g _
          cases r with
          | error e => trivial
          | ok u => simp only [keeps_lift_bind, keeps_pure, implies_true, and_true]
      | _ => exact (keeps_lift _).mpr trivial

end Stages

end OmarchySync
