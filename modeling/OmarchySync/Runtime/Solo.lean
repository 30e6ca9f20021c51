import OmarchySync.Runtime.Driver

/-!
# One driver against any peer

The two drivers from the first lookup to the return, on a stream that holds whatever the other
end of the connection has written. A stream that ends early is a lost connection.
-/

namespace OmarchySync

open Logic Wire Traced PairingM

variable [Crypto] [Noise]

/-- The initiator's part of the authentication, with the rest of the stream. -/
def authenticateInitiator (x : PairingInitiator) (stream : Bytes) :
    Result (AuthenticatedPairingSession × Bytes) := do
  let (start, a) ← exec PairingInitiator.start ⟨x, []⟩
  let _ ← writeWire start
  let (responderHandshake, stream) ← readWire stream
  let ((message3, authHello), a) ←
    exec (PairingInitiator.receiveResponderHandshake responderHandshake) a
  let _ ← writeWire message3
  let _ ← writeWire authHello
  let (responderAuth, stream) ← readWire stream
  let (authSignature, a) ← exec (PairingInitiator.receiveResponderAuth responderAuth) a
  let _ ← writeWire authSignature
  let (acknowledgement, stream) ← readWire stream
  let (session, _) ← exec (PairingInitiator.receiveResponderAck acknowledgement) a
  return (session, stream)

/-- The responder's part behind the first message. -/
def authenticateResponder (y : PairingResponder) (entropy : Noise.Entropy) (start stream : Bytes) :
    Result (AuthenticatedPairingSession × Bytes) := do
  let (message2, b) ← exec (PairingResponder.receiveInitiatorStart entropy start) ⟨y, []⟩
  let _ ← writeWire message2
  let (message3, stream) ← readWire stream
  let (hello, stream) ← readWire stream
  let (proof, b) ← exec (PairingResponder.receiveInitiatorFinish message3 hello) b
  let _ ← writeWire proof
  let (signature, stream) ← readWire stream
  let ((ack, session), _) ← exec (PairingResponder.receiveInitiatorAuth signature) b
  let _ ← writeWire ack
  return (session, stream)

/-- What others can see of a driver: a step of its store, or a message it has sent. -/
inductive DriverStep where
  | store (l : FsStep)
  | sent (message : PairMessage)

abbrev DriverM (α : Type) := Traced DriverStep Host α

def onStore {α : Type} (m : StoreM α) : DriverM α := relabel .store m

omit [Crypto] in
/-- Encrypt and send one message. -/
def send (session : AuthenticatedPairingSession) (message : PairMessage) :
    DriverM AuthenticatedPairingSession := do
  let (_, session) ← sendMessage session message
  Traced.step (.sent message) id
  return session

variable [AppSerde]

omit [Crypto] in
/-- Read and decrypt one message. -/
def receive (session : AuthenticatedPairingSession) (stream : Bytes) :
    Result (PairMessage × AuthenticatedPairingSession × Bytes) := do
  let (frame, stream) ← readWire stream
  let (message, session) ← receiveMessage session frame
  return (message, session, stream)

variable [Serde]

/-- Wait for the peer's acknowledgement, then activate the record. -/
def awaitFinalized (rt : Runtime) (env : Env) (store : PairingStore)
    (session : AuthenticatedPairingSession) (complete : PairingRecord) (stream : Bytes) :
    DriverM AuthenticatedPairingSession := do
  let (acknowledgement, session, _) ← receive session stream
  bailIf (acknowledgement ≠ .finalized) "expected finalized pairing acknowledgement"
  onStore (store.reconcile env session rt.identity complete)
  return session

/-- `run_initiator`. The environments are those of its two writes. -/
def runInitiator (rt : Runtime) (os : Opening) (env env' : Env) (stream : Bytes) :
    DriverM AuthenticatedPairingSession := do
  let store : PairingStore := ⟨rt.root, os.opened⟩
  let h ← Traced.read
  let (initiator, reconnect) ← openInitiator rt os h
  let (session, stream) ← authenticateInitiator initiator stream
  let session ← send session .request
  let (response, session, stream) ← receive session stream
  match response with
  | .complete bytes =>
      bailIf (reconnect = false) "unexpected pairing record response"
      let complete ← PairingRecord.fromBytes bytes
      awaitFinalized rt env' store session complete stream
  | .prepared bytes =>
      let record ← PairingRecord.fromBytes bytes
      let complete ← onStore (completeRecord rt env store session record)
      let bytes ← complete.toBytes
      let session ← send session (.complete bytes)
      awaitFinalized rt env' store session complete stream
  | _ => liftM (Except.error "unexpected pairing record response" : Result _)

/-- The responder up to the request for a record, from its lookups on. -/
def awaitRequest (rt : Runtime) (os : Opening) (h : Host) (start stream : Bytes) :
    Result (Found × AuthenticatedPairingSession × Bytes) := do
  let (responder, found) ← openResponder rt os h start
  let (session, stream) ← authenticateResponder responder os.entropy start stream
  let (message, session, stream) ← receive session stream
  bailIf (message ≠ .request) "expected pairing record request"
  return (found, session, stream)

/-- The way of a responder that is already paired. -/
def presentActive (store : PairingStore) (session : AuthenticatedPairingSession)
    (pairId : Text) : DriverM AuthenticatedPairingSession := do
  let h ← Traced.read
  let record ← store.load h pairId
  let record ← someOr "active pairing record disappeared" record
  let bytes ← record.toBytes
  let session ← send session (.complete bytes)
  send session .finalized

/-- Offer a record to the initiator. -/
def offerRecord (rt : Runtime) (env : Env) (broker : AuthorizationBroker) (store : PairingStore)
    (found : Found) (session : AuthenticatedPairingSession) :
    DriverM AuthenticatedPairingSession := do
  let prepared ← onStore (preparedRecord rt env broker store found session)
  let bytes ← prepared.toBytes
  send session (.prepared bytes)

/-- Take the initiator's answer. -/
def takeRecord (rt : Runtime) (env : Env) (store : PairingStore)
    (session : AuthenticatedPairingSession) (stream : Bytes) :
    DriverM AuthenticatedPairingSession := do
  let (complete, session, _) ← receive session stream
  match complete with
  | .complete bytes =>
      let complete ← PairingRecord.fromBytes bytes
      onStore (activateRecord rt env store session complete)
      send session .finalized
  | _ => liftM (Except.error "expected completed pairing record" : Result _)

/-- `run_responder_with_start`. -/
def runResponderWithStart (rt : Runtime) (os : Opening) (env env' : Env)
    (broker : AuthorizationBroker) (start stream : Bytes) :
    DriverM AuthenticatedPairingSession := do
  let store : PairingStore := ⟨rt.root, os.opened⟩
  let h ← Traced.read
  let (found, session, stream) ← awaitRequest rt os h start stream
  match found.activePair with
  | some pairId => presentActive store session pairId
  | none =>
      let session ← offerRecord rt env broker store found session
      takeRecord rt env' store session stream

omit [Crypto] [AppSerde] [Serde] in
theorem keeps_send {R : DriverStep → Host → Host → Prop}
    {Q : Result AuthenticatedPairingSession → Host → Prop} {h : Host}
    {session : AuthenticatedPairingSession} {message : PairMessage}
    (hok : ∀ sent, sendMessage session message = .ok sent →
      R (.sent message) h h ∧ Q (.ok sent.2) h)
    (herr : ∀ e, Q (.error e) h) : Keeps R (send session message) Q h := by
  simp only [send, keeps_lift_bind, keeps_step_bind, keeps_pure, id_eq]
  exact ⟨hok, fun e _ => herr e⟩

section Opened

omit [AppSerde]

variable {store : PairingStore} {order : ReadDir} {h : Host} {identity : DeviceIdentity}
  {context : PairedIdentityContext} {peer : Text}

/-- A sound context of the two devices. -/
structure PairedIdentityContext.Pairs (context : PairedIdentityContext) (first second : Text) :
    Prop where
  sound : context.Sound
  binds : (context.initiatorDeviceId = first ∧ context.responderDeviceId = second) ∨
    (context.initiatorDeviceId = second ∧ context.responderDeviceId = first)

omit [Serde] [Noise] in
private theorem pairs_of_contextFromRecord {r : PairingRecord}
    (hbinds : r.binds identity.deviceId peer)
    (hok : store.contextFromRecord r identity = .ok context) :
    context.Pairs identity.deviceId peer := by
  refine ⟨PairedIdentityContext.sound_of_contextFromRecord hok, ?_⟩
  simp only [PairingStore.contextFromRecord, PairingStore.contextFromRecordParts,
    PairedIdentityContext.fromValidatedRecord, bind_eq_ok, pure_eq_ok] at hok
  obtain ⟨_, -, _, -, _, -, _, -, _, -, rfl⟩ := hok
  exact hbinds

omit [Noise] in
private theorem pairs_of_recoveryContext
    (hok : store.recoveryContext order h identity peer = .ok (some context)) :
    context.Pairs identity.deviceId peer := by
  obtain ⟨found, hfound, hok⟩ := (bind_eq_ok ..).mp hok
  cases found with
  | some r =>
      obtain ⟨_, hcontext, heq⟩ := (bind_eq_ok ..).mp hok
      cases heq
      exact pairs_of_contextFromRecord (PairingStore.pendingForPeer_hit hfound).2.2 hcontext
  | none =>
      obtain ⟨found, hactive, hok⟩ := (bind_eq_ok ..).mp hok
      cases found with
      | none => cases hok
      | some r =>
          obtain ⟨_, hcontext, heq⟩ := (bind_eq_ok ..).mp hok
          cases heq
          exact pairs_of_contextFromRecord (PairingStore.activeRecord_hit hactive).2 hcontext

omit [Noise] in
theorem PairingStore.activePairForPeerAt_hit {pairId first second : Text}
    (hok : store.activePairForPeerAt order h first second = .ok (some pairId)) :
    ∃ r, store.load h pairId = .ok (some r) ∧ r.binds first second := by
  obtain ⟨found, hactive, hok⟩ := (bind_eq_ok ..).mp hok
  obtain ⟨r, rfl, rfl⟩ := Option.map_eq_some_iff.mp (Except.ok.inj hok)
  exact ⟨r, PairingStore.activeRecord_hit hactive⟩

omit [Noise] in
private theorem pairs_of_reconnectContext {order : ReadDir} {pairId : Text}
    (hactive : store.activePairForPeerAt order h identity.deviceId peer = .ok (some pairId))
    (hok : store.reconnectContext h identity pairId = .ok context) :
    context.Pairs identity.deviceId peer := by
  refine ⟨PairedIdentityContext.sound_of_reconnectContext hok, ?_⟩
  obtain ⟨r, hload, hbinds⟩ := PairingStore.activePairForPeerAt_hit hactive
  simp only [PairingStore.reconnectContext, PairingStore.contextFromRecordParts,
    PairedIdentityContext.fromValidatedRecord, bind_eq_ok, someOr_eq_ok, pure_eq_ok] at hok
  obtain ⟨_, hload', r', rfl, _, -, _, -, _, -, _, -, _, -, rfl⟩ := hok
  rw [hload] at hload'
  cases hload'
  exact hbinds

/-- An end that will only accept the given device. -/
structure Pairing.Expects {Id : Type} (x : Pairing Id) (deviceId : Text) : Prop where
  sound : x.validation.Sound
  peer : x.expectedPeerDeviceId = deviceId

omit [Serde] in
private theorem newReconnect_expected {entropy : Noise.Entropy} {x : PairingInitiator}
    (hpairs : context.Pairs identity.deviceId peer)
    (hok : PairingInitiator.newReconnect identity context entropy = .ok x) : x.Expects peer := by
  simp only [PairingInitiator.newReconnect, bind_eq_ok, pure_eq_ok, bailIf_eq_ok, not_not] at hok
  obtain ⟨role, hrole, _, rfl, _, -, rfl⟩ := hok
  have hlocal : identity.deviceId = context.initiatorDeviceId := by
    unfold PairedIdentityContext.roleFor at hrole
    split_ifs at hrole with hfirst hsecond
    · exact hfirst.1
    · cases hrole
  refine ⟨hpairs.sound, ?_⟩
  change context.responderDeviceId = peer
  rcases hpairs.binds with hbinds | hbinds
  · exact hbinds.2
  · exact absurd (hlocal.symm.trans hbinds.2.symm) hpairs.sound.distinct

omit [Serde] in
private theorem newReconnect_expected' {y : PairingResponder}
    (hpairs : context.Pairs identity.deviceId peer)
    (hok : PairingResponder.newReconnect identity context = .ok y) : y.Expects peer := by
  simp only [PairingResponder.newReconnect, bind_eq_ok, pure_eq_ok, bailIf_eq_ok, not_not] at hok
  obtain ⟨role, hrole, _, rfl, rfl⟩ := hok
  have hlocal : identity.deviceId = context.responderDeviceId := by
    unfold PairedIdentityContext.roleFor at hrole
    split_ifs at hrole with hfirst hsecond
    · cases hrole
    · exact hsecond.1
  refine ⟨hpairs.sound, ?_⟩
  change context.initiatorDeviceId = peer
  rcases hpairs.binds with hbinds | hbinds
  · exact absurd (hbinds.1.trans hlocal) hpairs.sound.distinct
  · exact hbinds.1

variable {rt : Runtime} {os : Opening}

theorem openInitiator_expects {x : PairingInitiator} {reconnect : Bool}
    (hok : openInitiator rt os h = .ok (x, reconnect)) : x.Expects rt.peerDeviceId := by
  simp only [openInitiator, bind_eq_ok] at hok
  obtain ⟨found, hactive, pending, -, hok⟩ := hok
  cases found with
  | some pairId =>
      simp only [bind_eq_ok, pure_eq_ok, Prod.mk.injEq] at hok
      obtain ⟨context, hcontext, _, hnew, rfl, -⟩ := hok
      exact newReconnect_expected (pairs_of_reconnectContext hactive hcontext) hnew
  | none =>
      dsimp only at hok
      split_ifs at hok with hpending
      · simp only [bind_eq_ok, pure_eq_ok, someOr_eq_ok, Prod.mk.injEq] at hok
        obtain ⟨_, hrecovery, context, rfl, _, hnew, rfl, -⟩ := hok
        exact newReconnect_expected (pairs_of_recoveryContext hrecovery) hnew
      · simp only [bind_eq_ok, pure_eq_ok, PairingInitiator.new, Prod.mk.injEq] at hok
        obtain ⟨_, ⟨_, -, _, -, _, -, _, -, rfl⟩, rfl, -⟩ := hok
        exact ⟨trivial, rfl⟩

/-- What the lookups of the responder have found. -/
structure Found.At (found : Found) (rt : Runtime) (os : Opening) (h : Host) (start : Bytes) :
    Prop where
  activePair : (PairingStore.mk rt.root os.opened).activePairForPeerAt os.activeOrder h
    rt.identity.deviceId rt.peerDeviceId = .ok found.activePair
  pending : (PairingStore.mk rt.root os.opened).pendingForPeer os.pendingOrder h
    rt.identity.deviceId rt.peerDeviceId = .ok found.pending
  reconnectStart : PairingResponder.startIsReconnect start = .ok found.reconnectStart

theorem openResponder_expects {start : Bytes} {y : PairingResponder} {found : Found}
    (hok : openResponder rt os h start = .ok (y, found)) :
    y.Expects rt.peerDeviceId ∧ found.At rt os h start := by
  simp only [openResponder, bind_eq_ok] at hok
  obtain ⟨reconnectStart, hstart, activePair, hactive, pending, hpending, hok⟩ := hok
  cases activePair with
  | some pairId =>
      simp only [bind_eq_ok, pure_eq_ok, Prod.mk.injEq] at hok
      obtain ⟨context, hcontext, _, hnew, rfl, rfl⟩ := hok
      exact ⟨newReconnect_expected' (pairs_of_reconnectContext hactive hcontext) hnew,
        hactive, hpending, hstart⟩
  | none =>
      dsimp only at hok
      split_ifs at hok with hrecover
      · simp only [bind_eq_ok, pure_eq_ok, someOr_eq_ok, Prod.mk.injEq] at hok
        obtain ⟨_, hrecovery, context, rfl, _, hnew, rfl, rfl⟩ := hok
        exact ⟨newReconnect_expected' (pairs_of_recoveryContext hrecovery) hnew,
          hactive, hpending, hstart⟩
      · simp only [bind_eq_ok, pure_eq_ok, PairingResponder.new, Prod.mk.injEq] at hok
        obtain ⟨_, ⟨_, -, _, -, rfl⟩, rfl, rfl⟩ := hok
        exact ⟨⟨trivial, rfl⟩, hactive, hpending, hstart⟩

end Opened

section Authenticated

omit [Serde] [AppSerde]

omit [Crypto] in
private theorem PairingM.exec_keeps {σ α : Type} {R : Unit → Party σ → Party σ → Prop}
    {Q : Result α → Party σ → Prop} {m : PairingM σ α} {p q : Party σ} {a : α}
    (hkeeps : Keeps R m Q p) (hok : exec m p = .ok (a, q)) : Q (.ok a) q := by
  simp only [exec, bind_eq_ok, pure_eq_ok, Prod.mk.injEq] at hok
  obtain ⟨_, hresult, rfl, rfl⟩ := hok
  rw [← hresult]
  exact hkeeps.2

variable {session : AuthenticatedPairingSession} {stream rest : Bytes} {peer : Text}

theorem authenticateInitiator_meets {x : PairingInitiator} (hx : x.Expects peer)
    (hok : authenticateInitiator x stream = .ok (session, rest)) : session.Meets peer := by
  simp only [authenticateInitiator, bind_eq_ok, pure_eq_ok, Prod.mk.injEq, Prod.exists] at hok
  obtain ⟨_, _, hstart, _, -, _, _, -, _, _, _, hhandshake, _, -, _, -, _, _, -, _, _, hauth, _, -,
    _, _, -, _, _, hack, rfl, -⟩ := hok
  have hreached := exec_keeps (PairingInitiator.start_keeps .start) hstart _ rfl
  have hreached := exec_keeps
    (PairingInitiator.receiveResponderHandshake_keeps _ hreached) hhandshake _ rfl
  have hreached := exec_keeps
    (PairingInitiator.receiveResponderAuth_keeps hx.sound _ hreached) hauth _ rfl
  have hmeets := exec_keeps (PairingInitiator.receiveResponderAck_keeps _ hreached) hack _ rfl
  rw [← hx.peer]
  exact hmeets

private theorem authenticateResponder_meets {y : PairingResponder} {entropy : Noise.Entropy}
    {start : Bytes} (hy : y.Expects peer)
    (hok : authenticateResponder y entropy start stream = .ok (session, rest)) :
    session.Meets peer := by
  simp only [authenticateResponder, bind_eq_ok, pure_eq_ok, Prod.mk.injEq, Prod.exists] at hok
  obtain ⟨_, _, hstart, _, -, _, _, -, _, _, -, _, _, hfinish, _, -, _, _, -, _, _, _, hauth, _, -,
    rfl, -⟩ := hok
  have hreached := exec_keeps (PairingResponder.receiveInitiatorStart_keeps _ _ .start) hstart _ rfl
  have hreached := exec_keeps
    (PairingResponder.receiveInitiatorFinish_keeps hy.sound _ _ hreached) hfinish _ rfl
  have hmeets := exec_keeps (PairingResponder.receiveInitiatorAuth_keeps _ hreached) hauth _ rfl
  rw [← hy.peer]
  exact hmeets

end Authenticated

section Awaited

variable {session session' : AuthenticatedPairingSession} {stream rest : Bytes}

omit [Crypto] [AppSerde] [Serde] in
theorem sendMessage_sameEnds {message : PairMessage} {out : Bytes}
    (hok : sendMessage session message = .ok (out, session')) : session.SameEnds session' := by
  simp only [sendMessage, bind_eq_ok, pure_eq_ok, Prod.mk.injEq] at hok
  obtain ⟨payload, -, _, -, _, -, -, rfl⟩ := hok
  exact session.encrypt_sameEnds payload

omit [Crypto] [Serde] in
theorem receive_sameEnds {message : PairMessage}
    (hok : receive session stream = .ok (message, session', rest)) : session.SameEnds session' := by
  simp only [receive, receiveMessage, bind_eq_ok, pure_eq_ok, Prod.mk.injEq, Prod.exists] at hok
  obtain ⟨frame, _, -, _, _, ⟨_, -, _, -, -, rfl⟩, -, rfl, -⟩ := hok
  exact session.decrypt_sameEnds frame

theorem awaitRequest_meets {rt : Runtime} {os : Opening} {h : Host} {start : Bytes}
    {found : Found} (hok : awaitRequest rt os h start stream = .ok (found, session, rest)) :
    session.Meets rt.peerDeviceId ∧ found.At rt os h start := by
  simp only [awaitRequest, bind_eq_ok, pure_eq_ok, Prod.mk.injEq, Prod.exists] at hok
  obtain ⟨_, _, hopen, _, _, hauth, _, _, _, hreceive, _, -, rfl, rfl, -⟩ := hok
  obtain ⟨hexpects, hfound⟩ := openResponder_expects hopen
  exact ⟨(authenticateResponder_meets hexpects hauth).sameEnds (receive_sameEnds hreceive), hfound⟩

end Awaited

end OmarchySync
