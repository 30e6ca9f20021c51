import OmarchySync.Runtime.Exchange

/-!
# The two drivers

`run_initiator` and `run_responder_with_start`, cut where they wait for a frame: a stage is
what a driver still holds there, and a phase is what it does between two reads. Nothing
between the first and the last message of the authentication touches the store, so the two
drivers go through it in one step.
-/

namespace OmarchySync

open Logic Wire Traced PairingM

variable [Crypto] [Noise]

/-- A daemon with its enrollment, and the device it has discovered. -/
structure Runtime where
  identity : DeviceIdentity
  root : PinnedOmarchyRoot
  certificate : DeviceCertificate
  peerDeviceId : Text

/-- What a driver takes from the operating system up to the handshake: the clock when it opens
the store and when it validates certificates, the order of each directory scan, and randomness. -/
structure Opening where
  opened : UInt64
  now : UInt64
  activeOrder : ReadDir
  pendingOrder : ReadDir
  recoveryOrder : ReadDir
  random : Result (Array8 16)
  entropy : Noise.Entropy

section Opening

variable [Serde]

/-- The initiator's choice between first contact, pending recovery and active reconnect. -/
def openInitiator (rt : Runtime) (os : Opening) (h : Host) : Result (PairingInitiator × Bool) := do
  let store : PairingStore := ⟨rt.root, os.opened⟩
  let context ← store.activePairForPeerAt os.activeOrder h rt.identity.deviceId rt.peerDeviceId
  let pending ← store.pendingForPeer os.pendingOrder h rt.identity.deviceId rt.peerDeviceId
  let reconnect := context.isSome || pending.isSome
  match context with
  | some pairId =>
      let paired ← store.reconnectContext h rt.identity pairId
      let initiator ← PairingInitiator.newReconnect rt.identity paired os.entropy
      return (initiator, reconnect)
  | none =>
      if pending.isSome then
        let recovery ← store.recoveryContext os.recoveryOrder h rt.identity rt.peerDeviceId
        let recovery ← someOr "pending pairing recovery context is missing" recovery
        let initiator ← PairingInitiator.newReconnect rt.identity recovery os.entropy
        return (initiator, reconnect)
      else
        let initiator ← PairingInitiator.new rt.identity rt.certificate rt.peerDeviceId rt.root
          os.now os.random os.entropy
        return (initiator, reconnect)

/-- What the responder's lookups found when it was called. -/
structure Found where
  activePair : Option Text
  pending : Option PairingRecord
  reconnectStart : Bool

/-- The responder's choice, which also depends on the initiator's first message. -/
def openResponder (rt : Runtime) (os : Opening) (h : Host) (start : Bytes) :
    Result (PairingResponder × Found) := do
  let store : PairingStore := ⟨rt.root, os.opened⟩
  let reconnectStart ← PairingResponder.startIsReconnect start
  let activePair ← store.activePairForPeerAt os.activeOrder h rt.identity.deviceId rt.peerDeviceId
  let pending ← store.pendingForPeer os.pendingOrder h rt.identity.deviceId rt.peerDeviceId
  let found : Found := { activePair, pending, reconnectStart }
  match activePair with
  | some pairId =>
      let paired ← store.reconnectContext h rt.identity pairId
      return (← PairingResponder.newReconnect rt.identity paired, found)
  | none =>
      if pending.isSome ∧ reconnectStart = true then
        let recovery ← store.recoveryContext os.recoveryOrder h rt.identity rt.peerDeviceId
        let recovery ← someOr "pairing recovery context is missing" recovery
        return (← PairingResponder.newReconnect rt.identity recovery, found)
      else
        let responder ← PairingResponder.new rt.identity rt.certificate rt.peerDeviceId rt.root
          os.now
        return (responder, found)

end Opening

/-- Where the initiator's driver waits. -/
inductive InitiatorStage where
  | idle
  | dialed (store : PairingStore) (reconnect : Bool) (party : Party PairingInitiator)
  | response (store : PairingStore) (reconnect : Bool) (session : AuthenticatedPairingSession)
  | finalized (store : PairingStore) (complete : PairingRecord)
      (session : AuthenticatedPairingSession)
  | returned (result : Result Unit)

/-- Where the responder's driver waits. -/
inductive ResponderStage where
  | listening
  | request (store : PairingStore) (found : Found) (session : AuthenticatedPairingSession)
  | complete (store : PairingStore) (session : AuthenticatedPairingSession)
  | returned (result : Result Unit)

section Phases

omit [Crypto] in
/-- Encode, encrypt and write one message. -/
def sendMessage (session : AuthenticatedPairingSession) (message : PairMessage) :
    Result (Bytes × AuthenticatedPairingSession) := do
  let payload ← encodeApp message
  let frame ← (session.encrypt payload).1
  return (← writeWire frame, (session.encrypt payload).2)

variable [AppSerde]

omit [Crypto] in
/-- Decrypt and decode one message. -/
def receiveMessage (session : AuthenticatedPairingSession) (frame : Bytes) :
    Result (PairMessage × AuthenticatedPairingSession) := do
  let payload ← (session.decrypt frame).1
  return (← decodeApp payload, (session.decrypt frame).2)

variable [Serde]

/-- A record that already carries the signature of this device in its role. -/
def PairingRecord.signedBy (r : PairingRecord) (deviceId : Text) : Prop :=
  (r.initiatorSignature.isSome ∧ deviceId = r.initiatorDeviceId) ∨
    (r.responderSignature.isSome ∧ deviceId = r.responderDeviceId)

instance (r : PairingRecord) (deviceId : Text) : Decidable (r.signedBy deviceId) :=
  inferInstanceAs (Decidable (_ ∨ _))

/-- The record that the initiator returns for a prepared one. -/
def completeRecord (rt : Runtime) (env : Env) (store : PairingStore)
    (session : AuthenticatedPairingSession) (record : PairingRecord) : StoreM PairingRecord := do
  let h ← Traced.read
  let localPending ← store.pendingForPeer env.order h rt.identity.deviceId session.peerDeviceId
  match localPending.filter (·.isComplete) with
  | some pending =>
      bailIf (pending.pairId ≠ record.pairId) "pending recovery PairID differs from responder"
      return pending
  | none =>
      if record.signedBy rt.identity.deviceId then return record
      else store.coSign env session rt.identity record

namespace InitiatorStage

def onResponse (rt : Runtime) (env : Env) (store : PairingStore) (reconnect : Bool)
    (session : AuthenticatedPairingSession) (frame : Bytes) :
    StoreM (InitiatorStage × Bytes) := do
  let (message, session) ← receiveMessage session frame
  match message with
  | .complete bytes =>
      bailIf (reconnect = false) "unexpected pairing record response"
      let complete ← PairingRecord.fromBytes bytes
      return (finalized store complete session, [])
  | .prepared bytes =>
      let record ← PairingRecord.fromBytes bytes
      let complete ← completeRecord rt env store session record
      let bytes ← complete.toBytes
      let (out, session) ← sendMessage session (.complete bytes)
      return (finalized store complete session, out)
  | _ => liftM (Except.error "unexpected pairing record response" : Result _)

def onFinalized (rt : Runtime) (env : Env) (store : PairingStore) (complete : PairingRecord)
    (session : AuthenticatedPairingSession) (frame : Bytes) :
    StoreM (InitiatorStage × Bytes) := do
  let (message, session) ← receiveMessage session frame
  bailIf (message ≠ .finalized) "expected finalized pairing acknowledgement"
  store.reconcile env session rt.identity complete
  return (returned (.ok ()), [])

/-- From one read to the next: the stage reached and the bytes written. -/
def receive (rt : Runtime) (env : Env) (frame : Bytes) :
    InitiatorStage → StoreM (InitiatorStage × Bytes)
  | response store reconnect session => onResponse rt env store reconnect session frame
  | finalized store complete session => onFinalized rt env store complete session frame
  | stage => return (stage, [])

end InitiatorStage

/-- The record that the responder offers to the initiator. -/
def preparedRecord (rt : Runtime) (env : Env) (broker : AuthorizationBroker) (store : PairingStore)
    (found : Found) (session : AuthenticatedPairingSession) : StoreM PairingRecord :=
  match found.pending with
  | some record =>
      if found.reconnectStart then return record
      else store.resumePrepare env session rt.identity record
  | none => store.prepare env session rt.identity broker

/-- Activate a complete record; an incomplete one is left alone. -/
def activateRecord (rt : Runtime) (env : Env) (store : PairingStore)
    (session : AuthenticatedPairingSession) (complete : PairingRecord) : StoreM Unit :=
  if complete.isComplete then
    if complete.sessionBinding = session.sessionBinding then
      store.finalize env session rt.identity complete
    else store.reconcile env session rt.identity complete
  else return ()

namespace ResponderStage

def onRequest (rt : Runtime) (env : Env) (broker : AuthorizationBroker) (store : PairingStore)
    (found : Found) (session : AuthenticatedPairingSession) (frame : Bytes) :
    StoreM (ResponderStage × Bytes) := do
  let (message, session) ← receiveMessage session frame
  bailIf (message ≠ .request) "expected pairing record request"
  match found.activePair with
  | some pairId =>
      let h ← Traced.read
      let record ← store.load h pairId
      let record ← someOr "active pairing record disappeared" record
      let bytes ← record.toBytes
      let (first, session) ← sendMessage session (.complete bytes)
      -- the first frame is on the wire whatever becomes of the second
      match sendMessage session .finalized with
      | .ok (second, _) => return (returned (.ok ()), first ++ second)
      | .error e => return (returned (.error e), first)
  | none =>
      let prepared ← preparedRecord rt env broker store found session
      let bytes ← prepared.toBytes
      let (out, session) ← sendMessage session (.prepared bytes)
      return (complete store session, out)

def onComplete (rt : Runtime) (env : Env) (store : PairingStore)
    (session : AuthenticatedPairingSession) (frame : Bytes) :
    StoreM (ResponderStage × Bytes) := do
  let (message, session) ← receiveMessage session frame
  match message with
  | .complete bytes =>
      let complete ← PairingRecord.fromBytes bytes
      activateRecord rt env store session complete
      let (out, _) ← sendMessage session .finalized
      return (returned (.ok ()), out)
  | _ => liftM (Except.error "expected completed pairing record" : Result _)

def receive (rt : Runtime) (env : Env) (broker : AuthorizationBroker) (frame : Bytes) :
    ResponderStage → StoreM (ResponderStage × Bytes)
  | request store found session => onRequest rt env broker store found session frame
  | complete store session => onComplete rt env store session frame
  | stage => return (stage, [])

end ResponderStage

end Phases

end OmarchySync
