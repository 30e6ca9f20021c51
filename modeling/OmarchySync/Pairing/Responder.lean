import OmarchySync.Pairing.Handshake

/-!
# The responder

Its three calls in order: message 2, the encrypted proof once the initiator's hello is
accepted, and the acknowledgement with the session once the initiator's signature is verified.
-/

namespace OmarchySync

open Logic Wire Traced PairingM

variable [Crypto] [Noise]

namespace PairingResponder

/-- Inspect a start frame before a responder is constructed. -/
def startIsReconnect (frame : Bytes) : Result Bool := do
  let (mode, _, _) ← decodeStartFrame frame maxHandshakeFrame
  return mode == modeReconnect

def new (identity : DeviceIdentity) (certificate : DeviceCertificate)
    (expectedPeerDeviceId : Text) (root : PinnedOmarchyRoot) (now : UInt64) :
    Result PairingResponder := do
  validateLocal identity certificate root now
  validateExpectedPeer expectedPeerDeviceId certificate.deviceId
  return Pairing.fresh identity none certificate expectedPeerDeviceId (.current root now) none
    (List.Vector.replicate 32 0)

def newReconnect (identity : DeviceIdentity) (context : PairedIdentityContext) :
    Result PairingResponder := do
  let role ← context.roleFor identity
  bailIf (role ≠ roleResponder) "paired identity is not the responder for this session"
  return Pairing.fresh identity (some context.pairId) (context.localCertificate role)
    (context.peerDeviceId role) (.paired context) none (List.Vector.replicate 32 0)

/-- Consume message 1; emit message 2. -/
def receiveInitiatorStart (entropy : Noise.Entropy) (frame : Bytes) :
    PairingM PairingResponder Bytes := do
  let (mode, pairId, message) ← decodeStartFrame frame maxHandshakeFrame
  let s ← self
  bailIf (mode ≠ s.mode) "pairing authentication mode differs"
  bailIf (s.pairId ≠ none ∧ s.pairId ≠ some pairId)
    "pairing PairID differs from the active relationship"
  update fun s => { s with pairId := some pairId }
  let (handshake, localStatic) ← buildHandshake false mode pairId entropy
  let read := Noise.readHandshake handshake maxHandshakeFrame message
  update fun s => { s with localStaticPublic := localStatic, handshake := some read.2 }
  let _ ← labelled "read Noise initiator message 1: " read.1
  let written := Noise.writeHandshake read.2 maxHandshakeFrame []
  update fun s => { s with handshake := some written.2 }
  let message2 ← labelled "write Noise responder message 2: " written.1
  encodeFrame kindHandshake roleResponder message2 maxHandshakeFrame

def parseAuthHello (s : PairingResponder) (payload : Bytes) : Result PeerAuth :=
  match s.validation with
  | .current root now => OmarchySync.parseAuthHello payload root now
  | .paired context => parsePairedAuth payload context roleInitiator false

def buildTranscript (s : PairingResponder) (peer : PeerAuth) : Result Bytes := do
  let info ← someOr "missing Noise handshake info" s.handshakeInfo
  let pairId ← someOr "missing pairing PairID" s.pairId
  makeTranscript info.hash s.mode pairId peer.certificate s.certificate info.remoteStatic
    s.localStaticPublic

/-- Consume message 3 and the hello; return the encrypted certificate and signature. -/
def receiveInitiatorFinish (handshakeFrame authFrame : Bytes) :
    PairingM PairingResponder Bytes := do
  let (kind, role, message) ← decodeFrame handshakeFrame maxHandshakeFrame
  bailIf (kind ≠ kindHandshake ∨ role ≠ roleInitiator)
    "unexpected initiator handshake completion frame"
  let handshake ← someOr "pairing already advanced" (← self).handshake
  let read := Noise.readHandshake handshake maxHandshakeFrame message
  update fun s => { s with handshake := some read.2 }
  let _ ← labelled "read Noise initiator message 3: " read.1
  update fun s => { s with handshake := none }
  let (transport, info) ← finishHandshake read.2
  act (.finished info.hash)
  let opened := decryptAuth transport authFrame roleInitiator 1
  update fun s => { s with handshakeInfo := some info, transport := some opened.2 }
  let hello ← opened.1
  act (.read hello)
  let s ← self
  let peer ← parseAuthHello s hello
  let transcript ← buildTranscript s peer
  bailIf (peer.deviceId = s.certificate.deviceId) "pairing reflection detected"
  bailIf (peer.deviceId ≠ s.expectedPeerDeviceId)
    "initiator identity differs from authenticated discovery"
  update fun s => { s with peer := some peer, sentAuth := true }
  let proof ← authProof s.certificate s.identity transcript roleResponder
  act (.signed transcript roleResponder)
  let sealed := encryptAuth opened.2 roleResponder 2 proof
  update fun s => { s with transcript := some transcript, transport := some sealed.2 }
  let out ← sealed.1
  act (.sent proof)
  return out

/-- Verify the initiator's signature; return the encrypted acknowledgement and the session. -/
def receiveInitiatorAuth (frame : Bytes) :
    PairingM PairingResponder (Bytes × AuthenticatedPairingSession) := do
  bailIf ((← self).sentAuth = false) "responder authentication proof was not sent"
  let transport ← someOr "missing transport" (← self).transport
  let opened := decryptAuth transport frame roleInitiator 3
  update fun s => { s with transport := some opened.2 }
  let payload ← opened.1
  act (.read payload)
  let s ← self
  let peer ← someOr "initiator hello was not verified" s.peer
  let transcript ← someOr "missing pairing transcript" s.transcript
  verifySignaturePayload peer transcript roleInitiator payload
  act (.verified peer.publicKey (signedMessage transcript roleInitiator) payload)
  let sealed := encryptAuth opened.2 roleResponder 4 ackMagic
  update fun s => { s with transport := some sealed.2 }
  let ack ← sealed.1
  let pairId ← someOr "missing pairing PairID" s.pairId
  update fun s => { s with transport := none }
  let session : AuthenticatedPairingSession :=
    { pairId
      localDeviceId := s.certificate.deviceId
      peerDeviceId := peer.deviceId
      localCertificate := s.certificate
      peerCertificate := peer.certificate
      sessionBinding := Crypto.sha256 transcript
      transport := sealed.2
      peerPublicKey := peer.publicKey
      localRole := roleResponder }
  act (.output (session.view s.mode))
  act (.sent ackMagic)
  return (ack, session)

/-- The initiator that `x` accepted under the handshake `hash`. -/
structure Proof (x : PairingResponder) (hash : Array8 32) (pairId : Text) (peer : PeerAuth)
    (transcript : Bytes) : Prop where
  named : peer.Named
  expected : peer.deviceId = x.expectedPeerDeviceId
  transcript : ∃ remoteStatic localStatic, makeTranscript hash x.mode pairId peer.certificate
    x.certificate remoteStatic localStatic = .ok transcript

/-- The session of `x` with a peer. -/
def view (x : PairingResponder) (pairId : Text) (peer : PeerAuth) (transcript : Bytes) :
    SessionView where
  mode := x.mode
  pairId := pairId
  localDeviceId := x.certificate.deviceId
  peerDeviceId := peer.deviceId
  localCertificate := x.certificate
  peerCertificate := peer.certificate
  sessionBinding := Crypto.sha256 transcript
  peerPublicKey := peer.publicKey
  localRole := roleResponder

/-- What `x` has done before it signs, acknowledges and concludes. -/
def Story (x : PairingResponder) (before : List Act) : Act → Prop
  | .signed transcript role => role = roleResponder ∧ ∃ hash hello pairId peer,
      before = [.finished hash, .read hello] ∧ Proof x hash pairId peer transcript
  | .sent plaintext => plaintext = ackMagic → ∃ session, .output session ∈ before
  | .output session => ∃ hash hello pairId peer transcript proof payload,
      before = [.finished hash, .read hello, .signed transcript roleResponder, .sent proof,
        .read payload,
        .verified peer.publicKey (signedMessage transcript roleInitiator) payload] ∧
      Proof x hash pairId peer transcript ∧
      VerifiesStrictly peer.publicKey (signedMessage transcript roleInitiator) payload ∧
      session = x.view pairId peer transcript
  | _ => True

/-- What holds of the party of `x` before each of its calls. -/
inductive Reached (x : PairingResponder) : Nat → Party PairingResponder → Prop where
  | start : Reached x 0 ⟨x, []⟩
  | finish (pairId localStaticPublic handshake) :
      Reached x 1 ⟨{ x with pairId := some pairId, localStaticPublic, handshake }, []⟩
  | auth (pairId localStaticPublic info transport hello peer transcript proof)
      (hproof : Proof x info.hash pairId peer transcript) :
      Reached x 2 ⟨{ x with
        pairId := some pairId, localStaticPublic, handshake := none, transport := some transport,
        handshakeInfo := some info, sentAuth := true, peer := some peer,
        transcript := some transcript },
        [.finished info.hash, .read hello, .signed transcript roleResponder, .sent proof]⟩

variable {x : PairingResponder} {p : Party PairingResponder}

theorem receiveInitiatorStart_keeps (entropy : Noise.Entropy) (frame : Bytes)
    (hp : Reached x 0 p) :
    Keeps (Tells x.Story) (receiveInitiatorStart entropy frame)
      (fun r q => ∀ out, r = .ok out → Reached x 1 q) p := by
  cases hp
  simp only [receiveInitiatorStart, keeps_self_bind, keeps_lift_bind, keeps_update_bind,
    keeps_lift, reduceCtorEq, false_implies, implies_true, and_true]
  intro start _ _ _ _ _ built _ _ _ _ _ _ _
  exact .finish start.2.1 built.2 _

private theorem hello_of_checks {s : PairingResponder} {info : HandshakeInfo} {pairId : Text}
    {payload transcript : Bytes} {peer : PeerAuth}
    (hparse : parseAuthHello s payload = .ok peer)
    (htranscript : buildTranscript s peer = .ok transcript)
    (hexpected : peer.deviceId = s.expectedPeerDeviceId)
    (hinfo : s.handshakeInfo = some info) (hpair : s.pairId = some pairId)
    (hsound : s.validation.Sound) : Proof s info.hash pairId peer transcript := by
  refine ⟨?_, hexpected, ?_⟩
  · unfold parseAuthHello at hparse
    split at hparse
    next => exact parseCurrentAuth_named hparse
    next context heq =>
      rw [heq] at hsound
      exact parsePairedAuth_named hsound hparse
  · simp only [buildTranscript, hinfo, hpair, bind_eq_ok, someOr_eq_ok,
      Option.some.injEq] at htranscript
    obtain ⟨_, rfl, _, rfl, htranscript⟩ := htranscript
    exact ⟨_, _, htranscript⟩

theorem receiveInitiatorFinish_keeps (hsound : x.validation.Sound)
    (handshakeFrame authFrame : Bytes) (hp : Reached x 1 p) :
    Keeps (Tells x.Story) (receiveInitiatorFinish handshakeFrame authFrame)
      (fun r q => ∀ out, r = .ok out → Reached x 2 q) p := by
  obtain ⟨⟩ | ⟨pairId, localStatic, handshake⟩ | ⟨⟩ := hp
  simp only [receiveInitiatorFinish, keeps_self_bind, keeps_lift_bind, keeps_update_bind,
    keeps_act_bind, keeps_pure, reduceCtorEq, false_implies, implies_true, and_true, Story,
    true_and, bailIf_eq_ok, not_not]
  intro _ _ _ _ _ _ _ _ finished _ hello _ peer hparse transcript htranscript _ _ _ hexpected
    proof hauth
  have hchecks := hello_of_checks hparse htranscript hexpected rfl rfl hsound
  have hproof : Proof x finished.2.hash pairId peer transcript :=
    ⟨hchecks.named, hchecks.expected, hchecks.transcript⟩
  constructor
  · exact ⟨finished.2.hash, hello, pairId, peer, rfl, hproof⟩
  · intro _ _
    constructor
    · intro hack
      exact absurd hack (authProof_ne_ack hauth)
    · intro _ _
      exact .auth pairId localStatic finished.2 _ hello peer transcript proof hproof

theorem receiveInitiatorAuth_keeps (frame : Bytes) (hp : Reached x 2 p) :
    Keeps (Tells x.Story) (receiveInitiatorAuth frame)
      (fun r _ => ∀ out, r = .ok out → out.2.Meets x.expectedPeerDeviceId) p := by
  obtain ⟨⟩ | ⟨⟩ | ⟨pairId, localStatic, info, transport, hello, peer, transcript, proof, hproof⟩ :=
    hp
  simp only [receiveInitiatorAuth, keeps_self_bind, keeps_lift_bind, keeps_update_bind,
    keeps_act_bind, keeps_pure, implies_true, and_true, Story, true_and, someOr_eq_ok,
    Option.some.injEq, bailIf_eq_ok, reduceCtorEq, false_implies]
  intro _ _ _ _ payload _ _ hpeer _ htranscript _ hverify _ _ _ hpair
  subst hpeer htranscript hpair
  refine ⟨?_, ?_, ?_⟩
  · exact ⟨info.hash, hello, pairId, peer, transcript, proof, payload, rfl, hproof,
      verifiesStrictly_of_verifySignaturePayload hverify, rfl⟩
  · intro _
    exact ⟨_, List.mem_append_right _ (List.mem_singleton_self _)⟩
  · intro out hout
    cases hout
    exact ⟨hproof.expected, hproof.named.deviceId.trans hproof.expected⟩

end PairingResponder

end OmarchySync
