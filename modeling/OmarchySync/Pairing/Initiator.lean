import OmarchySync.Pairing.Handshake

/-!
# The initiator

Its four calls in order: message 1, message 3 with the encrypted hello, the transcript
signature once the responder's proof is verified, and the session once it is acknowledged.
-/

namespace OmarchySync

open Logic Wire Traced PairingM

variable [Crypto] [Noise]

namespace PairingInitiator

/-- `random` and `entropy` are what the operating system and the Noise library draw. -/
def new (identity : DeviceIdentity) (certificate : DeviceCertificate)
    (expectedPeerDeviceId : Text) (root : PinnedOmarchyRoot) (now : UInt64)
    (random : Result (Array8 16)) (entropy : Noise.Entropy) : Result PairingInitiator := do
  validateLocal identity certificate root now
  validateExpectedPeer expectedPeerDeviceId certificate.deviceId
  let pairId ← randomPairId random
  let (handshake, localStatic) ← buildHandshake true modeFirstContact pairId entropy
  return Pairing.fresh identity pairId certificate expectedPeerDeviceId (.current root now)
    (some handshake) localStatic

def newReconnect (identity : DeviceIdentity) (context : PairedIdentityContext)
    (entropy : Noise.Entropy) : Result PairingInitiator := do
  let role ← context.roleFor identity
  bailIf (role ≠ roleInitiator) "paired identity is not the initiator for this session"
  let (handshake, localStatic) ← buildHandshake true modeReconnect context.pairId entropy
  return Pairing.fresh identity context.pairId (context.localCertificate role)
    (context.peerDeviceId role) (.paired context) (some handshake) localStatic

/-- Emit Noise message 1. -/
def start : PairingM PairingInitiator Bytes := do
  let handshake ← someOr "pairing already advanced" (← self).handshake
  let written := Noise.writeHandshake handshake maxHandshakeFrame []
  update fun s => { s with handshake := some written.2 }
  let message ← labelled "write Noise initiator message 1: " written.1
  let s ← self
  encodeStartFrame kindHandshake roleInitiator s.mode s.pairId message maxHandshakeFrame

/-- Consume message 2; return message 3 and the encrypted hello. -/
def receiveResponderHandshake (frame : Bytes) : PairingM PairingInitiator (Bytes × Bytes) := do
  let (kind, role, message) ← decodeFrame frame maxHandshakeFrame
  bailIf (kind ≠ kindHandshake ∨ role ≠ roleResponder) "unexpected responder handshake frame"
  let handshake ← someOr "pairing already advanced" (← self).handshake
  let read := Noise.readHandshake handshake maxHandshakeFrame message
  update fun s => { s with handshake := some read.2 }
  let _ ← labelled "read Noise responder message 2: " read.1
  let written := Noise.writeHandshake read.2 maxHandshakeFrame []
  update fun s => { s with handshake := some written.2 }
  let message3 ← labelled "write Noise initiator message 3: " written.1
  update fun s => { s with handshake := none }
  let (transport, info) ← finishHandshake written.2
  update fun s => { s with
    handshakeInfo := some info, transport := some transport, sentAuth := true }
  act (.finished info.hash)
  let hello ← authHello (← self).certificate
  let auth := encryptAuth transport roleInitiator 1 hello
  update fun s => { s with transport := some auth.2 }
  let authFrame ← auth.1
  let finish ← encodeFrame kindHandshake roleInitiator message3 maxHandshakeFrame
  act (.sent hello)
  return (finish, authFrame)

def parseAuthProof (s : PairingInitiator) (payload : Bytes) : Result PeerAuth :=
  match s.validation with
  | .current root now => OmarchySync.parseAuthProof payload root now
  | .paired context => parsePairedAuth payload context roleResponder true

def buildTranscript (s : PairingInitiator) (peer : PeerAuth) : Result Bytes := do
  let info ← someOr "missing Noise handshake info" s.handshakeInfo
  makeTranscript info.hash s.mode s.pairId s.certificate peer.certificate s.localStaticPublic
    info.remoteStatic

/-- Verify the responder's certificate and signature; return the encrypted signature. -/
def receiveResponderAuth (frame : Bytes) : PairingM PairingInitiator Bytes := do
  bailIf ((← self).sentAuth = false) "initiator authentication hello was not sent"
  let transport ← someOr "missing transport" (← self).transport
  let opened := decryptAuth transport frame roleResponder 2
  update fun s => { s with transport := some opened.2 }
  let payload ← opened.1
  act (.read payload)
  let s ← self
  let peer ← parseAuthProof s payload
  bailIf (peer.deviceId = s.certificate.deviceId) "pairing reflection detected"
  bailIf (peer.deviceId ≠ s.expectedPeerDeviceId)
    "responder identity differs from authenticated discovery"
  let transcript ← buildTranscript s peer
  verifySignature peer transcript roleResponder
  act (.verified peer.publicKey (signedMessage transcript roleResponder)
    (signatureBytes peer.signature))
  update fun s => { s with transcript := some transcript, peer := some peer }
  let signature := signedAuthPayload s.identity transcript roleInitiator
  act (.signed transcript roleInitiator)
  let sealed := encryptAuth opened.2 roleInitiator 3 signature
  update fun s => { s with transport := some sealed.2 }
  let out ← sealed.1
  act (.sent signature)
  return out

/-- Conclude once the responder acknowledges that it verified the signature too. -/
def receiveResponderAck (frame : Bytes) :
    PairingM PairingInitiator AuthenticatedPairingSession := do
  let transport ← someOr "missing transport" (← self).transport
  let opened := decryptAuth transport frame roleResponder 4
  update fun s => { s with transport := some opened.2 }
  let payload ← opened.1
  act (.read payload)
  bailIf (payload ≠ ackMagic) "invalid pairing acknowledgement"
  let s ← self
  let peer ← someOr "responder proof was not verified" s.peer
  update fun s => { s with peer := none }
  let transcript ← someOr "missing pairing transcript" s.transcript
  update fun s => { s with transport := none }
  let session : AuthenticatedPairingSession :=
    { pairId := s.pairId
      localDeviceId := s.certificate.deviceId
      peerDeviceId := peer.deviceId
      localCertificate := s.certificate
      peerCertificate := peer.certificate
      sessionBinding := Crypto.sha256 transcript
      transport := opened.2
      peerPublicKey := peer.publicKey
      localRole := roleInitiator }
  act (.output (session.view s.mode))
  return session

/-- The responder that `x` verified under the handshake `hash`. -/
structure Proof (x : PairingInitiator) (hash : Array8 32) (peer : PeerAuth) (transcript : Bytes) :
    Prop where
  named : peer.Named
  expected : peer.deviceId = x.expectedPeerDeviceId
  verified : VerifiesStrictly peer.publicKey (signedMessage transcript roleResponder)
    (signatureBytes peer.signature)
  transcript : ∃ remoteStatic, makeTranscript hash x.mode x.pairId x.certificate
    peer.certificate x.localStaticPublic remoteStatic = .ok transcript

/-- The session of `x` with a peer. -/
def view (x : PairingInitiator) (peer : PeerAuth) (transcript : Bytes) : SessionView where
  mode := x.mode
  pairId := x.pairId
  localDeviceId := x.certificate.deviceId
  peerDeviceId := peer.deviceId
  localCertificate := x.certificate
  peerCertificate := peer.certificate
  sessionBinding := Crypto.sha256 transcript
  peerPublicKey := peer.publicKey
  localRole := roleInitiator

/-- What `x` has done before it signs and before it concludes. -/
def Story (x : PairingInitiator) (before : List Act) : Act → Prop
  | .signed transcript role => role = roleInitiator ∧ ∃ hash hello proof peer,
      before = [.finished hash, .sent hello, .read proof,
        .verified peer.publicKey (signedMessage transcript roleResponder)
          (signatureBytes peer.signature)] ∧
      Proof x hash peer transcript
  | .output session => ∃ hash hello proof peer transcript signature,
      before = [.finished hash, .sent hello, .read proof,
        .verified peer.publicKey (signedMessage transcript roleResponder)
          (signatureBytes peer.signature),
        .signed transcript roleInitiator, .sent signature, .read ackMagic] ∧
      Proof x hash peer transcript ∧ session = x.view peer transcript
  | _ => True

/-- What holds of the party of `x` before each of its calls. -/
inductive Reached (x : PairingInitiator) : Nat → Party PairingInitiator → Prop where
  | start : Reached x 0 ⟨x, []⟩
  | handshake (handshake) : Reached x 1 ⟨{ x with handshake }, []⟩
  | auth (info transport hello) :
      Reached x 2 ⟨{ x with
        handshake := none, transport := some transport, handshakeInfo := some info,
        sentAuth := true }, [.finished info.hash, .sent hello]⟩
  | ack (info transport hello proof peer transcript signature)
      (hproof : Proof x info.hash peer transcript) :
      Reached x 3 ⟨{ x with
        handshake := none, transport := some transport, handshakeInfo := some info,
        sentAuth := true, peer := some peer, transcript := some transcript },
        [.finished info.hash, .sent hello, .read proof,
          .verified peer.publicKey (signedMessage transcript roleResponder)
            (signatureBytes peer.signature),
          .signed transcript roleInitiator, .sent signature]⟩

variable {x : PairingInitiator} {p : Party PairingInitiator}

theorem start_keeps (hp : Reached x 0 p) :
    Keeps (Tells x.Story) start (fun r q => ∀ out, r = .ok out → Reached x 1 q) p := by
  cases hp
  simp only [start, keeps_self_bind, keeps_lift_bind, keeps_update_bind, keeps_lift,
    reduceCtorEq, false_implies, implies_true, and_true]
  intro _ _ _ _ _ _
  exact .handshake _

theorem receiveResponderHandshake_keeps (frame : Bytes) (hp : Reached x 1 p) :
    Keeps (Tells x.Story) (receiveResponderHandshake frame)
      (fun r q => ∀ out, r = .ok out → Reached x 2 q) p := by
  cases hp
  simp only [receiveResponderHandshake, keeps_self_bind, keeps_lift_bind, keeps_update_bind,
    keeps_act_bind, keeps_pure, reduceCtorEq, false_implies, implies_true, and_true, Story,
    true_and]
  intro message _ _ _ handshake _ _ _ message3 _ finished _ hello _ authFrame _ finish _ out _
  exact .auth finished.2 _ hello

private theorem proof_of_checks {s : PairingInitiator} {info : HandshakeInfo}
    {payload transcript : Bytes} {peer : PeerAuth}
    (hparse : parseAuthProof s payload = .ok peer)
    (hexpected : peer.deviceId = s.expectedPeerDeviceId)
    (htranscript : buildTranscript s peer = .ok transcript) {u : Unit}
    (hverify : verifySignature peer transcript roleResponder = .ok u)
    (hinfo : s.handshakeInfo = some info) (hsound : s.validation.Sound) :
    Proof s info.hash peer transcript := by
  refine ⟨?_, hexpected, verifiesStrictly_of_verifySignature hverify, ?_⟩
  · unfold parseAuthProof at hparse
    split at hparse
    next => exact parseCurrentAuth_named hparse
    next context heq =>
      rw [heq] at hsound
      exact parsePairedAuth_named hsound hparse
  · simp only [buildTranscript, hinfo, bind_eq_ok, someOr_eq_ok, Option.some.injEq] at htranscript
    obtain ⟨_, rfl, htranscript⟩ := htranscript
    exact ⟨_, htranscript⟩

theorem receiveResponderAuth_keeps (hsound : x.validation.Sound) (frame : Bytes)
    (hp : Reached x 2 p) :
    Keeps (Tells x.Story) (receiveResponderAuth frame)
      (fun r q => ∀ out, r = .ok out → Reached x 3 q) p := by
  obtain ⟨⟩ | ⟨⟩ | ⟨info, transport, hello⟩ | ⟨⟩ := hp
  simp only [receiveResponderAuth, keeps_self_bind, keeps_lift_bind, keeps_update_bind,
    keeps_act_bind, keeps_pure, reduceCtorEq, false_implies, implies_true, and_true, Story,
    true_and, bailIf_eq_ok, not_not]
  intro _ _ transport _ payload _ peer hparse _ _ _ hexpected transcript htranscript _ hverify
  have hchecks := proof_of_checks hparse hexpected htranscript hverify rfl hsound
  have hproof : Proof x info.hash peer transcript :=
    ⟨hchecks.named, hchecks.expected, hchecks.verified, hchecks.transcript⟩
  constructor
  · exact ⟨info.hash, hello, payload, peer, rfl, hproof⟩
  · intro _ _ _ _
    exact .ack info _ hello payload peer transcript _ hproof

theorem receiveResponderAck_keeps (frame : Bytes) (hp : Reached x 3 p) :
    Keeps (Tells x.Story) (receiveResponderAck frame)
      (fun r _ => ∀ session, r = .ok session → session.Meets x.expectedPeerDeviceId) p := by
  obtain ⟨⟩ | ⟨⟩ | ⟨⟩ | ⟨info, transport, hello, proof, peer, transcript, signature, hproof⟩ := hp
  simp only [receiveResponderAck, keeps_self_bind, keeps_lift_bind, keeps_update_bind,
    keeps_act_bind, keeps_pure, implies_true, and_true, Story, true_and, someOr_eq_ok,
    Option.some.injEq, bailIf_eq_ok, not_not, reduceCtorEq, false_implies]
  intro _ _ payload _ _ hack peer hpeer transcript htranscript
  subst hack hpeer htranscript
  constructor
  · exact ⟨info.hash, hello, proof, peer, transcript, signature, rfl, hproof, rfl⟩
  · intro session hout
    cases hout
    exact ⟨hproof.expected, hproof.named.deviceId.trans hproof.expected⟩

end PairingInitiator

end OmarchySync
