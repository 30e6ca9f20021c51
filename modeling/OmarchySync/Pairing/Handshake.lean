import OmarchySync.Logic.History
import OmarchySync.Logic.Traced
import OmarchySync.Pairing.Peer

/-!
# Ends of a handshake

The state the two ends of the exchange keep, the framing of their messages, and the acts by
which an end can be observed: what it reads, verifies, signs, hands out and concludes.
-/

namespace OmarchySync

open Logic Wire Traced

section Checks

variable [Crypto]

def validateLocal (identity : DeviceIdentity) (certificate : DeviceCertificate)
    (root : PinnedOmarchyRoot) (now : UInt64) : Result Unit := do
  bailIf (certificate.deviceId ≠ identity.deviceId ∨
    certificate.publicKey ≠ identity.publicKey) "local certificate does not match device identity"
  context "verify local device certificate" (certificate.verify root now)

omit [Crypto] in
def validateExpectedPeer (expected localId : Text) : Result Unit := do
  bailIf (badHexId expected) "invalid expected peer DeviceID"
  bailIf (expected = localId) "expected peer DeviceID must differ from local identity"

def validatePairId (pairId : Text) : Result Unit :=
  bailIf (badHexId pairId) "invalid pairing PairID"

/-- Sixteen bytes of the operating system's random source, if it can be read. -/
def randomPairId (source : Result (Array8 16)) : Result Text := do
  return hexText (← source).toList

end Checks

def encodeStartFrame (kind role mode : UInt8) (pairId : Text) (payload : Bytes) (max : Nat) :
    Result Bytes := do
  validatePairId pairId
  bailIf (mode ≠ modeFirstContact ∧ mode ≠ modeReconnect) "invalid pairing authentication mode"
  encodeFrame kind role (mode :: (pairId.bytes ++ payload)) max

def decodeStartFrame (frame : Bytes) (max : Nat) : Result (UInt8 × Text × Bytes) := do
  let (kind, role, payload) ← decodeFrame frame max
  bailIf (kind ≠ kindHandshake ∨ role ≠ roleInitiator) "unexpected initiator handshake frame"
  bailIf (payload.length < 1 + 32) "truncated initiator handshake frame"
  let pairId ← someOr "invalid pairing PairID" (Text.ofBytes? ((payload.drop 1).take 32))
  validatePairId pairId
  return (payload.headD 0, pairId, payload.drop 33)

/-- What an end knows of its completed handshake. -/
structure HandshakeInfo where
  hash : Array8 32
  remoteStatic : Array8 32

section Noise

variable [Noise]

def buildHandshake (initiator : Bool) (mode : UInt8) (pairId : Text) (entropy : Noise.Entropy) :
    Result (Noise.HandshakeState × Array8 32) := do
  validatePairId pairId
  bailIf (mode ≠ modeFirstContact ∧ mode ≠ modeReconnect) "invalid pairing authentication mode"
  Noise.build initiator (transcriptMagic ++ mode :: pairId.bytes) entropy

def finishHandshake (handshake : Noise.HandshakeState) :
    Result (Noise.TransportState × HandshakeInfo) := do
  bailIf (Noise.isHandshakeFinished handshake = false) "Noise handshake is incomplete"
  let remoteStatic ← someOr "Noise peer static key missing" (Noise.remoteStatic handshake)
  let remoteStatic ← exactly 32 "invalid Noise peer static key length" remoteStatic
  let hash ← exactly 32 "invalid Noise handshake hash length" (Noise.handshakeHash handshake)
  let transport ← labelled "enter Noise transport mode: " (Noise.intoTransportMode handshake)
  return (transport, { hash, remoteStatic })

/-- Seal an authentication payload. The transport has advanced before the frame is built. -/
def encryptAuth (transport : Noise.TransportState) (role sequence : UInt8) (plaintext : Bytes) :
    Result Bytes × Noise.TransportState :=
  if plaintext.length > maxAuthPlaintext then
    (.error "authentication payload exceeds size limit", transport)
  else
    let written := Noise.writeMessage transport (plaintext.length + 16) plaintext
    (labelled "encrypt authentication frame: " written.1 >>= fun ciphertext =>
      encodeFrameWithSequence kindAuth role sequence ciphertext maxAuthFrame, written.2)

/-- Open the authentication frame of the given role and sequence number. -/
def decryptAuth (transport : Noise.TransportState) (frame : Bytes) (expectedRole sequence : UInt8) :
    Result Bytes × Noise.TransportState :=
  match decodeFrameWithSequence frame maxAuthFrame with
  | .error e => (.error e, transport)
  | .ok (kind, role, gotSequence, payload) =>
      if kind ≠ kindAuth ∨ role ≠ expectedRole ∨ gotSequence ≠ sequence then
        (.error "unexpected authentication frame", transport)
      else
        let plaintext := Noise.readMessage transport maxAuthPlaintext payload
        (labelled "decrypt authentication frame: " plaintext.1, plaintext.2)

variable [Crypto]

/-- One end of the caller-driven exchange. Both roles keep the same fields; the initiator knows
the PairID from the start. -/
structure Pairing (Id : Type) where
  identity : DeviceIdentity
  pairId : Id
  certificate : DeviceCertificate
  expectedPeerDeviceId : Text
  validation : PeerValidation
  handshake : Option Noise.HandshakeState
  localStaticPublic : Array8 32
  transport : Option Noise.TransportState
  handshakeInfo : Option HandshakeInfo
  transcript : Option Bytes
  peer : Option PeerAuth
  sentAuth : Bool

abbrev PairingInitiator := Pairing Text

abbrev PairingResponder := Pairing (Option Text)

namespace Pairing

variable {Id : Type}

def mode (s : Pairing Id) : UInt8 := s.validation.mode

/-- An end before its first call. -/
def fresh (identity : DeviceIdentity) (pairId : Id) (certificate : DeviceCertificate)
    (expectedPeerDeviceId : Text) (validation : PeerValidation)
    (handshake : Option Noise.HandshakeState) (localStaticPublic : Array8 32) : Pairing Id :=
  { identity, pairId, certificate, expectedPeerDeviceId, validation, handshake,
    localStaticPublic, transport := none, handshakeInfo := none, transcript := none,
    peer := none, sentAuth := false }

end Pairing

/-- What an authenticated session says, its transport aside, and the mode it came from. -/
structure SessionView where
  mode : UInt8
  pairId : Text
  localDeviceId : Text
  peerDeviceId : Text
  localCertificate : DeviceCertificate
  peerCertificate : DeviceCertificate
  sessionBinding : Array8 32
  peerPublicKey : Array8 32
  localRole : UInt8
  deriving DecidableEq

omit [Crypto] in
def AuthenticatedPairingSession.view (session : AuthenticatedPairingSession) (mode : UInt8) :
    SessionView where
  mode := mode
  pairId := session.pairId
  localDeviceId := session.localDeviceId
  peerDeviceId := session.peerDeviceId
  localCertificate := session.localCertificate
  peerCertificate := session.peerCertificate
  sessionBinding := session.sessionBinding
  peerPublicKey := session.peerPublicKey
  localRole := session.localRole

/-- The acts of an end. `sent` stands where a call returns a sealed payload to its caller. -/
inductive Act where
  | finished (hash : Array8 32)
  | read (plaintext : Bytes)
  | verified (publicKey : Array8 32) (message signature : Bytes)
  | signed (transcript : Bytes) (role : UInt8)
  | sent (plaintext : Bytes)
  | output (session : SessionView)
  deriving DecidableEq

/-- An end together with its acts so far. -/
structure Party (σ : Type) where
  self : σ
  acts : List Act

end Noise

/-- The calls of one end, with its acts recorded. -/
abbrev PairingM (σ α : Type) := Traced Unit (Party σ) α

namespace PairingM

variable {σ α β : Type}

def self : PairingM σ σ := fun p => ⟨.ok p.self, []⟩

def update (f : σ → σ) : PairingM σ Unit := step () fun p => { p with self := f p.self }

def act (e : Act) : PairingM σ Unit := step () fun p => { p with acts := p.acts ++ [e] }

/-- A step adds acts, each of which stands in the relation `P` to those before it. -/
def Tells (P : List Act → Act → Prop) (_ : Unit) (a b : Party σ) : Prop :=
  ∃ new, b.acts = a.acts ++ new ∧ ThroughoutFrom P a.acts new

variable {P : List Act → Act → Prop} {Q : Result β → Party σ → Prop} {p : Party σ}

theorem Tells.refl (p : Party σ) : Tells P () p p :=
  ⟨[], by simp, trivial⟩

private theorem Tells.trans {a b c : Party σ} (h : Tells P () a b) (h' : Tells P () b c) :
    Tells P () a c := by
  obtain ⟨new, hacts, hnew⟩ := h
  obtain ⟨new', hacts', hnew'⟩ := h'
  refine ⟨new ++ new', by rw [hacts', hacts, List.append_assoc], ?_⟩
  rw [throughoutFrom_append]
  rw [hacts] at hnew'
  exact ⟨hnew, hnew'⟩

theorem Tells.throughout {a b : Party σ} (h : Tells P () a b) (ha : Throughout P a.acts) :
    Throughout P b.acts := by
  obtain ⟨new, hacts, hnew⟩ := h
  rw [hacts, throughout_append]
  exact ⟨ha, hnew⟩

/-- The whole call adds acts in the same way. -/
theorem tells_of_path {visited : List (Unit × Party σ)} (h : Logic.Path (Tells P) p visited) :
    Tells P () p (endState p visited) := by
  induction visited generalizing p with
  | nil => exact .refl p
  | cons v visited ih => exact h.1.trans (ih h.2)

theorem keeps_self_bind (f : σ → PairingM σ β) :
    Keeps (Tells P) (self >>= f) Q p ↔ Keeps (Tells P) (f p.self) Q p := by
  rw [keeps_bind]
  simp [Keeps, self, Logic.Path, endState]

theorem keeps_update_bind (g : σ → σ) (f : Unit → PairingM σ β) :
    Keeps (Tells P) (update g >>= f) Q p ↔
      Keeps (Tells P) (f ()) Q { p with self := g p.self } := by
  rw [update, keeps_step_bind]
  exact and_iff_right ⟨[], by simp, trivial⟩

theorem keeps_act_bind (e : Act) (f : Unit → PairingM σ β) :
    Keeps (Tells P) (act e >>= f) Q p ↔
      P p.acts e ∧ Keeps (Tells P) (f ()) Q { p with acts := p.acts ++ [e] } := by
  rw [act, keeps_step_bind]
  apply and_congr_left'
  constructor
  · intro h
    obtain ⟨new, hacts, hnew⟩ := h
    obtain rfl := List.append_cancel_left hacts
    exact hnew.1
  · intro h
    exact ⟨[e], rfl, h, trivial⟩

end PairingM

end OmarchySync
