import OmarchySync.Frame
import OmarchySync.Noise

/-!
# Authenticated pairing sessions

The result of a completed bilateral identity authentication, with its encrypted channel.
-/

namespace OmarchySync

open Logic Wire

/-- The reconnect credential: the two identities of one validated record. -/
structure PairedIdentityContext where
  pairId : Text
  initiatorDeviceId : Text
  responderDeviceId : Text
  initiatorPublicKey : Array8 32
  responderPublicKey : Array8 32
  initiatorCertificate : DeviceCertificate
  responderCertificate : DeviceCertificate
  deriving DecidableEq

namespace PairedIdentityContext

def fromValidatedRecord (pairId initiatorDeviceId responderDeviceId : Text)
    (initiatorPublicKey responderPublicKey : Array8 32)
    (initiatorCertificate responderCertificate : DeviceCertificate) :
    Result PairedIdentityContext := do
  bailIf (initiatorDeviceId = responderDeviceId ∨
    initiatorCertificate.deviceId ≠ initiatorDeviceId ∨
    responderCertificate.deviceId ≠ responderDeviceId ∨
    initiatorCertificate.publicKey ≠ initiatorPublicKey ∨
    responderCertificate.publicKey ≠ responderPublicKey) "paired identity context fields differ"
  return ⟨pairId, initiatorDeviceId, responderDeviceId, initiatorPublicKey, responderPublicKey,
    initiatorCertificate, responderCertificate⟩

end PairedIdentityContext

variable [Noise]

structure AuthenticatedPairingSession where
  pairId : Text
  localDeviceId : Text
  peerDeviceId : Text
  localCertificate : DeviceCertificate
  peerCertificate : DeviceCertificate
  sessionBinding : Array8 32
  transport : Noise.TransportState
  peerPublicKey : Array8 32
  localRole : UInt8

namespace AuthenticatedPairingSession

def isInitiator (s : AuthenticatedPairingSession) : Bool := s.localRole == roleInitiator

/-- The two certificates placed by role, the initiator's first. -/
def certificatesByRole (s : AuthenticatedPairingSession) : DeviceCertificate × DeviceCertificate :=
  if s.isInitiator then (s.localCertificate, s.peerCertificate)
  else (s.peerCertificate, s.localCertificate)

/-- Encrypt one application payload. The transport has advanced before the frame is built. -/
def encrypt (s : AuthenticatedPairingSession) (plaintext : Bytes) :
    Result Bytes × AuthenticatedPairingSession :=
  if plaintext.length > maxTransportPlaintext then
    (.error "transport plaintext exceeds size limit", s)
  else
    match Noise.writeMessage s.transport (plaintext.length + 16) plaintext with
    | (.error e, t) => (.error ("encrypt transport frame: " ++ e), { s with transport := t })
    | (.ok ciphertext, t) =>
        (encodeFrame kindTransport s.localRole ciphertext maxTransportFrame,
          { s with transport := t })

/-- Decrypt one application frame sent by the peer. -/
def decrypt (s : AuthenticatedPairingSession) (frame : Bytes) :
    Result Bytes × AuthenticatedPairingSession :=
  match decodeFrame frame maxTransportFrame with
  | .error e => (.error e, s)
  | .ok (kind, role, payload) =>
      if kind ≠ kindTransport ∨ role = s.localRole then
        (.error "unexpected transport frame role or kind", s)
      else
        match Noise.readMessage s.transport maxTransportPlaintext payload with
        | (.error e, t) => (.error ("decrypt transport frame: " ++ e), { s with transport := t })
        | (.ok plaintext, t) => (.ok plaintext, { s with transport := t })

/-- The second is the first after some traffic. -/
def SameEnds (s s' : AuthenticatedPairingSession) : Prop :=
  ∃ transport, s' = { s with transport }

theorem encrypt_sameEnds (s : AuthenticatedPairingSession) (plaintext : Bytes) :
    s.SameEnds (s.encrypt plaintext).2 := by
  unfold encrypt
  split
  next => exact ⟨s.transport, rfl⟩
  next =>
    split
    next => exact ⟨_, rfl⟩
    next => exact ⟨_, rfl⟩

theorem decrypt_sameEnds (s : AuthenticatedPairingSession) (frame : Bytes) :
    s.SameEnds (s.decrypt frame).2 := by
  unfold decrypt
  split
  next => exact ⟨s.transport, rfl⟩
  next =>
    split
    next => exact ⟨s.transport, rfl⟩
    next =>
      split
      next => exact ⟨_, rfl⟩
      next => exact ⟨_, rfl⟩

/-- The other end has proved to be this device. -/
structure Meets (s : AuthenticatedPairingSession) (deviceId : Text) : Prop where
  peer : s.peerDeviceId = deviceId
  certificate : s.peerCertificate.deviceId = deviceId

theorem Meets.sameEnds {s s' : AuthenticatedPairingSession} {deviceId : Text}
    (h : s.Meets deviceId) (hsame : s.SameEnds s') : s'.Meets deviceId := by
  obtain ⟨_, rfl⟩ := hsame
  exact ⟨h.peer, h.certificate⟩

end AuthenticatedPairingSession

end OmarchySync
