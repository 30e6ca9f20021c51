import OmarchySync.Wire.Bytes
import OmarchySync.Logic.Result

/-!
# The Noise library

`Noise_XX_25519_ChaChaPoly_BLAKE2s` as the pairing transport calls it. The library is
outside the repository: its states are opaque, a call returns its result and the state it
leaves behind, and the laws state what is documented of the transport phase.
-/

namespace OmarchySync

open Logic Wire

class Noise where
  HandshakeState : Type
  TransportState : Type
  /-- The randomness of one handshake: the static and the ephemeral key. -/
  Entropy : Type
  /-- Generate a static key and build an initiator or a responder with a prologue. -/
  build : Bool → Bytes → Entropy → Result (HandshakeState × Array8 32)
  /-- `HandshakeState::write_message` into a buffer of the given capacity. -/
  writeHandshake : HandshakeState → Nat → Bytes → Result Bytes × HandshakeState
  readHandshake : HandshakeState → Nat → Bytes → Result Bytes × HandshakeState
  isHandshakeFinished : HandshakeState → Bool
  remoteStatic : HandshakeState → Option Bytes
  handshakeHash : HandshakeState → Bytes
  intoTransportMode : HandshakeState → Result TransportState
  /-- `TransportState::write_message` into a buffer of the given capacity. -/
  writeMessage : TransportState → Nat → Bytes → Result Bytes × TransportState
  readMessage : TransportState → Nat → Bytes → Result Bytes × TransportState

/-- The length of an authentication tag. -/
def tagLength : Nat := 16

/-- The longest message the library handles. -/
def maxNoiseMessage : Nat := 65535

/-- Nonces are 64-bit and the last one is reserved. -/
def nonceLimit : Nat := 2 ^ 64 - 1

/-- The transport phase: two directions, each with a key and a counter. Writing consumes one
sending nonce for each successful call, reading accepts exactly the next ciphertext of the
incoming direction and otherwise fails without advancing. -/
class TransportLaws [Noise] where
  Key : Type
  cipher : Key → Nat → Bytes → Bytes
  outgoing : Noise.TransportState → Key
  incoming : Noise.TransportState → Key
  sending : Noise.TransportState → Nat
  receiving : Noise.TransportState → Nat
  cipher_length : ∀ k n p, (cipher k n p).length = p.length + tagLength
  write_ok : ∀ t capacity p, p.length + tagLength ≤ capacity →
    p.length + tagLength ≤ maxNoiseMessage → sending t < nonceLimit →
    ∃ t', Noise.writeMessage t capacity p = (.ok (cipher (outgoing t) (sending t) p), t') ∧
      outgoing t' = outgoing t ∧ incoming t' = incoming t ∧ sending t' = sending t + 1 ∧
      receiving t' = receiving t
  read_ok : ∀ t capacity p, p.length ≤ capacity → p.length + tagLength ≤ maxNoiseMessage →
    receiving t < nonceLimit →
    ∃ t', Noise.readMessage t capacity (cipher (incoming t) (receiving t) p) = (.ok p, t') ∧
      outgoing t' = outgoing t ∧ incoming t' = incoming t ∧ sending t' = sending t ∧
      receiving t' = receiving t + 1
  read_error : ∀ t capacity c, (∀ p, c ≠ cipher (incoming t) (receiving t) p) →
    ∃ e, Noise.readMessage t capacity c = (.error e, t)

namespace TransportLaws

variable [Noise] [TransportLaws]

/-- What `t` writes next is what `u` reads next. -/
structure Feeds (t u : Noise.TransportState) : Prop where
  key : outgoing t = incoming u
  count : sending t = receiving u

end TransportLaws

/-- The three messages of XX between an initiator and a responder built under one prologue:
both handshakes finish with one hash, each end knows the other's static key, and the two
transports feed each other from the first nonce on. -/
class HandshakeLaws [Noise] [TransportLaws] : Prop where
  build_ok : ∀ initiator prologue entropy,
    ∃ h static, Noise.build initiator prologue entropy = .ok (h, static)
  exchange : ∀ prologue ei er hi hr si sr,
    Noise.build true prologue ei = .ok (hi, si) → Noise.build false prologue er = .ok (hr, sr) →
    ∃ m₁ m₂ m₃ hi₁ hi₂ hi₃ hr₁ hr₂ hr₃, ∃ hash : Array8 32, ∃ ti tr,
      (∀ capacity, 32 ≤ capacity → Noise.writeHandshake hi capacity [] = (.ok m₁, hi₁)) ∧
      (∀ capacity, Noise.readHandshake hr capacity m₁ = (.ok [], hr₁)) ∧
      (∀ capacity, 96 ≤ capacity → Noise.writeHandshake hr₁ capacity [] = (.ok m₂, hr₂)) ∧
      (∀ capacity, Noise.readHandshake hi₁ capacity m₂ = (.ok [], hi₂)) ∧
      (∀ capacity, 64 ≤ capacity → Noise.writeHandshake hi₂ capacity [] = (.ok m₃, hi₃)) ∧
      (∀ capacity, Noise.readHandshake hr₂ capacity m₃ = (.ok [], hr₃)) ∧
      m₁.length = 32 ∧ m₂.length = 96 ∧ m₃.length = 64 ∧
      (Noise.isHandshakeFinished hi₃ = true ∧ Noise.isHandshakeFinished hr₃ = true) ∧
      (Noise.remoteStatic hi₃ = some sr.toList ∧ Noise.remoteStatic hr₃ = some si.toList) ∧
      (Noise.handshakeHash hi₃ = hash.toList ∧ Noise.handshakeHash hr₃ = hash.toList) ∧
      (Noise.intoTransportMode hi₃ = .ok ti ∧ Noise.intoTransportMode hr₃ = .ok tr) ∧
      TransportLaws.Feeds ti tr ∧ TransportLaws.Feeds tr ti ∧
      TransportLaws.sending ti = 0 ∧ TransportLaws.sending tr = 0

end OmarchySync
