import OmarchySync.Session

/-!
# Loopback libraries

A transparent stand-in for the cryptographic libraries: signatures and tags are checksums
under the key, and the handshake exchanges the static keys in the clear. It has the
documented behaviour of the real libraries, so their laws are consistent, and it computes.
-/

namespace OmarchySync.Loopback

open Logic Wire

/-- A 32-byte checksum. -/
def digest (bs : Bytes) : Array8 32 :=
  ⟨beBytes 32 (bs.foldl (fun acc b => (acc * 257 + b.toNat + 1) % 2 ^ 256) bs.length), by simp⟩

/-- The checksum of a message under a key. -/
def signature (key : Array8 32) (message : Bytes) : Array8 64 :=
  ⟨key.toList ++ (digest message).toList, by simp⟩

@[reducible]
def crypto : Crypto where
  SigningKey := Array8 32
  verifyingKey key := key
  sign := signature
  validKey _ := true
  verifyStrict key message sig := sig == signature key message
  sha256 := digest

theorem lawfulCrypto : @LawfulCrypto crypto :=
  @LawfulCrypto.mk crypto (fun _ => rfl) fun key message => beq_self_eq_true (signature key message)

/-- The fields of a handshake; `turn` counts the messages exchanged. -/
structure Handshake where
  initiator : Bool
  prologue : Bytes
  static : Array8 32
  remote : Option (Array8 32)
  turn : Nat

/-- The two directions of a transport. -/
structure Transport where
  outgoing : Bytes
  incoming : Bytes
  sending : Nat
  receiving : Nat
  deriving DecidableEq

/-- Sixteen bytes that name the nonce and the key. -/
def tag (key : Bytes) (nonce : Nat) : Bytes := beBytes 8 nonce ++ (key ++ beBytes 8 0).take 8

private theorem tag_length (key : Bytes) (nonce : Nat) : (tag key nonce).length = 16 := by
  simp [tag]

def cipher (key : Bytes) (nonce : Nat) (plaintext : Bytes) : Bytes := plaintext ++ tag key nonce

def writeMessage (t : Transport) (capacity : Nat) (plaintext : Bytes) :
    Result Bytes × Transport :=
  if plaintext.length + tagLength ≤ capacity ∧ plaintext.length + tagLength ≤ maxNoiseMessage ∧
      t.sending < nonceLimit then
    (.ok (cipher t.outgoing t.sending plaintext), { t with sending := t.sending + 1 })
  else (.error "input error", t)

def readMessage (t : Transport) (capacity : Nat) (message : Bytes) : Result Bytes × Transport :=
  let plaintext := message.take (message.length - tagLength)
  if message = cipher t.incoming t.receiving plaintext ∧ plaintext.length ≤ capacity ∧
      t.receiving < nonceLimit then
    (.ok plaintext, { t with receiving := t.receiving + 1 })
  else (.error "decrypt error", t)

/-- Messages 1, 2 and 3 carry a static key and zeroes up to their length. -/
def messageLength : Nat → Nat
  | 0 => 32
  | 1 => 96
  | _ => 64

def message (static : Array8 32) (turn : Nat) : Bytes :=
  static.toList ++ List.replicate (messageLength turn - 32) 0

private theorem message_length (static : Array8 32) (turn : Nat) :
    (message static turn).length = messageLength turn := by
  have hmin : 32 ≤ messageLength turn := by
    unfold messageLength
    split <;> omega
  simp only [message, List.length_append, List.Vector.toList_length, List.length_replicate]
  omega

def writeHandshake (h : Handshake) (capacity : Nat) (payload : Bytes) :
    Result Bytes × Handshake :=
  if h.turn < 3 ∧ (h.turn % 2 == 0) = h.initiator ∧ payload = [] ∧
      messageLength h.turn ≤ capacity then
    (.ok (message h.static h.turn), { h with turn := h.turn + 1 })
  else (.error "state error", h)

/-- The static key at the front of a message. -/
def leadingKey (message : Bytes) (h : 32 ≤ message.length) : Array8 32 :=
  ⟨message.take 32, List.length_take_of_le h⟩

def readHandshake (h : Handshake) (_capacity : Nat) (message : Bytes) :
    Result Bytes × Handshake :=
  if hlen : h.turn < 3 ∧ (h.turn % 2 == 1) = h.initiator ∧
      message.length = messageLength h.turn ∧ 32 ≤ message.length then
    (.ok [], { h with turn := h.turn + 1, remote := some (leadingKey message hlen.2.2.2) })
  else (.error "state error", h)

/-- The static keys with the initiator's first. -/
def statics (h : Handshake) : Bytes :=
  let remote := (h.remote.map List.Vector.toList).getD []
  if h.initiator then h.static.toList ++ remote else remote ++ h.static.toList

def hash (h : Handshake) : Array8 32 := digest (h.prologue ++ statics h)

def intoTransportMode (h : Handshake) : Result Transport :=
  if h.turn = 3 then
    .ok { outgoing := (if h.initiator then 1 else 2) :: (hash h).toList
          incoming := (if h.initiator then 2 else 1) :: (hash h).toList
          sending := 0, receiving := 0 }
  else .error "state error"

def build (initiator : Bool) (prologue : Bytes) (entropy : Array8 32) :
    Result (Handshake × Array8 32) :=
  .ok (⟨initiator, prologue, entropy, none, 0⟩, entropy)

@[reducible]
def noise : Noise where
  HandshakeState := Handshake
  TransportState := Transport
  Entropy := Array8 32
  build := build
  writeHandshake := writeHandshake
  readHandshake := readHandshake
  isHandshakeFinished h := h.turn == 3
  remoteStatic h := h.remote.map List.Vector.toList
  handshakeHash h := (hash h).toList
  intoTransportMode := intoTransportMode
  writeMessage := writeMessage
  readMessage := readMessage

private theorem readMessage_cipher (t : Transport) (capacity : Nat) (p : Bytes)
    (hcap : p.length ≤ capacity) (hn : t.receiving < nonceLimit) :
    readMessage t capacity (cipher t.incoming t.receiving p) =
      (.ok p, { t with receiving := t.receiving + 1 }) := by
  have htake : (cipher t.incoming t.receiving p).take
      ((cipher t.incoming t.receiving p).length - tagLength) = p := by
    simp [cipher, tag_length, tagLength]
  simp only [readMessage, htake, hcap, hn, and_self, if_true]

@[reducible]
def transportLaws : @TransportLaws noise :=
  @TransportLaws.mk noise Bytes cipher Transport.outgoing Transport.incoming Transport.sending
    Transport.receiving
    (fun k n p => by simp [cipher, tag_length, tagLength])
    (fun t capacity p hcap hmax hn =>
      ⟨{ t with sending := t.sending + 1 }, by
        refine ⟨?_, rfl, rfl, rfl, rfl⟩
        change writeMessage t capacity p = _
        rw [writeMessage, if_pos ⟨hcap, hmax, hn⟩]⟩)
    (fun t capacity p hcap _ hn =>
      ⟨{ t with receiving := t.receiving + 1 }, readMessage_cipher t capacity p hcap hn,
        rfl, rfl, rfl, rfl⟩)
    (fun t capacity c hc => ⟨"decrypt error", by
      change readMessage t capacity c = _
      rw [readMessage, if_neg fun h => hc _ h.1]⟩)

private theorem readHandshake_message (h : Handshake) (capacity : Nat) (static : Array8 32)
    (hturn : h.turn < 3) (hrole : (h.turn % 2 == 1) = h.initiator) :
    readHandshake h capacity (message static h.turn) =
      (.ok [], { h with turn := h.turn + 1, remote := some static }) := by
  have hlen := message_length static h.turn
  have hmin : 32 ≤ (message static h.turn).length := by
    simp [message]
  have htake : (message static h.turn).take 32 = static.toList := by
    rw [message, List.take_append_of_le_length (by simp), List.take_of_length_le (by simp)]
  have hkey : leadingKey (message static h.turn) hmin = static := Subtype.ext htake
  rw [readHandshake, dif_pos ⟨hturn, hrole, hlen, hmin⟩, hkey]

theorem handshakeLaws : @HandshakeLaws noise transportLaws := by
  refine @HandshakeLaws.mk noise transportLaws (fun _ _ entropy => ⟨_, entropy, rfl⟩) ?_
  intro prologue ei er hi hr si sr hbi hbr
  obtain ⟨rfl, rfl⟩ := Prod.mk.inj (Except.ok.inj hbi)
  obtain ⟨rfl, rfl⟩ := Prod.mk.inj (Except.ok.inj hbr)
  have hread := readHandshake_message
  exact ⟨_, _, _, _, ⟨true, prologue, ei, some er, 2⟩, ⟨true, prologue, ei, some er, 3⟩,
    ⟨false, prologue, er, some ei, 1⟩, ⟨false, prologue, er, some ei, 2⟩,
    ⟨false, prologue, er, some ei, 3⟩, digest (prologue ++ (ei.toList ++ er.toList)), _, _,
    fun capacity h => if_pos ⟨Nat.zero_lt_succ 2, rfl, rfl, h⟩,
    fun capacity => hread ⟨false, prologue, er, none, 0⟩ capacity ei (Nat.zero_lt_succ 2) rfl,
    fun capacity h => if_pos ⟨show 1 < 3 by decide, rfl, rfl, h⟩,
    fun capacity => hread ⟨true, prologue, ei, none, 1⟩ capacity er (show 1 < 3 by decide) rfl,
    fun capacity h => if_pos ⟨Nat.lt_succ_self 2, show (2 % 2 == 0) = true by decide, rfl, h⟩,
    fun capacity => hread ⟨false, prologue, er, some ei, 2⟩ capacity ei (Nat.lt_succ_self 2)
      (show (2 % 2 == 1) = false by decide),
    message_length ei 0, message_length er 1, message_length ei 2, ⟨rfl, rfl⟩, ⟨rfl, rfl⟩, ⟨rfl, rfl⟩, ⟨rfl, rfl⟩,
    @TransportLaws.Feeds.mk noise transportLaws _ _ rfl rfl,
    @TransportLaws.Feeds.mk noise transportLaws _ _ rfl rfl, rfl, rfl⟩

/-- A key of one repeated byte. -/
def keyOf (b : UInt8) : Array8 32 := List.Vector.replicate 32 b

def root : @PinnedOmarchyRoot crypto := @PinnedOmarchyRoot.mk crypto (keyOf 9) rfl

/-- The certificate the root issues for a key, valid from 10 until 1000. -/
def certificate (holder : Array8 32) : DeviceCertificate :=
  let unsigned : DeviceCertificate :=
    { deviceId := @deviceIdForPublicKey crypto holder
      publicKey := holder
      deviceName := ⟨ascii "Device", by decide⟩
      notBefore := 10
      notAfter := 1000
      issuerKeyId := @PinnedOmarchyRoot.keyId crypto root
      signature := List.Vector.replicate 64 0 }
  { unsigned with signature := signature (keyOf 9) (unsigned.layout []) }

/-- One end of a session between two certified keys, under a given binding and key material. -/
def session (pairId : Text) (holder peer binding : Array8 32) (role : UInt8)
    (transport : Transport) : @AuthenticatedPairingSession noise :=
  @AuthenticatedPairingSession.mk noise pairId (certificate holder).deviceId
    (certificate peer).deviceId (certificate holder) (certificate peer) binding transport peer role

end OmarchySync.Loopback
