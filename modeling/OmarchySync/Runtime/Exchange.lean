import OmarchySync.Pairing.Format
import OmarchySync.Pairing.Initiator
import OmarchySync.Pairing.Responder
import OmarchySync.Runtime.Message

/-!
# The authentication of two honest ends

The messages of the authentication as the two drivers write and read them in turn. Under the
laws of the Noise library the handshake always completes and the transports it leaves behind
carry every authentication payload, so what remains of a run are the checks of the two ends.
-/

namespace OmarchySync

open Logic Wire Traced PairingM

/-- One call on an end, with the end it leaves behind. -/
def PairingM.exec {σ α : Type} [Noise] (m : PairingM σ α) (p : Party σ) :
    Result (α × Party σ) := do
  let a ← (m p).result
  return (a, endState p (m p).visited)

/-- A frame as the reader receives it. -/
def crossWire (frame : Bytes) : Result Bytes := do
  Reader.run readWire (← writeWire frame)

@[simp]
theorem crossWire_eq_ok (frame out : Bytes) : crossWire frame = .ok out ↔ Wired frame ∧ out = frame := by
  simp only [crossWire, bind_eq_ok, writeWire_eq_ok, Reader.run_eq_ok, readWire_eq_ok]
  constructor
  · intro h
    obtain ⟨_, ⟨hwired, rfl⟩, rest, _, heq⟩ := h
    have hlayout : readWire (wireLayout frame) = .ok (frame, []) :=
      (readWire_eq_ok ..).mpr ⟨hwired, (List.append_nil _).symm⟩
    have hread : readWire (wireLayout frame) = .ok (out, rest) :=
      (readWire_eq_ok ..).mpr ⟨by assumption, heq⟩
    rw [hlayout, Except.ok.injEq, Prod.mk.injEq] at hread
    exact ⟨hwired, hread.1.symm⟩
  · intro h
    obtain ⟨hwired, rfl⟩ := h
    exact ⟨_, ⟨hwired, rfl⟩, [], hwired, (List.append_nil _).symm⟩

section Exec

variable [Noise] {σ α β : Type}

@[simp]
theorem exec_pure (a : α) (p : Party σ) : exec (pure a) p = .ok (a, p) :=
  rfl

@[simp]
theorem exec_self_bind (f : σ → PairingM σ β) (p : Party σ) :
    exec (self >>= f) p = exec (f p.self) p := by
  simp [exec, bind, self, endState]

@[simp]
theorem exec_update_bind (g : σ → σ) (f : Unit → PairingM σ β) (p : Party σ) :
    exec (update g >>= f) p = exec (f ()) { p with self := g p.self } := by
  simp [exec, bind, update, step, endState]

@[simp]
theorem exec_act_bind (e : Act) (f : Unit → PairingM σ β) (p : Party σ) :
    exec (act e >>= f) p = exec (f ()) { p with acts := p.acts ++ [e] } := by
  simp [exec, bind, act, step, endState]

@[simp]
theorem exec_lift (r : Result α) (p : Party σ) :
    exec (liftM r : PairingM σ α) p = r >>= fun a => .ok (a, p) := by
  cases r <;> rfl

@[simp]
theorem exec_lift_bind (r : Result α) (f : α → PairingM σ β) (p : Party σ) :
    exec ((liftM r : PairingM σ α) >>= f) p = r >>= fun a => exec (f a) p := by
  cases r <;> rfl

end Exec

variable [Crypto] [Noise]

/-- The messages of the authentication behind the first one. A failure of either driver ends
both. -/
def authenticate (a : Party PairingInitiator) (b : Party PairingResponder)
    (entropy : Noise.Entropy) (start : Bytes) :
    Result (AuthenticatedPairingSession × AuthenticatedPairingSession) := do
  let (message2, b) ← exec (PairingResponder.receiveInitiatorStart entropy start) b
  let message2 ← crossWire message2
  let ((message3, hello), a) ← exec (PairingInitiator.receiveResponderHandshake message2) a
  let message3 ← crossWire message3
  let hello ← crossWire hello
  let (proof, b) ← exec (PairingResponder.receiveInitiatorFinish message3 hello) b
  let proof ← crossWire proof
  let (signature, a) ← exec (PairingInitiator.receiveResponderAuth proof) a
  let signature ← crossWire signature
  let ((ack, responder), _) ← exec (PairingResponder.receiveInitiatorAuth signature) b
  let ack ← crossWire ack
  let (initiator, _) ← exec (PairingInitiator.receiveResponderAck ack) a
  return (initiator, responder)

section Frames

omit [Crypto] [Noise]

/-- The bytes of a start frame. -/
def startFrame (mode : UInt8) (pairId : Text) (message : Bytes) : Bytes :=
  frameLayout kindHandshake roleInitiator 0 (mode :: (pairId.bytes ++ message))

private theorem encodeStartFrame_ok {mode : UInt8} {pairId : Text} {message : Bytes}
    (hmode : ValidMode mode) (hid : HexId pairId) (hlength : message.length = 32) :
    encodeStartFrame kindHandshake roleInitiator mode pairId message maxHandshakeFrame =
      .ok (startFrame mode pairId message) := by
  rw [encodeStartFrame_eq_ok, hlength]
  exact ⟨hid, hmode, by decide, by decide, rfl⟩

theorem decodeStartFrame_startFrame (mode : UInt8) {pairId : Text} {message : Bytes}
    (hid : HexId pairId) (hlength : message.length = 32) :
    decodeStartFrame (startFrame mode pairId message) maxHandshakeFrame =
      .ok (mode, pairId, message) := by
  rw [decodeStartFrame_eq_ok, hlength]
  exact ⟨hid, by decide, by decide, rfl⟩

private theorem encodeFrame_handshake {role : UInt8} {message : Bytes}
    (hlength : message.length ≤ 96) :
    encodeFrame kindHandshake role message maxHandshakeFrame =
      .ok (frameLayout kindHandshake role 0 message) := by
  have hmax : maxHandshakeFrame = 2048 := rfl
  rw [encodeFrame, encodeFrameWithSequence_eq_ok, hmax]
  exact ⟨by omega, by omega, rfl⟩

private theorem decodeFrame_handshake {role : UInt8} {message : Bytes} (hrole : ValidRole role)
    (hpos : 0 < message.length) (hlength : message.length ≤ 96) :
    decodeFrame (frameLayout kindHandshake role 0 message) maxHandshakeFrame =
      .ok (kindHandshake, role, message) := by
  have hmax : maxHandshakeFrame = 2048 := rfl
  rw [decodeFrame_eq_ok, frameLayout_length, hmax]
  exact ⟨by omega, ⟨List.ne_nil_of_length_pos hpos, by omega, by omega⟩, hrole, rfl⟩

theorem wired_frameLayout {kind role sequence : UInt8} {payload : Bytes}
    (h : payload.length ≤ maxAuthFrame) : Wired (frameLayout kind role sequence payload) := by
  have hmax : maxAuthFrame = 4096 := rfl
  have hlength := frameLayout_length kind role sequence payload
  constructor
  · intro hnil
    rw [hnil, List.length_nil] at hlength
    omega
  · rw [hlength, maxWireFrame]
    omega

end Frames

section Transport

omit [Crypto]

variable [TransportLaws]

open TransportLaws

/-- The two transports of one handshake; `n` and `m` count what each has sealed. -/
structure Linked (n m : Nat) (t u : Noise.TransportState) : Prop where
  forth : outgoing t = incoming u
  back : outgoing u = incoming t
  sent : sending t = n ∧ receiving u = n
  received : sending u = m ∧ receiving t = m

theorem Linked.symm {n m : Nat} {t u : Noise.TransportState} (h : Linked n m t u) :
    Linked m n u t :=
  ⟨h.back, h.forth, h.received, h.sent⟩

theorem Linked.auth {n m : Nat} {t u : Noise.TransportState} (h : Linked n m t u)
    (hn : n < nonceLimit) (role sequence : UInt8) (hrole : ValidRole role) {p : Bytes}
    (hp : p.length ≤ maxAuthPlaintext) :
    ∃ frame t' u', encryptAuth t role sequence p = (.ok frame, t') ∧ Wired frame ∧
      decryptAuth u frame role sequence = (.ok p, u') ∧ Linked (n + 1) m t' u' := by
  have hmax : maxAuthPlaintext = 2048 := rfl
  have hframe : maxAuthFrame = 4096 := rfl
  have hnoise : maxNoiseMessage = 65535 := rfl
  have htag : tagLength = 16 := rfl
  have hcipher := cipher_length (outgoing t) n p
  obtain ⟨t', hwrite, hout, hin, hsend, hrecv⟩ :=
    write_ok t (p.length + 16) p (by omega) (by omega) (h.sent.1 ▸ hn)
  obtain ⟨u', hread, hout', hin', hsend', hrecv'⟩ :=
    read_ok u maxAuthPlaintext p hp (by omega) (h.sent.2 ▸ hn)
  rw [h.sent.1] at hwrite
  rw [← h.forth, h.sent.2] at hread
  have hfits : ¬p.length > maxAuthPlaintext := Nat.not_lt.mpr hp
  have hencode : encodeFrameWithSequence kindAuth role sequence (cipher (outgoing t) n p)
      maxAuthFrame = .ok (frameLayout kindAuth role sequence (cipher (outgoing t) n p)) :=
    (encodeFrameWithSequence_eq_ok ..).mpr ⟨by omega, by omega, rfl⟩
  have hne : cipher (outgoing t) n p ≠ [] := List.ne_nil_of_length_pos (by omega)
  refine ⟨frameLayout kindAuth role sequence (cipher (outgoing t) n p), t', u', ?_, ?_, ?_, ?_⟩
  · simp only [encryptAuth, if_neg hfits, hwrite, labelled, ok_bind, hencode]
  · exact wired_frameLayout (by omega)
  · simp only [decryptAuth, decodeFrameWithSequence_encode hencode hrole hne, ne_eq,
      not_true_eq_false, or_self, if_false, hread, labelled]
  · exact ⟨by rw [hout, hin', h.forth], by rw [hout', hin, h.back],
      ⟨by rw [hsend, h.sent.1], by rw [hrecv', h.sent.2]⟩,
      ⟨by rw [hsend', h.received.1], by rw [hrecv, h.received.2]⟩⟩

theorem Linked.pipe {n m : Nat} {s r : AuthenticatedPairingSession}
    (h : Linked n m s.transport r.transport) (hrole : ValidRole s.localRole)
    (hopposite : r.localRole ≠ s.localRole) : Pipe n s r [] [] :=
  ⟨hrole, hopposite, h.forth, h.sent.1, h.sent.2, rfl, fun _ hq => by cases hq⟩

/-- What a handshake between `hi` and `hr` exchanges, message by message. -/
structure Handshaken (hi hr : Noise.HandshakeState) (si sr : Array8 32) where
  (m₁ m₂ m₃ : Bytes)
  (hi₁ hi₂ hi₃ hr₁ hr₂ hr₃ : Noise.HandshakeState)
  hash : Array8 32
  (ti tr : Noise.TransportState)
  write₁ : Noise.writeHandshake hi maxHandshakeFrame [] = (.ok m₁, hi₁)
  read₁ : Noise.readHandshake hr maxHandshakeFrame m₁ = (.ok [], hr₁)
  write₂ : Noise.writeHandshake hr₁ maxHandshakeFrame [] = (.ok m₂, hr₂)
  read₂ : Noise.readHandshake hi₁ maxHandshakeFrame m₂ = (.ok [], hi₂)
  write₃ : Noise.writeHandshake hi₂ maxHandshakeFrame [] = (.ok m₃, hi₃)
  read₃ : Noise.readHandshake hr₂ maxHandshakeFrame m₃ = (.ok [], hr₃)
  lengths : m₁.length = 32 ∧ m₂.length = 96 ∧ m₃.length = 64
  finishInitiator : finishHandshake hi₃ = .ok (ti, ⟨hash, sr⟩)
  finishResponder : finishHandshake hr₃ = .ok (tr, ⟨hash, si⟩)
  linked : Linked 0 0 ti tr

theorem handshaken [HandshakeLaws] {mode : UInt8} {pairId : Text} {ei er : Noise.Entropy}
    {hi hr : Noise.HandshakeState} {si sr : Array8 32}
    (hbuild : buildHandshake true mode pairId ei = .ok (hi, si))
    (hbuild' : buildHandshake false mode pairId er = .ok (hr, sr)) :
    Nonempty (Handshaken hi hr si sr) := by
  simp only [buildHandshake, bind_eq_ok, bailIf_eq_ok, exists_const] at hbuild hbuild'
  obtain ⟨_, -, -, hbuild⟩ := hbuild
  obtain ⟨_, -, -, hbuild'⟩ := hbuild'
  obtain ⟨m₁, m₂, m₃, hi₁, hi₂, hi₃, hr₁, hr₂, hr₃, hash, ti, tr, hw₁, hd₁, hw₂, hd₂, hw₃, hd₃, hl₁,
    hl₂, hl₃, ⟨hfin, hfin'⟩, ⟨hrem, hrem'⟩, ⟨hhash, hhash'⟩, ⟨hmode, hmode'⟩, hfeeds, hfeeds', hti,
    htr⟩ := HandshakeLaws.exchange _ ei er hi hr si sr hbuild hbuild'
  have hfinish : ∀ h t remote, Noise.isHandshakeFinished h = true →
      Noise.remoteStatic h = some (List.Vector.toList remote) →
      Noise.handshakeHash h = hash.toList → Noise.intoTransportMode h = .ok t →
      finishHandshake h = .ok (t, ⟨hash, remote⟩) := by
    intro h t remote hdone hremote hh ht
    simp only [finishHandshake, bind_eq_ok, bailIf_eq_ok, someOr_eq_ok, exactly_eq_ok,
      labelled_eq_ok, pure_eq_ok, exists_const]
    exact ⟨by simp [hdone], _, hremote, remote, rfl, hash, hh, t, ht, rfl⟩
  exact ⟨⟨m₁, m₂, m₃, hi₁, hi₂, hi₃, hr₁, hr₂, hr₃, hash, ti, tr, hw₁ _ (by decide), hd₁ _,
    hw₂ _ (by decide), hd₂ _, hw₃ _ (by decide), hd₃ _, ⟨hl₁, hl₂, hl₃⟩,
    hfinish _ _ _ hfin hrem hhash hmode, hfinish _ _ _ hfin' hrem' hhash' hmode',
    ⟨hfeeds.key, hfeeds'.key, ⟨hti, hfeeds.count ▸ hti⟩, ⟨htr, hfeeds'.count ▸ htr⟩⟩⟩⟩

end Transport

section Calls

variable [TransportLaws] {hi hr : Noise.HandshakeState} {si sr : Array8 32}
  (H : Handshaken hi hr si sr) {x : PairingInitiator} {y : PairingResponder} {acts : List Act}

theorem start_exec (hx : x.handshake = some hi)
    (hmode : ValidMode x.mode) (hid : HexId x.pairId) :
    exec PairingInitiator.start ⟨x, acts⟩ =
      .ok (startFrame x.mode x.pairId H.m₁, ⟨{ x with handshake := some H.hi₁ }, acts⟩) := by
  have hframe := encodeStartFrame_ok hmode hid H.lengths.1
  simp only [Pairing.mode] at hframe
  simp [PairingInitiator.start, hx, someOr, H.write₁, labelled, Pairing.mode, hframe]

private theorem receiveInitiatorStart_exec {entropy : Noise.Entropy} {mode : UInt8} {pairId : Text}
    (hbuild : buildHandshake false mode pairId entropy = .ok (hr, sr)) (hid : HexId pairId) :
    exec (PairingResponder.receiveInitiatorStart entropy (startFrame mode pairId H.m₁))
        ⟨y, acts⟩ = (do
      bailIf (mode ≠ y.mode) "pairing authentication mode differs"
      bailIf (y.pairId ≠ none ∧ y.pairId ≠ some pairId)
        "pairing PairID differs from the active relationship"
      return (frameLayout kindHandshake roleResponder 0 H.m₂,
        ⟨{ y with
          pairId := some pairId, localStaticPublic := sr, handshake := some H.hr₂ }, acts⟩)) := by
  have hdecode := decodeStartFrame_startFrame mode hid H.lengths.1
  have hframe : encodeFrame kindHandshake roleResponder H.m₂ maxHandshakeFrame = _ :=
    encodeFrame_handshake (by rw [H.lengths.2.1])
  simp [PairingResponder.receiveInitiatorStart, hdecode, hbuild, H.read₁, H.write₂, hframe,
    labelled, Pairing.mode, pure_result]

private theorem receiveResponderHandshake_exec (hx : x.handshake = some H.hi₁) :
    exec (PairingInitiator.receiveResponderHandshake
        (frameLayout kindHandshake roleResponder 0 H.m₂)) ⟨x, acts⟩ = (do
      let hello ← authHello x.certificate
      let authFrame ← (encryptAuth H.ti roleInitiator 1 hello).1
      return ((frameLayout kindHandshake roleInitiator 0 H.m₃, authFrame),
        ⟨{ x with
            handshake := none
            handshakeInfo := some ⟨H.hash, sr⟩
            transport := some (encryptAuth H.ti roleInitiator 1 hello).2
            sentAuth := true }, acts ++ [.finished H.hash, .sent hello]⟩)) := by
  have hdecode : decodeFrame (frameLayout kindHandshake roleResponder 0 H.m₂)
      maxHandshakeFrame = _ :=
    decodeFrame_handshake (.inr rfl) (by rw [H.lengths.2.1]; decide) (by rw [H.lengths.2.1])
  have hframe : encodeFrame kindHandshake roleInitiator H.m₃ maxHandshakeFrame = _ :=
    encodeFrame_handshake (by rw [H.lengths.2.2]; decide)
  simp [PairingInitiator.receiveResponderHandshake, hdecode, hx, someOr, H.read₂, H.write₃,
    H.finishInitiator, hframe, labelled, pure_result]

private theorem receiveInitiatorFinish_exec {pairId : Text} {authFrame hello : Bytes}
    {u : Noise.TransportState} (hy : y.handshake = some H.hr₂) (hpair : y.pairId = some pairId)
    (hopen : decryptAuth H.tr authFrame roleInitiator 1 = (.ok hello, u)) :
    exec (PairingResponder.receiveInitiatorFinish
        (frameLayout kindHandshake roleInitiator 0 H.m₃) authFrame) ⟨y, acts⟩ = (do
      let peer ← PairingResponder.parseAuthHello y hello
      let transcript ← makeTranscript H.hash y.mode pairId peer.certificate y.certificate si
        y.localStaticPublic
      bailIf (peer.deviceId = y.certificate.deviceId) "pairing reflection detected"
      bailIf (peer.deviceId ≠ y.expectedPeerDeviceId)
        "initiator identity differs from authenticated discovery"
      let proof ← authProof y.certificate y.identity transcript roleResponder
      let out ← (encryptAuth u roleResponder 2 proof).1
      return (out,
        ⟨{ y with
            handshake := none
            handshakeInfo := some ⟨H.hash, si⟩
            transport := some (encryptAuth u roleResponder 2 proof).2
            transcript := some transcript
            peer := some peer
            sentAuth := true },
          acts ++ [.finished H.hash, .read hello, .signed transcript roleResponder,
            .sent proof]⟩)) := by
  have hdecode : decodeFrame (frameLayout kindHandshake roleInitiator 0 H.m₃)
      maxHandshakeFrame = _ :=
    decodeFrame_handshake (.inl rfl) (by rw [H.lengths.2.2]; decide) (by rw [H.lengths.2.2]; decide)
  simp [PairingResponder.receiveInitiatorFinish, hdecode, hy, hpair, someOr, H.read₃,
    H.finishResponder, labelled, hopen, PairingResponder.parseAuthHello,
    PairingResponder.buildTranscript, Pairing.mode, pure_result]

omit [TransportLaws] in
private theorem receiveResponderAuth_exec {hash remote : Array8 32} {frame proof : Bytes}
    {t t' : Noise.TransportState} (hsent : x.sentAuth = true) (ht : x.transport = some t)
    (hinfo : x.handshakeInfo = some ⟨hash, remote⟩)
    (hopen : decryptAuth t frame roleResponder 2 = (.ok proof, t')) :
    exec (PairingInitiator.receiveResponderAuth frame) ⟨x, acts⟩ = (do
      let peer ← PairingInitiator.parseAuthProof x proof
      bailIf (peer.deviceId = x.certificate.deviceId) "pairing reflection detected"
      bailIf (peer.deviceId ≠ x.expectedPeerDeviceId)
        "responder identity differs from authenticated discovery"
      let transcript ← makeTranscript hash x.mode x.pairId x.certificate peer.certificate
        x.localStaticPublic remote
      verifySignature peer transcript roleResponder
      let signature := signedAuthPayload x.identity transcript roleInitiator
      let out ← (encryptAuth t' roleInitiator 3 signature).1
      return (out,
        ⟨{ x with
            transport := some (encryptAuth t' roleInitiator 3 signature).2
            transcript := some transcript
            peer := some peer },
          acts ++ [.read proof,
            .verified peer.publicKey (signedMessage transcript roleResponder)
              (signatureBytes peer.signature),
            .signed transcript roleInitiator, .sent signature]⟩)) := by
  simp [PairingInitiator.receiveResponderAuth, hsent, ht, hinfo, someOr, hopen,
    PairingInitiator.parseAuthProof, PairingInitiator.buildTranscript, Pairing.mode, pure_result]

/-- The session an end concludes with. -/
private def concluded (pairId : Text) (certificate : DeviceCertificate) (peer : PeerAuth)
    (transcript : Bytes) (role : UInt8) (t : Noise.TransportState) :
    AuthenticatedPairingSession where
  pairId := pairId
  localDeviceId := certificate.deviceId
  peerDeviceId := peer.deviceId
  localCertificate := certificate
  peerCertificate := peer.certificate
  sessionBinding := Crypto.sha256 transcript
  transport := t
  peerPublicKey := peer.publicKey
  localRole := role

omit [TransportLaws] in
private theorem receiveInitiatorAuth_exec {pairId : Text} {peer : PeerAuth}
    {frame payload transcript : Bytes} {u u' : Noise.TransportState} (hsent : y.sentAuth = true)
    (hu : y.transport = some u) (hpair : y.pairId = some pairId) (hpeer : y.peer = some peer)
    (htranscript : y.transcript = some transcript)
    (hopen : decryptAuth u frame roleInitiator 3 = (.ok payload, u')) :
    exec (PairingResponder.receiveInitiatorAuth frame) ⟨y, acts⟩ = (do
      verifySignaturePayload peer transcript roleInitiator payload
      let ack ← (encryptAuth u' roleResponder 4 ackMagic).1
      let session := concluded pairId y.certificate peer transcript roleResponder
        (encryptAuth u' roleResponder 4 ackMagic).2
      return ((ack, session),
        ⟨{ y with transport := none },
          acts ++ [.read payload,
            .verified peer.publicKey (signedMessage transcript roleInitiator) payload,
            .output (session.view y.mode), .sent ackMagic]⟩)) := by
  simp [PairingResponder.receiveInitiatorAuth, hsent, hu, hpair, hpeer, htranscript, someOr, hopen,
    concluded, Pairing.mode, pure_result]

omit [TransportLaws] in
private theorem receiveResponderAck_exec {peer : PeerAuth} {frame transcript : Bytes}
    {t t' : Noise.TransportState} (ht : x.transport = some t) (hpeer : x.peer = some peer)
    (htranscript : x.transcript = some transcript)
    (hopen : decryptAuth t frame roleResponder 4 = (.ok ackMagic, t')) :
    exec (PairingInitiator.receiveResponderAck frame) ⟨x, acts⟩ = (do
      let session := concluded x.pairId x.certificate peer transcript roleInitiator t'
      return (session,
        ⟨{ x with peer := none, transport := none },
          acts ++ [.read ackMagic, .output (session.view x.mode)]⟩)) := by
  simp [PairingInitiator.receiveResponderAck, ht, hpeer, htranscript, someOr, hopen, concluded,
    Pairing.mode, pure_result]

end Calls

section Payloads

omit [Noise]

variable {cert : DeviceCertificate} {bytes : Bytes} {signature : Option (Array8 64)}
  {peer : PeerAuth}

/-- The peer that a payload with this certificate presents. -/
def presented (cert : DeviceCertificate) (signature : Option (Array8 64)) : PeerAuth :=
  ⟨cert.deviceId, cert.publicKey, cert, signature⟩

/-- How an end judges the certificate of the peer in the given role. -/
def PeerValidation.Accepts (role : UInt8) (cert : DeviceCertificate) : PeerValidation → Prop
  | current root now => cert.IssuedBy root ∧ cert.ValidAt now
  | paired context => context.identityForRole role = (cert.deviceId, cert.publicKey, cert)

omit [Crypto] in
private theorem parseAuth_authLayout (hcert : cert.toBytes = .ok bytes) :
    parseAuth (authLayout cert.deviceId cert.publicKey bytes (signatureBytes signature)) =
      .ok ⟨cert, cert.publicKey, cert.deviceId, signature⟩ := by
  have hshape := ((DeviceCertificate.toBytes_eq_ok ..).mp hcert).1
  exact (parseAuth_eq_ok ..).mpr ⟨hshape.deviceId.1, bytes, hcert, rfl⟩

private theorem parseCurrentAuth_authLayout (hcert : cert.toBytes = .ok bytes) (required : Bool)
    (message : String) (root : PinnedOmarchyRoot) (now : UInt64) :
    parseCurrentAuth required message
        (authLayout cert.deviceId cert.publicKey bytes (signatureBytes signature)) root now =
          .ok peer ↔
      signature.isSome = required ∧ (cert.IssuedBy root ∧ cert.ValidAt now) ∧
        peer = presented cert signature := by
  simp [parseCurrentAuth, parseAuth_authLayout hcert, DeviceCertificate.verify_eq_ok, presented,
    @eq_comm _ _ peer, and_assoc]

omit [Crypto] in
private theorem parsePairedAuth_authLayout (hcert : cert.toBytes = .ok bytes) (required : Bool)
    (context : PairedIdentityContext) (role : UInt8) :
    parsePairedAuth
        (authLayout cert.deviceId cert.publicKey bytes (signatureBytes signature)) context role
          required = .ok peer ↔
      signature.isSome = required ∧
        context.identityForRole role = (cert.deviceId, cert.publicKey, cert) ∧
        peer = presented cert signature := by
  simp only [parsePairedAuth, parseAuth_authLayout hcert, ok_bind, bind_eq_ok, bailIf_eq_ok,
    pure_eq_ok, exists_const, not_or, not_not, presented, Prod.ext_iff, @eq_comm _ _ peer]
  constructor
  · intro h
    obtain ⟨hsigned, ⟨hid, hkey, hcertificate⟩, hpeer⟩ := h
    exact ⟨hsigned, ⟨hid.symm, hkey.symm, hcertificate.symm⟩, hpeer⟩
  · intro h
    obtain ⟨hsigned, ⟨hid, hkey, hcertificate⟩, hpeer⟩ := h
    exact ⟨hsigned, ⟨hid.symm, hkey.symm, hcertificate.symm⟩, hpeer⟩

private theorem parseAuthHello_hello [Noise] {y : PairingResponder} {hello : Bytes}
    (hhello : authHello cert = .ok hello) :
    PairingResponder.parseAuthHello y hello = .ok peer ↔
      y.validation.Accepts roleInitiator cert ∧ peer = presented cert none := by
  obtain ⟨bytes, hcert, rfl⟩ := (authHello_eq_ok ..).mp hhello
  have hnone : ([] : Bytes) = signatureBytes none := rfl
  unfold PairingResponder.parseAuthHello
  rw [hnone]
  cases y.validation with
  | current root now =>
      simp [parseAuthHello, parseCurrentAuth_authLayout hcert, PeerValidation.Accepts]
  | paired context =>
      simp [parsePairedAuth_authLayout hcert, PeerValidation.Accepts]

private theorem parseAuthProof_proof [Noise] {x : PairingInitiator} {identity : DeviceIdentity}
    {transcript proof : Bytes} {role : UInt8}
    (hproof : authProof cert identity transcript role = .ok proof) :
    PairingInitiator.parseAuthProof x proof = .ok peer ↔
      x.validation.Accepts roleResponder cert ∧
        peer = presented cert (some (identity.sign (signedMessage transcript role))) := by
  obtain ⟨bytes, hcert, rfl⟩ := (authProof_eq_ok ..).mp hproof
  unfold PairingInitiator.parseAuthProof
  cases x.validation with
  | current root now =>
      simp [parseAuthProof, parseCurrentAuth_authLayout hcert, PeerValidation.Accepts]
  | paired context =>
      simp [parsePairedAuth_authLayout hcert, PeerValidation.Accepts]

end Payloads

section Agreement

omit [Crypto] [Noise] in
private theorem authLayout_length_le {cert : DeviceCertificate} {bytes : Bytes}
    (hcert : cert.toBytes = .ok bytes) (rest : Bytes) (hrest : rest.length ≤ 64) :
    (authLayout cert.deviceId cert.publicKey bytes rest).length ≤ maxAuthPlaintext := by
  have hshape := ((DeviceCertificate.toBytes_eq_ok ..).mp hcert).1
  have hid : cert.deviceId.bytes.length = 32 := hshape.deviceId.1
  have hbytes : bytes.length ≤ 512 := (DeviceCertificate.toBytes_bounded hcert).2.1
  have hmagic : authMagic.length = 15 := rfl
  have hmax : maxAuthPlaintext = 2048 := rfl
  simp only [authLayout, List.length_append, List.length_cons, hid, hmagic, beBytes_length,
    List.Vector.toList_length]
  omega

omit [Crypto] [Noise] in
private theorem crossWire_ok {frame : Bytes} (h : Wired frame) : crossWire frame = .ok frame :=
  (crossWire_eq_ok ..).mpr ⟨h, rfl⟩

/-- The checks that two ends make of each other, in their order: each end's view of its peer and
its transcript. -/
def agreement (x : PairingInitiator) (y : PairingResponder) (hash si sr : Array8 32) :
    Result ((PeerAuth × Bytes) × (PeerAuth × Bytes)) := do
  bailIf (x.mode ≠ y.mode) "pairing authentication mode differs"
  bailIf (y.pairId ≠ none ∧ y.pairId ≠ some x.pairId)
    "pairing PairID differs from the active relationship"
  let hello ← authHello x.certificate
  let peer ← PairingResponder.parseAuthHello y hello
  let transcript ← makeTranscript hash y.mode x.pairId peer.certificate y.certificate si sr
  bailIf (peer.deviceId = y.certificate.deviceId) "pairing reflection detected"
  bailIf (peer.deviceId ≠ y.expectedPeerDeviceId)
    "initiator identity differs from authenticated discovery"
  let proof ← authProof y.certificate y.identity transcript roleResponder
  let peer' ← PairingInitiator.parseAuthProof x proof
  bailIf (peer'.deviceId = x.certificate.deviceId) "pairing reflection detected"
  bailIf (peer'.deviceId ≠ x.expectedPeerDeviceId)
    "responder identity differs from authenticated discovery"
  let transcript' ← makeTranscript hash x.mode x.pairId x.certificate peer'.certificate si sr
  verifySignature peer' transcript' roleResponder
  verifySignaturePayload peer transcript roleInitiator
    (signedAuthPayload x.identity transcript' roleInitiator)
  return ((peer', transcript'), (peer, transcript))

variable [TransportLaws] {hi hr : Noise.HandshakeState} {si sr : Array8 32}

/-- The two sessions over one pair of transports. -/
def Sessions (x : PairingInitiator) (y : PairingResponder)
    (seen : (PeerAuth × Bytes) × (PeerAuth × Bytes))
    (sessions : AuthenticatedPairingSession × AuthenticatedPairingSession) : Prop :=
  ∃ t u, Linked 2 2 t u ∧ sessions =
    (concluded x.pairId x.certificate seen.1.1 seen.1.2 roleInitiator t,
      concluded x.pairId y.certificate seen.2.1 seen.2.2 roleResponder u)

theorem Sessions.linked {x : PairingInitiator} {y : PairingResponder}
    {seen : (PeerAuth × Bytes) × (PeerAuth × Bytes)}
    {sessions : AuthenticatedPairingSession × AuthenticatedPairingSession}
    (h : Sessions x y seen sessions) :
    Linked 2 2 sessions.1.transport sessions.2.transport ∧
      sessions.1.localRole = roleInitiator ∧ sessions.2.localRole = roleResponder := by
  obtain ⟨t, u, hlinked, rfl⟩ := h
  exact ⟨hlinked, rfl, rfl⟩

/-- Between two fresh ends only the checks of `agreement` can fail. -/
theorem authenticate_agreement (H : Handshaken hi hr si sr) {x : PairingInitiator}
    {y : PairingResponder} {acts acts' : List Act} {entropy : Noise.Entropy}
    (hstatic : x.localStaticPublic = si) (hid : HexId x.pairId)
    (hbuild : buildHandshake false x.mode x.pairId entropy = .ok (hr, sr)) :
    Matches (Sessions x y) (agreement x y H.hash si sr)
      (authenticate ⟨{ x with handshake := some H.hi₁ }, acts⟩ ⟨y, acts'⟩ entropy
        (startFrame x.mode x.pairId H.m₁)) := by
  have hwired₂ : Wired (frameLayout kindHandshake roleResponder 0 H.m₂) :=
    wired_frameLayout (by rw [H.lengths.2.1]; decide)
  have hwired₃ : Wired (frameLayout kindHandshake roleInitiator 0 H.m₃) :=
    wired_frameLayout (by rw [H.lengths.2.2]; decide)
  unfold authenticate agreement
  rw [receiveInitiatorStart_exec H hbuild hid]
  simp only [bind_assoc, pure_bind, crossWire_ok hwired₂, ok_bind]
  apply Matches.bind
  intro _ hmode
  apply Matches.bind
  intro _ hpair
  rw [receiveResponderHandshake_exec H rfl]
  simp only [bind_assoc]
  apply Matches.bind
  intro hello hhello
  obtain ⟨bytes, hcert, rfl⟩ := (authHello_eq_ok ..).mp hhello
  obtain ⟨frame, t₁, u₁, hseal, hwired, hopen, hlinked⟩ :=
    H.linked.auth (by decide) roleInitiator 1 (.inl rfl)
      (authLayout_length_le hcert [] (by decide))
  simp only [hseal, ok_bind, pure_bind, crossWire_ok hwired₃, crossWire_ok hwired]
  rw [receiveInitiatorFinish_exec H rfl rfl hopen]
  simp only [bind_assoc]
  apply Matches.bind
  intro peer hpeer
  apply Matches.bind
  intro transcript htranscript
  apply Matches.bind
  intro _ _
  apply Matches.bind
  intro _ _
  apply Matches.bind
  intro proof hproof
  obtain ⟨bytes', hcert', rfl⟩ := (authProof_eq_ok ..).mp hproof
  obtain ⟨frame', u₂, t₂, hseal', hwired', hopen', hlinked'⟩ :=
    hlinked.symm.auth (by decide) roleResponder 2 (.inr rfl)
      (authLayout_length_le hcert' (signatureBytes (some
        (y.identity.sign (signedMessage transcript roleResponder)))) (by simp [signatureBytes]))
  simp only [hseal', ok_bind, pure_bind, crossWire_ok hwired']
  rw [receiveResponderAuth_exec rfl rfl rfl hopen']
  simp only [bind_assoc, hstatic]
  apply Matches.bind
  intro peer' hpeer'
  apply Matches.bind
  intro _ _
  apply Matches.bind
  intro _ _
  apply Matches.bind
  intro transcript' htranscript'
  apply Matches.bind
  intro _ _
  obtain ⟨frame'', t₃, u₃, hseal'', hwired'', hopen'', hlinked''⟩ :=
    hlinked'.symm.auth (by decide) roleInitiator 3
      (p := signedAuthPayload x.identity transcript' roleInitiator) (.inl rfl)
      (by simp [signedAuthPayload, maxAuthPlaintext])
  simp only [hseal'', ok_bind, pure_bind, crossWire_ok hwired'']
  rw [receiveInitiatorAuth_exec rfl rfl rfl rfl rfl hopen'']
  simp only [bind_assoc]
  apply Matches.bind
  intro _ _
  obtain ⟨frame₄, u₄, t₄, hseal₄, hwired₄, hopen₄, hlinked₄⟩ :=
    hlinked''.symm.auth (by decide) roleResponder 4 (p := ackMagic)
      (.inr rfl) (by decide)
  simp only [hseal₄, ok_bind, pure_bind, crossWire_ok hwired₄]
  rw [receiveResponderAck_exec rfl rfl rfl hopen₄]
  exact ⟨t₄, u₄, hlinked₄.symm, rfl⟩

omit [Noise] [TransportLaws] in
private theorem verifySignature_presented {cert : DeviceCertificate} {signature : Array8 64}
    {transcript : Bytes} {role : UInt8} {u : Unit} :
    verifySignature (presented cert (some signature)) transcript role = .ok u ↔
      Crypto.validKey cert.publicKey = true ∧
        Crypto.verifyStrict cert.publicKey (signedMessage transcript role) signature = true := by
  simp [verifySignature, presented, someOr]

omit [Noise] [TransportLaws] in
private theorem verifySignaturePayload_presented {cert : DeviceCertificate}
    {identity : DeviceIdentity} {transcript : Bytes} {role : UInt8} {u : Unit} :
    verifySignaturePayload (presented cert none) transcript role
        (signedAuthPayload identity transcript role) = .ok u ↔
      Crypto.validKey cert.publicKey = true ∧
        Crypto.verifyStrict cert.publicKey (signedMessage transcript role)
          (identity.sign (signedMessage transcript role)) = true := by
  have hexact : exactly 64 "invalid identity signature size"
      (signedAuthPayload identity transcript role) =
        .ok (identity.sign (signedMessage transcript role)) :=
    (exactly_eq_ok ..).mpr rfl
  simp [verifySignaturePayload, hexact, presented]

/-- The signature of an identity on a transcript verifies under the certified key. -/
def DeviceCertificate.Verifies (cert : DeviceCertificate) (identity : DeviceIdentity)
    (message : Bytes) : Prop :=
  Crypto.validKey cert.publicKey = true ∧
    Crypto.verifyStrict cert.publicKey message (identity.sign message) = true

/-- Two ends that accept each other. -/
structure Compatible (x : PairingInitiator) (y : PairingResponder) : Prop where
  mode : x.mode = y.mode
  pairId : y.pairId = none ∨ y.pairId = some x.pairId
  distinct : x.certificate.deviceId ≠ y.certificate.deviceId
  initiatorExpected : x.certificate.deviceId = y.expectedPeerDeviceId
  responderExpected : y.certificate.deviceId = x.expectedPeerDeviceId
  initiatorAccepted : y.validation.Accepts roleInitiator x.certificate
  responderAccepted : x.validation.Accepts roleResponder y.certificate

omit [TransportLaws] in
theorem agreement_eq_ok {x : PairingInitiator} {y : PairingResponder} {hash : Array8 32}
    {seen : (PeerAuth × Bytes) × (PeerAuth × Bytes)} :
    agreement x y hash si sr = .ok seen ↔ Compatible x y ∧ ∃ transcript,
      makeTranscript hash x.mode x.pairId x.certificate y.certificate si sr = .ok transcript ∧
      y.certificate.Verifies y.identity (signedMessage transcript roleResponder) ∧
      x.certificate.Verifies x.identity (signedMessage transcript roleInitiator) ∧
      seen = ((presented y.certificate
        (some (y.identity.sign (signedMessage transcript roleResponder))), transcript),
        (presented x.certificate none, transcript)) := by
  simp only [agreement, bind_eq_ok, bailIf_eq_ok, exists_const, pure_eq_ok, not_not]
  constructor
  · intro h
    obtain ⟨hmode, hpair, hello, hhello, peer, hpeer, transcript, htranscript, hdistinct, hexpected,
      proof, hproof, peer', hpeer', -, hexpected', transcript', htranscript', _, hverify,
      _, hverify', rfl⟩ := h
    obtain ⟨hinitiator, rfl⟩ := (parseAuthHello_hello hhello).mp hpeer
    obtain ⟨hresponder, rfl⟩ := (parseAuthProof_proof hproof).mp hpeer'
    simp only [presented] at htranscript htranscript'
    rw [← hmode, htranscript', Except.ok.injEq] at htranscript
    subst htranscript
    exact ⟨⟨hmode, by tauto, hdistinct, hexpected, hexpected', hinitiator, hresponder⟩, transcript',
      htranscript', verifySignature_presented.mp hverify, verifySignaturePayload_presented.mp hverify',
      rfl⟩
  · intro h
    obtain ⟨hc, transcript, htranscript, hverify, hverify', rfl⟩ := h
    obtain ⟨_, _, hx, hy, -⟩ := (makeTranscript_eq_ok ..).mp htranscript
    have hhello : authHello x.certificate = .ok _ := (authHello_eq_ok ..).mpr ⟨_, hx, rfl⟩
    have hproof : authProof y.certificate y.identity transcript roleResponder = .ok _ :=
      (authProof_eq_ok ..).mpr ⟨_, hy, rfl⟩
    have hpair : ¬(y.pairId ≠ none ∧ y.pairId ≠ some x.pairId) := by
      have := hc.pairId
      tauto
    exact ⟨hc.mode, hpair, _, hhello, _, (parseAuthHello_hello hhello).mpr ⟨hc.initiatorAccepted, rfl⟩,
      transcript, hc.mode ▸ htranscript, hc.distinct, hc.initiatorExpected, _, hproof, _,
      (parseAuthProof_proof hproof).mpr ⟨hc.responderAccepted, rfl⟩, hc.distinct.symm,
      hc.responderExpected, transcript, htranscript, (), verifySignature_presented.mpr hverify, (),
      verifySignaturePayload_presented.mpr hverify', rfl⟩

end Agreement

end OmarchySync
