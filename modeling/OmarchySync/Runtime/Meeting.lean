import OmarchySync.Runtime.Conversation
import OmarchySync.Runtime.Dealings
import OmarchySync.Runtime.Solo

/-!
# How the two meet

The call of one device and the answer of the other, up to the request for a record: what the
two lookups find decides whether the ends accept each other, and nothing else can fail.
-/

namespace OmarchySync

open Logic Wire Traced PairingM

variable [Crypto] [Noise] [TransportLaws] [HandshakeLaws]

private theorem PairingInitiator.Fresh.starts {x : PairingInitiator} (hx : x.Fresh) :
    ∃ start party, exec PairingInitiator.start ⟨x, []⟩ = .ok (start, party) ∧ Wired start ∧
      PairingResponder.startIsReconnect start = .ok (x.mode == modeReconnect) := by
  obtain ⟨hid, entropy, handshake, hhandshake, hbuild⟩ := hx
  have hmode : x.mode = modeFirstContact ∨ x.mode = modeReconnect := by
    unfold Pairing.mode PeerValidation.mode
    cases x.validation with
    | current root now => exact .inl rfl
    | paired context => exact .inr rfl
  obtain ⟨hr, sr, hbuild'⟩ := buildHandshake_ok hmode hid false entropy
  obtain ⟨H⟩ := handshaken hbuild hbuild'
  have hlength : x.pairId.bytes.length = 32 := hid.1
  refine ⟨_, _, start_exec H hhandshake hmode hid, ?_, ?_⟩
  · exact wired_frameLayout (by simp [hlength, H.lengths.1, maxAuthFrame])
  · rw [PairingResponder.startIsReconnect, decodeStartFrame_startFrame x.mode hid H.lengths.1]
    rfl

section Accept

variable [Serde] {rt : Runtime} {os : Opening} {h : Host} {store : PairingStore}
  {reconnect : Bool} {party : Party PairingInitiator} {start stream rest : Bytes}

omit [TransportLaws] [HandshakeLaws]

private theorem Link.accept_error {e : String} (hread : readWire stream = .ok (start, rest))
    (hconnect : Link.connect rt os h party start = .error e) :
    Link.accept rt os h ⟨.dialed store reconnect party, .listening, [], stream⟩ =
      ⟨.returned (.error e), .returned (.error e), [], stream⟩ := by
  simp only [Link.accept, hread, hconnect]
  rfl

private theorem Link.accept_ok {s s' : AuthenticatedPairingSession} {stage : ResponderStage}
    {out : Bytes} (hread : readWire stream = .ok (start, rest))
    (hconnect : Link.connect rt os h party start = .ok (s, stage))
    (hsend : sendMessage s .request = .ok (out, s')) :
    Link.accept rt os h ⟨.dialed store reconnect party, .listening, [], stream⟩ =
      ⟨.response store reconnect s', stage, [], rest ++ out⟩ := by
  simp only [Link.accept, hread, hconnect, hsend]

end Accept

namespace Partners

variable {P : Partners}

/-- The daemons of the two. -/
def devices (P : Partners) : Devices :=
  ⟨⟨P.initiator, P.root, P.initiatorCertificate, P.responder.deviceId⟩,
    ⟨P.responder, P.root, P.responderCertificate, P.initiator.deviceId⟩⟩

/-- The two ends act for the two devices. -/
structure Acts (P : Partners) (x : PairingInitiator) (y : PairingResponder) : Prop where
  fresh : x.Fresh
  shaped : P.initiatorCertificate.Shaped ∧ P.responderCertificate.Shaped
  initiator : x.identity = P.initiator ∧ x.certificate = P.initiatorCertificate
  responder : y.identity = P.responder ∧ y.certificate = P.responderCertificate

variable {x : PairingInitiator} {y : PairingResponder} {start : Bytes}
  {party : Party PairingInitiator} {entropy : Noise.Entropy}

private theorem Acts.authenticate [LawfulCrypto] (hacts : P.Acts x y) (entropy : Noise.Entropy)
    (hc : Compatible x y)
    (hstart : exec PairingInitiator.start ⟨x, []⟩ = .ok (start, party)) (hwired : Wired start) :
    ∃ s r, authenticate party ⟨y, []⟩ entropy start = .ok (s, r) := by
  have hshaped : x.certificate.Shaped ∧ y.certificate.Shaped := by
    rw [hacts.initiator.2, hacts.responder.2]
    exact hacts.shaped
  have hlocal : x.certificate.deviceId = x.identity.deviceId ∧
      x.certificate.publicKey = x.identity.publicKey := by
    rw [hacts.initiator.1, hacts.initiator.2]
    exact P.initiatorHolds
  have hlocal' : y.certificate.deviceId = y.identity.deviceId ∧
      y.certificate.publicKey = y.identity.publicKey := by
    rw [hacts.responder.1, hacts.responder.2]
    exact P.responderHolds
  obtain ⟨i, r, s, t, hi, hr, hdeliver, -⟩ :=
    completes_of_compatible hacts.fresh hc hshaped hlocal hlocal' entropy
  obtain rfl := Except.ok.inj hi
  obtain rfl := Except.ok.inj hr
  have hcross : crossWire start = .ok start := (crossWire_eq_ok _ _).mpr ⟨hwired, rfl⟩
  simp only [deliver, hstart, hcross, ok_bind] at hdeliver
  exact ⟨s, t, hdeliver⟩

theorem Acts.met (hacts : P.Acts x y)
    (hstart : exec PairingInitiator.start ⟨x, []⟩ = .ok (start, party)) (hwired : Wired start)
    {s r : AuthenticatedPairingSession}
    (hauth : OmarchySync.authenticate party ⟨y, []⟩ entropy start = .ok (s, r)) :
    Compatible x y ∧ ∃ binding, P.Met x.pairId binding s r := by
  obtain ⟨hash, static, hmatches⟩ := hacts.fresh.deliver (y := y) entropy
  have hcross : crossWire start = .ok start := (crossWire_eq_ok _ _).mpr ⟨hwired, rfl⟩
  have hdeliver : deliver x y entropy = .ok (s, r) := by
    simp only [deliver, hstart, hcross, ok_bind]
    exact hauth
  obtain ⟨seen, hagree, t, u, -, hsessions⟩ := hmatches.exists_of_ok' hdeliver
  obtain ⟨hc, transcript, -, -, -, rfl⟩ := agreement_eq_ok.mp hagree
  obtain ⟨rfl, rfl⟩ := Prod.mk.inj hsessions
  refine ⟨hc, Crypto.sha256 transcript, ?_, ?_⟩
  · rw [initiatorEnd, ← P.initiatorHolds.1, ← P.responderHolds.1, ← P.responderHolds.2,
      ← hacts.initiator.2, ← hacts.responder.2]
    rfl
  · rw [responderEnd, ← P.initiatorHolds.1, ← P.responderHolds.1, ← P.initiatorHolds.2,
      ← hacts.initiator.2, ← hacts.responder.2]
    rfl

section Ends

variable {t : Terms} {now : UInt64} {pairId : Text}

/-- The ends of a first contact. -/
def newcomer (P : Partners) (pairId : Text) (now : UInt64) (handshake : Noise.HandshakeState)
    (static : Array8 32) : PairingInitiator :=
  Pairing.fresh P.initiator pairId P.initiatorCertificate P.responder.deviceId
    (.current P.root now) (some handshake) static

def host (P : Partners) (now : UInt64) : PairingResponder :=
  Pairing.fresh P.responder none P.responderCertificate P.initiator.deviceId
    (.current P.root now) none (List.Vector.replicate 32 0)

/-- The ends of a reconnect. -/
def caller (P : Partners) (pairId : Text) (handshake : Noise.HandshakeState)
    (static : Array8 32) : PairingInitiator :=
  Pairing.fresh P.initiator pairId P.initiatorCertificate P.responder.deviceId
    (.paired (P.pairedContext pairId)) (some handshake) static

def callee (P : Partners) (pairId : Text) : PairingResponder :=
  Pairing.fresh P.responder (some pairId) P.responderCertificate P.initiator.deviceId
    (.paired (P.pairedContext pairId)) none (List.Vector.replicate 32 0)

omit [TransportLaws] [HandshakeLaws] in
theorem newcomer_compatible {now' : UInt64} {handshake : Noise.HandshakeState}
    {static : Array8 32} (hvalid : P.ValidAt now) (hvalid' : P.ValidAt now') :
    Compatible (P.newcomer pairId now handshake static) (P.host now') := by
  constructor
  · rfl
  · exact .inl rfl
  · simpa only [newcomer, host, Pairing.fresh, P.initiatorHolds.1, P.responderHolds.1] using
      P.distinct
  · exact P.initiatorHolds.1
  · exact P.responderHolds.1
  · exact hvalid'.issued.1
  · exact hvalid.issued.2

omit [TransportLaws] [HandshakeLaws] in
theorem caller_compatible {handshake : Noise.HandshakeState} {static : Array8 32} :
    Compatible (P.caller pairId handshake static) (P.callee pairId) := by
  constructor
  · rfl
  · exact .inr rfl
  · simpa only [caller, callee, Pairing.fresh, P.initiatorHolds.1, P.responderHolds.1] using
      P.distinct
  · exact P.initiatorHolds.1
  · exact P.responderHolds.1
  · simp [PeerValidation.Accepts, callee, caller, Pairing.fresh, pairedContext,
      PairedIdentityContext.identityForRole, P.initiatorHolds.1, P.initiatorHolds.2]
  · have hrole : roleResponder ≠ roleInitiator := by decide
    simp [PeerValidation.Accepts, callee, caller, Pairing.fresh, pairedContext,
      PairedIdentityContext.identityForRole, hrole, P.responderHolds.1, P.responderHolds.2]

private theorem new_eq (random : Array8 16) (entropy : Noise.Entropy) (hvalid : P.ValidAt now) :
    ∃ handshake static, PairingInitiator.new P.initiator P.initiatorCertificate
        P.responder.deviceId P.root now (.ok random) entropy =
        .ok (P.newcomer (hexText random.toList) now handshake static) ∧
      (P.newcomer (hexText random.toList) now handshake static).Fresh := by
  have hid : HexId (hexText random.toList) := hexId_hexText _ (by simp)
  obtain ⟨handshake, static, hbuild⟩ := buildHandshake_ok (.inl rfl) hid true entropy
  refine ⟨handshake, static, ?_, hid, entropy, handshake, rfl, hbuild⟩
  simp [PairingInitiator.new, newcomer, validateLocal_ok P.initiatorHolds hvalid.initiator,
    validateExpectedPeer_ok P.initiatorHolds P.distinct, randomPairId, hbuild, pure_result]

omit [Noise] [TransportLaws] [HandshakeLaws] in
private theorem roleFor_initiator :
    (P.pairedContext pairId).roleFor P.initiator = .ok roleInitiator := by
  simp [PairedIdentityContext.roleFor, pairedContext]

omit [Noise] [TransportLaws] [HandshakeLaws] in
private theorem roleFor_responder :
    (P.pairedContext pairId).roleFor P.responder = .ok roleResponder := by
  simp [PairedIdentityContext.roleFor, pairedContext, P.distinct.symm]

private theorem newReconnect_eq (entropy : Noise.Entropy) (hid : HexId pairId) :
    ∃ handshake static, PairingInitiator.newReconnect P.initiator (P.pairedContext pairId)
        entropy = .ok (P.caller pairId handshake static) ∧
      (P.caller pairId handshake static).Fresh := by
  obtain ⟨handshake, static, hbuild⟩ := buildHandshake_ok (.inr rfl) hid true entropy
  refine ⟨handshake, static, ?_, hid, entropy, handshake, rfl, hbuild⟩
  have hcontext : (P.pairedContext pairId).pairId = pairId := rfl
  simp only [PairingInitiator.newReconnect, roleFor_initiator, ok_bind, hcontext, hbuild, ne_eq,
    not_true_eq_false, bailIf_false, pure_result]
  rfl

omit [TransportLaws] [HandshakeLaws] in
private theorem answer_eq (hvalid : P.ValidAt now) :
    PairingResponder.new P.responder P.responderCertificate P.initiator.deviceId P.root now =
      .ok (P.host now) := by
  simp [PairingResponder.new, host, validateLocal_ok P.responderHolds hvalid.responder,
    validateExpectedPeer_ok P.responderHolds P.distinct.symm, pure_result]

omit [TransportLaws] [HandshakeLaws] in
private theorem answerReconnect_eq :
    PairingResponder.newReconnect P.responder (P.pairedContext pairId) =
      .ok (P.callee pairId) := by
  simp only [PairingResponder.newReconnect, roleFor_responder, ok_bind, ne_eq,
    not_true_eq_false, bailIf_false, pure_result]
  rfl

end Ends

section Lookups

variable [Serde] {t : Terms} {os : Opening} {h : Host}

/-- No record of the two. -/
structure Blank (P : Partners) (h : Host) : Prop where
  kept : h.WellKept ⟨P.root, 0⟩
  active : P.records h .active = ∅
  pending : P.records h .pending = ∅

/-- The initiator has co-signed, and nothing more. -/
structure CoSigned (P : Partners) (h : Host) (t : Terms) : Prop where
  kept : h.WellKept ⟨P.root, 0⟩
  active : P.records h .active = ∅
  free : h.file .active (recordFile t.pairId) = none
  unrevoked : h.file .revoked (recordFile t.pairId) = none
  pending : P.records h .pending = {P.agreed t}

/-- The responder has made any number of offers, and nothing more. -/
structure Offered (P : Partners) (h : Host) : Prop where
  kept : h.WellKept ⟨P.root, 0⟩
  active : P.records h .active = ∅
  pending : ∀ r ∈ P.records h .pending, ∃ u, P.Fair u ∧ r = P.offer u

omit [Noise] [TransportLaws] [HandshakeLaws] in
theorem kept_at (hkept : h.WellKept ⟨P.root, 0⟩) (now : UInt64) : h.WellKept ⟨P.root, now⟩ :=
  ⟨hkept.active, hkept.pending⟩

omit [Noise] [TransportLaws] [HandshakeLaws] [Serde] in
theorem deviceIds_hexId : HexId P.initiator.deviceId ∧ HexId P.responder.deviceId :=
  ⟨deviceIdForPublicKey_hexId _, deviceIdForPublicKey_hexId _⟩

theorem Blank.openInitiator {random : Array8 16} (hblank : P.Blank h)
    (hrandom : os.random = .ok random) (hvalid : P.ValidAt os.now) :
    ∃ handshake static, openInitiator P.devices.initiator os h =
        .ok (P.newcomer (hexText random.toList) os.now handshake static, false) ∧
      (P.newcomer (hexText random.toList) os.now handshake static).Fresh := by
  obtain ⟨handshake, static, hnew, hfresh⟩ :=
    new_eq (P := P) random os.entropy hvalid
  refine ⟨handshake, static, ?_, hfresh⟩
  have hids := deviceIds_hexId (P := P)
  have hkept := kept_at hblank.kept os.opened
  have hactive := activePairForPeerAt_none hkept os.activeOrder hids.1 hids.2 hblank.active
  have hpending := pendingForPeer_none hkept os.pendingOrder hids.1 hids.2 hblank.pending
  simp [OmarchySync.openInitiator, devices, hactive, hpending, hrandom, hnew, pure_result]

variable [LawfulCrypto]

theorem CoSigned.openInitiator (hcosigned : P.CoSigned h t) (hfair : P.Fair t) :
    ∃ handshake static, openInitiator P.devices.initiator os h =
        .ok (P.caller t.pairId handshake static, true) ∧
      (P.caller t.pairId handshake static).Fresh := by
  obtain ⟨handshake, static, hnew, hfresh⟩ :=
    newReconnect_eq (P := P) os.entropy hfair.pairId
  refine ⟨handshake, static, ?_, hfresh⟩
  have hids := deviceIds_hexId (P := P)
  have hkept := kept_at hcosigned.kept os.opened
  have hactive := activePairForPeerAt_none hkept os.activeOrder hids.1 hids.2 hcosigned.active
  have hpending : ∀ order, PairingStore.pendingForPeer ⟨P.root, os.opened⟩ order h
      P.initiator.deviceId P.responder.deviceId = .ok (some (P.agreed t)) := by
    intro order
    have hmem : P.agreed t ∈ P.records h .pending := by
      rw [hcosigned.pending]
      exact Set.mem_singleton _
    obtain ⟨r, hr, hfound⟩ := pendingForPeer_some hkept order hids.1 hids.2 hmem
    have heq : r ∈ ({P.agreed t} : Set PairingRecord) := hcosigned.pending ▸ hr
    rw [hfound, Set.mem_singleton_iff.mp heq]
  have hcontext := hfair.contextFromRecord true os.opened (.inl rfl)
  rw [← agreed_eq_signed] at hcontext
  simp [OmarchySync.openInitiator, devices, hactive, hpending, PairingStore.recoveryContext,
    hcontext, someOr, hnew, pure_result]

theorem Paired.openInitiator (hpaired : P.Paired h t) (hfair : P.Fair t) :
    ∃ handshake static, openInitiator P.devices.initiator os h =
        .ok (P.caller t.pairId handshake static, true) ∧
      (P.caller t.pairId handshake static).Fresh := by
  obtain ⟨handshake, static, hnew, hfresh⟩ :=
    newReconnect_eq (P := P) os.entropy hfair.pairId
  refine ⟨handshake, static, ?_, hfresh⟩
  have hids := deviceIds_hexId (P := P)
  have hkept := kept_at hpaired.kept os.opened
  have hactive := activePairForPeerAt_some hkept os.activeOrder hids.1 hids.2 hpaired.active
  have hpending := pendingForPeer_none hkept os.pendingOrder hids.1 hids.2 hpaired.pending
  have hmem : P.agreed t ∈ P.records h .active := by
    rw [hpaired.active]
    exact Set.mem_singleton _
  have hcontext := hfair.reconnectContext os.opened hmem.1 (.inl rfl)
  simp [OmarchySync.openInitiator, devices, hactive, hpending, hcontext, hnew, pure_result]

variable {start : Bytes}

omit [TransportLaws] [HandshakeLaws] [LawfulCrypto] in
/-- A responder without an active record takes a newcomer's call as one. -/
theorem Offered.openResponder (hoffered : P.Offered h) (hvalid : P.ValidAt os.now)
    (hstart : PairingResponder.startIsReconnect start = .ok false) :
    ∃ pending, openResponder P.devices.responder os h start =
        .ok (P.host os.now, ⟨none, pending, false⟩) ∧
      (∀ r, pending = some r → r ∈ P.records h .pending) ∧
      (pending = none → P.records h .pending = ∅) := by
  have hids := deviceIds_hexId (P := P)
  have hkept := kept_at hoffered.kept os.opened
  have hnone : h.between .active P.responder.deviceId P.initiator.deviceId = ∅ := by
    rw [Host.between_comm]
    exact hoffered.active
  have hactive := activePairForPeerAt_none hkept os.activeOrder hids.2 hids.1 hnone
  obtain ⟨found, hfound, hsome, hempty⟩ :=
    (hkept.answers os.pendingOrder).pendingForPeer _ _ hids.2 hids.1
  refine ⟨found, ?_, ?_, ?_⟩
  · simp [OmarchySync.openResponder, devices, hstart, hactive, hfound, answer_eq hvalid,
      pure_result]
  · intro r hr
    exact ⟨(hsome r hr).1, PairingRecord.binds_comm.mp (hsome r hr).2⟩
  · intro hr
    apply Set.eq_empty_of_forall_notMem
    rintro r ⟨hcommitted, hbinds⟩
    exact hempty hr r hcommitted (PairingRecord.binds_comm.mpr hbinds)

omit [TransportLaws] [HandshakeLaws] in
/-- It takes a reconnect under the PairIDs that its two scans come up with. -/
theorem Offered.openRecovery (hoffered : P.Offered h) {u v : Terms} (hfair : P.Fair v)
    (hstart : PairingResponder.startIsReconnect start = .ok true)
    (hpending : PairingStore.pendingForPeer ⟨P.root, os.opened⟩ os.pendingOrder h
      P.responder.deviceId P.initiator.deviceId = .ok (some (P.offer u)))
    (hrecovery : PairingStore.pendingForPeer ⟨P.root, os.opened⟩ os.recoveryOrder h
      P.responder.deviceId P.initiator.deviceId = .ok (some (P.offer v))) :
    OmarchySync.openResponder P.devices.responder os h start =
      .ok (P.callee v.pairId, ⟨none, some (P.offer u), true⟩) := by
  have hids := deviceIds_hexId (P := P)
  have hkept := kept_at hoffered.kept os.opened
  have hnone : h.between .active P.responder.deviceId P.initiator.deviceId = ∅ := by
    rw [Host.between_comm]
    exact hoffered.active
  have hactive := activePairForPeerAt_none hkept os.activeOrder hids.2 hids.1 hnone
  have hcontext := hfair.contextFromRecord false os.opened (.inr rfl)
  rw [← offer_eq_signed] at hcontext
  simp [OmarchySync.openResponder, devices, hstart, hactive, hpending,
    PairingStore.recoveryContext, hrecovery, hcontext, someOr, answerReconnect_eq, pure_result]

omit [Noise] [TransportLaws] [HandshakeLaws] [LawfulCrypto] in
theorem Offered.scan (hoffered : P.Offered h) (order : ReadDir) (now : UInt64) {r : PairingRecord}
    (hr : r ∈ P.records h .pending) :
    ∃ u, P.Fair u ∧ P.offer u ∈ P.records h .pending ∧
      PairingStore.pendingForPeer ⟨P.root, now⟩ order h P.responder.deviceId
        P.initiator.deviceId = .ok (some (P.offer u)) := by
  have hids := deviceIds_hexId (P := P)
  have hmem : r ∈ h.between .pending P.responder.deviceId P.initiator.deviceId := by
    rw [Host.between_comm]
    exact hr
  obtain ⟨r', hr', hfound⟩ :=
    pendingForPeer_some (kept_at hoffered.kept now) order hids.2 hids.1 hmem
  rw [Host.between_comm] at hr'
  obtain ⟨u, hu, rfl⟩ := hoffered.pending r' hr'
  exact ⟨u, hu, hr', hfound⟩

omit [Noise] [TransportLaws] [HandshakeLaws] [LawfulCrypto] in
theorem Offered.scan_leads (hoffered : P.Offered h) (order : ReadDir) (now : UInt64)
    (hmem : P.offer t ∈ P.records h .pending)
    (hleads : order.Leads h P.responder.deviceId P.initiator.deviceId (P.offer t)) :
    PairingStore.pendingForPeer ⟨P.root, now⟩ order h P.responder.deviceId
      P.initiator.deviceId = .ok (some (P.offer t)) := by
  have hids := deviceIds_hexId (P := P)
  have hbetween : P.offer t ∈ h.between .pending P.responder.deviceId P.initiator.deviceId := by
    rw [Host.between_comm]
    exact hmem
  exact pendingForPeer_of_leads (kept_at hoffered.kept now) order hids.2 hids.1 hbetween hleads

omit [TransportLaws] [HandshakeLaws] in
theorem Paired.openResponder (hpaired : P.Paired h t) (os : Opening) (hfair : P.Fair t)
    (hstart : PairingResponder.startIsReconnect start = .ok true) :
    openResponder P.devices.responder os h start =
      .ok (P.callee t.pairId, ⟨some t.pairId, none, true⟩) := by
  have hids := deviceIds_hexId (P := P)
  have hkept := kept_at hpaired.kept os.opened
  have hset : h.between .active P.responder.deviceId P.initiator.deviceId = {P.agreed t} := by
    rw [Host.between_comm]
    exact hpaired.active
  have hnone : h.between .pending P.responder.deviceId P.initiator.deviceId = ∅ := by
    rw [Host.between_comm]
    exact hpaired.pending
  have hactive := activePairForPeerAt_some hkept os.activeOrder hids.2 hids.1 hset
  have hpending := pendingForPeer_none hkept os.pendingOrder hids.2 hids.1 hnone
  have hmem : P.agreed t ∈ P.records h .active := by
    rw [hpaired.active]
    exact Set.mem_singleton _
  have hcontext := hfair.reconnectContext os.opened hmem.1 (.inr rfl)
  simp [OmarchySync.openResponder, devices, hstart, hactive, hpending, hcontext,
    answerReconnect_eq, pure_result]

end Lookups

/-- The two in a session, with the messages that each has yet to read. -/
structure Talk (P : Partners) (pairId : Text) (binding : Array8 32) (n m : Nat)
    (s r : AuthenticatedPairingSession) (toResponder toInitiator : Bytes)
    (requests replies : List PairMessage) : Prop where
  met : P.Met pairId binding s r
  forth : Line n s r toResponder requests
  back : Line m r s toInitiator replies

section Calls

variable [Serde] {os os' : Opening} {a b : Host} {reconnect : Bool} {found : Found}

/-- The initiator has called. -/
def Dialed (P : Partners) (x : PairingInitiator) (start : Bytes) (opened : UInt64)
    (reconnect : Bool) (l : Link) : Prop :=
  ∃ party, exec PairingInitiator.start ⟨x, []⟩ = .ok (start, party) ∧ Wired start ∧
    l = ⟨.dialed ⟨P.root, opened⟩ reconnect party, .listening, [], wireLayout start⟩

theorem dial_of_open (hopen : openInitiator P.devices.initiator os a = .ok (x, reconnect))
    (hx : x.Fresh) :
    ∃ start, PairingResponder.startIsReconnect start = .ok (x.mode == modeReconnect) ∧
      P.Dialed x start os.opened reconnect (.dial P.devices.initiator os a) := by
  obtain ⟨start, party, hstart, hwired, hmode⟩ := hx.starts
  refine ⟨start, hmode, party, hstart, hwired, ?_⟩
  have hwire : writeWire start = .ok (wireLayout start) :=
    (writeWire_eq_ok ..).mpr ⟨hwired, rfl⟩
  simp only [Link.dial, hopen, hstart, hwire, ok_bind, pure_result]
  rfl

variable [LawfulCrypto] {l : Link}

/-- The call is taken exactly when the two ends accept each other. -/
theorem Dialed.accept (hdialed : P.Dialed x start os.opened reconnect l) (hacts : P.Acts x y)
    (hopen : openResponder P.devices.responder os' b start = .ok (y, found)) :
    (Compatible x y ∧ ∃ binding s r toResponder,
      l.accept P.devices.responder os' b = ⟨.response ⟨P.root, os.opened⟩ reconnect s,
        .request ⟨P.root, os'.opened⟩ found r, [], toResponder⟩ ∧
      P.Talk x.pairId binding 3 2 s r toResponder [] [.request] []) ∨
    (¬Compatible x y ∧ ∃ e, l.accept P.devices.responder os' b =
      ⟨.returned (.error e), .returned (.error e), [], wireLayout start⟩) := by
  obtain ⟨party, hstart, hwired, rfl⟩ := hdialed
  have hread : readWire (wireLayout start) = .ok (start, []) :=
    (readWire_eq_ok ..).mpr ⟨hwired, (List.append_nil _).symm⟩
  cases hconnect : Link.connect P.devices.responder os' b party start with
  | error e =>
      right
      refine ⟨?_, e, ?_⟩
      · intro hc
        obtain ⟨s, r, hauth⟩ := hacts.authenticate os'.entropy hc hstart hwired
        simp only [Link.connect, hopen, hauth, ok_bind, pure_result, reduceCtorEq] at hconnect
      · exact Link.accept_error hread hconnect
  | ok out =>
      left
      have hout := hconnect
      simp only [Link.connect, hopen, ok_bind, bind_eq_ok, pure_eq_ok] at hout
      obtain ⟨⟨s, r⟩, hauth, rfl⟩ := hout
      obtain ⟨hc, binding, hmet⟩ := hacts.met hstart hwired hauth
      obtain ⟨_, _, _, hstage, hforth, hback⟩ :=
        Conversation.lines_of_connect hacts.fresh hwired hstart hconnect
      obtain ⟨rfl, rfl, rfl⟩ := ResponderStage.request.inj hstage
      obtain ⟨sent, s', hsend, hforth', hback'⟩ :=
        hforth.send (m := .request) trivial (by decide)
      refine ⟨hc, binding, s', r, sent, ?_, ?_, hforth', hback' _ _ _ hback⟩
      · exact Link.accept_ok hread hconnect hsend
      · exact hmet.traffic (sendMessage_sameEnds hsend) ⟨r.transport, rfl⟩

end Calls

end Partners

end OmarchySync
