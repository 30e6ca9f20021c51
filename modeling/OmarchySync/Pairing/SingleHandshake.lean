import OmarchySync.Pairing.Authentication

/-!
# One session, one handshake

The calls of one end in any order, failing ones included. Which handshake a transport comes
from is a matter of how it was reached, so it is stated by the two relations below.
-/

namespace OmarchySync

open Logic Wire Traced PairingM

section Origins

variable [Noise]

/-- The states of a handshake that was built with the static key `static`. -/
inductive HandshakeRun (initiator : Bool) (mode : UInt8) (pairId : Text) (static : Array8 32) :
    Noise.HandshakeState → Prop where
  | built {entropy h} (hbuild : buildHandshake initiator mode pairId entropy = .ok (h, static)) :
      HandshakeRun initiator mode pairId static h
  | written {h} (capacity payload) (hrun : HandshakeRun initiator mode pairId static h) :
      HandshakeRun initiator mode pairId static (Noise.writeHandshake h capacity payload).2
  | read {h} (capacity message) (hrun : HandshakeRun initiator mode pairId static h) :
      HandshakeRun initiator mode pairId static (Noise.readHandshake h capacity message).2

/-- The states of the transport of a finished handshake. -/
inductive TransportRun (h : Noise.HandshakeState) : Noise.TransportState → Prop where
  | entered {t} (henter : Noise.intoTransportMode h = .ok t) : TransportRun h t
  | written {t} (capacity payload) (hrun : TransportRun h t) :
      TransportRun h (Noise.writeMessage t capacity payload).2
  | read {t} (capacity message) (hrun : TransportRun h t) :
      TransportRun h (Noise.readMessage t capacity message).2

/-- A transport of the handshake that ended with `info`. -/
structure OneHandshake (initiator : Bool) (mode : UInt8) (pairId : Text) (static : Array8 32)
    (info : HandshakeInfo) (t : Noise.TransportState) : Prop where
  origin : ∃ h t₀, HandshakeRun initiator mode pairId static h ∧
    finishHandshake h = .ok (t₀, info) ∧ TransportRun h t

variable {initiator : Bool} {mode : UInt8} {pairId : Text} {static : Array8 32}
  {info : HandshakeInfo} {h : Noise.HandshakeState} {t : Noise.TransportState}

private theorem OneHandshake.entered (hrun : HandshakeRun initiator mode pairId static h)
    (hfinish : finishHandshake h = .ok (t, info)) :
    OneHandshake initiator mode pairId static info t := by
  have henter : Noise.intoTransportMode h = .ok t := by
    simp only [finishHandshake, bind_eq_ok, bailIf_eq_ok, exists_const, labelled_eq_ok,
      pure_eq_ok, Prod.mk.injEq] at hfinish
    obtain ⟨-, _, -, _, -, _, -, _, henter, rfl, -⟩ := hfinish
    exact henter
  exact ⟨h, t, hrun, hfinish, .entered henter⟩

private theorem OneHandshake.encryptAuth (hone : OneHandshake initiator mode pairId static info t)
    (role sequence : UInt8) (plaintext : Bytes) :
    OneHandshake initiator mode pairId static info
      (OmarchySync.encryptAuth t role sequence plaintext).2 := by
  obtain ⟨h, t₀, hrun, hfinish, htransport⟩ := hone.origin
  unfold OmarchySync.encryptAuth
  split
  · exact hone
  · exact ⟨h, t₀, hrun, hfinish, htransport.written _ _⟩

private theorem OneHandshake.decryptAuth (hone : OneHandshake initiator mode pairId static info t)
    (frame : Bytes) (role sequence : UInt8) :
    OneHandshake initiator mode pairId static info
      (OmarchySync.decryptAuth t frame role sequence).2 := by
  obtain ⟨h, t₀, hrun, hfinish, htransport⟩ := hone.origin
  unfold OmarchySync.decryptAuth
  split
  · exact hone
  · split
    · exact hone
    · exact ⟨h, t₀, hrun, hfinish, htransport.read _ _⟩

end Origins

namespace PairingM

variable {σ α β : Type} {P : List Act → Act → Prop} {I : Party σ → Prop} {G : α → Party σ → Prop}
  {p : Party σ}

/-- A call ends in the invariant, and with a good result if it succeeds. -/
def Leaves (I : Party σ → Prop) (G : α → Party σ → Prop) (r : Result α) (q : Party σ) : Prop :=
  I q ∧ ∀ a, r = .ok a → G a q

private theorem keeps_check_of {r : Result β} {f : β → PairingM σ α} (hp : ∀ e, r = .error e → I p)
    (h : ∀ b, r = .ok b → Keeps (Tells P) (f b) (Leaves I G) p) :
    Keeps (Tells P) ((liftM r : PairingM σ β) >>= f) (Leaves I G) p := by
  rw [keeps_lift_bind]
  exact ⟨h, fun e he => ⟨hp e he, fun _ hr => by cases hr⟩⟩

private theorem keeps_check {r : Result β} {f : β → PairingM σ α} (hp : I p)
    (h : ∀ b, r = .ok b → Keeps (Tells P) (f b) (Leaves I G) p) :
    Keeps (Tells P) ((liftM r : PairingM σ β) >>= f) (Leaves I G) p :=
  keeps_check_of (fun _ _ => hp) h

private theorem keeps_result {r : Result α} (hp : I p) (h : ∀ a, r = .ok a → G a p) :
    Keeps (Tells P) (liftM r : PairingM σ α) (Leaves I G) p :=
  (keeps_lift r).mpr ⟨hp, h⟩

end PairingM

section Ends

variable [Crypto] [Noise]

/-- The transcript of a session of `initiator`, or of its responder, over one handshake. -/
def sessionTranscript (initiator : Bool) (mode : UInt8) (static : Array8 32) (info : HandshakeInfo)
    (session : AuthenticatedPairingSession) : Result Bytes :=
  if initiator then
    makeTranscript info.hash mode session.pairId session.localCertificate session.peerCertificate
      static info.remoteStatic
  else
    makeTranscript info.hash mode session.pairId session.peerCertificate session.localCertificate
      info.remoteStatic static

/-- A signature on the message was checked, and it verifies strictly under the key. -/
def SignatureVerified (publicKey : Array8 32) (message : Bytes) (acts : List Act) : Prop :=
  ∃ signature : Array8 64, Crypto.verifyStrict publicKey message signature = true ∧
    .verified publicKey message signature.toList ∈ acts

omit [Noise] in
private theorem SignatureVerified.mono {publicKey : Array8 32} {message : Bytes}
    {acts acts' : List Act}
    (h : SignatureVerified publicKey message acts) (hacts : acts ⊆ acts') :
    SignatureVerified publicKey message acts' := by
  obtain ⟨signature, hverify, hmem⟩ := h
  exact ⟨signature, hverify, hacts hmem⟩

omit [Noise] in
private theorem VerifiesStrictly.signatureVerified {publicKey : Array8 32}
    {message signature : Bytes}
    {acts : List Act} (h : VerifiesStrictly publicKey message signature)
    (hmem : .verified publicKey message signature ∈ acts) :
    SignatureVerified publicKey message acts := by
  obtain ⟨s, rfl, hverify⟩ := h
  exact ⟨s, hverify, hmem⟩

/-- The session's transport comes from the handshake whose hash and static keys are in the
digested transcript, and a signature of the session's peer on that transcript was verified. -/
structure SingleHandshake (initiator : Bool) (mode : UInt8) (transcript : Bytes)
    (session : AuthenticatedPairingSession) (acts : List Act) : Prop where
  binding : session.sessionBinding = Crypto.sha256 transcript
  handshake : ∃ static info, OneHandshake initiator mode session.pairId static info
      session.transport ∧
    sessionTranscript initiator mode static info session = .ok transcript
  verified : SignatureVerified session.peerPublicKey (signedMessage transcript
    (if initiator then roleResponder else roleInitiator)) acts
  certified : session.peerCertificate.deviceId = session.peerDeviceId ∧
    session.peerCertificate.publicKey = session.peerPublicKey

section Peers

omit [Noise]

/-- The certificate that a peer presented has its DeviceID and its key. -/
def PeerAuth.Certified (peer : PeerAuth) : Prop :=
  peer.certificate.deviceId = peer.deviceId ∧ peer.certificate.publicKey = peer.publicKey

/-- Validation against the fields of a record that a context was made from. -/
def PeerValidation.Made : PeerValidation → Prop
  | current _ _ => True
  | paired context => ∃ pairId initiatorDeviceId responderDeviceId initiatorPublicKey
      responderPublicKey initiatorCertificate responderCertificate,
      PairedIdentityContext.fromValidatedRecord pairId initiatorDeviceId responderDeviceId
        initiatorPublicKey responderPublicKey initiatorCertificate responderCertificate = .ok context

private theorem parseCurrentAuth_certified {required : Bool} {message : String} {payload : Bytes}
    {root : PinnedOmarchyRoot} {now : UInt64} {peer : PeerAuth}
    (h : parseCurrentAuth required message payload root now = .ok peer) : peer.Certified := by
  have hnamed := parseCurrentAuth_named h
  exact ⟨hnamed.deviceId, hnamed.publicKey⟩

private theorem parsePairedAuth_certified {payload : Bytes} {context : PairedIdentityContext}
    {role : UInt8}
    {required : Bool} {peer : PeerAuth} (hmade : (PeerValidation.paired context).Made)
    (h : parsePairedAuth payload context role required = .ok peer) : peer.Certified := by
  obtain ⟨_, _, _, _, _, _, _, hcontext⟩ := hmade
  simp only [PairedIdentityContext.fromValidatedRecord, bind_eq_ok, bailIf_eq_ok, exists_const,
    pure_eq_ok, not_or, not_not] at hcontext
  obtain ⟨⟨-, hinitiator, hresponder, hinitiatorKey, hresponderKey⟩, rfl⟩ := hcontext
  simp only [parsePairedAuth, bind_eq_ok, bailIf_eq_ok, exists_const, pure_eq_ok, not_or,
    not_not] at h
  obtain ⟨fields, -, -, ⟨hid, hkey, hcert⟩, rfl⟩ := h
  rw [PeerAuth.Certified, hid, hkey, hcert]
  unfold PairedIdentityContext.identityForRole
  split
  · exact ⟨hinitiator, hinitiatorKey⟩
  · exact ⟨hresponder, hresponderKey⟩

end Peers

namespace PairingInitiator

/-- The calls of an initiator. -/
inductive Call where
  | start
  | receiveResponderHandshake (frame : Bytes)
  | receiveResponderAuth (frame : Bytes)
  | receiveResponderAck (frame : Bytes)

/-- The initiator that a call leaves behind, whether it succeeds or fails. -/
def after (p : Party PairingInitiator) : Call → Party PairingInitiator
  | .start => endState p (start p).visited
  | .receiveResponderHandshake frame => endState p (receiveResponderHandshake frame p).visited
  | .receiveResponderAuth frame => endState p (receiveResponderAuth frame p).visited
  | .receiveResponderAck frame => endState p (receiveResponderAck frame p).visited

/-- What a verified proof leaves behind. -/
structure Verified (x : PairingInitiator) (info : HandshakeInfo) (peer : PeerAuth)
    (transcript : Bytes) (acts : List Act) : Prop where
  certified : peer.Certified
  made : makeTranscript info.hash x.mode x.pairId x.certificate peer.certificate
    x.localStaticPublic info.remoteStatic = .ok transcript
  verified : SignatureVerified peer.publicKey (signedMessage transcript roleResponder) acts

/-- Transport, peer and transcript of an initiator belong to its one handshake. -/
inductive Bound (x : PairingInitiator) : Party PairingInitiator → Prop where
  | before (handshake acts)
      (hrun : ∀ h, handshake = some h → HandshakeRun true x.mode x.pairId x.localStaticPublic h) :
      Bound x ⟨{ x with handshake }, acts⟩
  | done (info transport transcript peer acts)
      (htransport : ∀ t, transport = some t →
        OneHandshake true x.mode x.pairId x.localStaticPublic info t)
      (hpeer : ∀ p, peer = some p → ∃ t, transcript = some t ∧ Verified x info p t acts) :
      Bound x ⟨{ x with
        handshake := none, handshakeInfo := some info, sentAuth := true, transport, transcript,
        peer }, acts⟩

variable {x : PairingInitiator} {p : Party PairingInitiator}

private theorem handshake_of_someOr {o : Option Noise.HandshakeState} {message : String}
    {h : Noise.HandshakeState} (heq : someOr message o = .ok h)
    (hrun : ∀ h, o = some h → HandshakeRun true x.mode x.pairId x.localStaticPublic h) :
    HandshakeRun true x.mode x.pairId x.localStaticPublic h :=
  hrun h ((someOr_eq_ok ..).mp heq)

private theorem start_bound (hp : Bound x p) :
    Keeps (Tells fun _ _ => True) start (Leaves (Bound x) fun _ _ => True) p := by
  cases hp with
  | before handshake acts hrun =>
      rw [start, keeps_self_bind]
      apply keeps_check (.before handshake acts hrun)
      intro h hh
      have hnext : ∀ h', some (Noise.writeHandshake h maxHandshakeFrame []).2 = some h' →
          HandshakeRun true x.mode x.pairId x.localStaticPublic h' :=
        fun _ heq => Option.some.inj heq ▸ (handshake_of_someOr hh hrun).written _ _
      rw [keeps_update_bind]
      apply keeps_check (.before _ acts hnext)
      intro message _
      rw [keeps_self_bind]
      exact keeps_result (.before _ acts hnext) fun _ _ => trivial
  | done info transport transcript peer acts htransport hpeer =>
      rw [start, keeps_self_bind]
      apply keeps_check (.done info transport transcript peer acts htransport hpeer)
      intro h hh
      cases hh

private theorem running {h : Noise.HandshakeState}
    (hrun : HandshakeRun true x.mode x.pairId x.localStaticPublic h) (acts : List Act) :
    Bound x ⟨{ x with handshake := some h }, acts⟩ :=
  .before _ acts fun _ heq => Option.some.inj heq ▸ hrun

private theorem entered (hnone : x.peer = none) {info : HandshakeInfo} {t : Noise.TransportState}
    (ht : OneHandshake true x.mode x.pairId x.localStaticPublic info t) (acts : List Act) :
    Bound x ⟨{ x with
      handshake := none, handshakeInfo := some info, transport := some t, sentAuth := true }, acts⟩ := by
  apply Bound.done info (some t) x.transcript x.peer acts
  · intro _ heq
    exact Option.some.inj heq ▸ ht
  · intro _ heq
    rw [hnone] at heq
    cases heq

private theorem receiveResponderHandshake_bound (hnone : x.peer = none) (hp : Bound x p)
    (frame : Bytes) :
    Keeps (Tells fun _ _ => True) (receiveResponderHandshake frame)
      (Leaves (Bound x) fun _ _ => True) p := by
  rw [receiveResponderHandshake]
  apply keeps_check hp
  intro decoded _
  apply keeps_check hp
  intro _ _
  rw [keeps_self_bind]
  apply keeps_check hp
  intro h hh
  cases hp with
  | done info transport transcript peer acts htransport hpeer => cases hh
  | before handshake acts hrun =>
      have hread := (handshake_of_someOr hh hrun).read maxHandshakeFrame decoded.2.2
      have hwrite := hread.written maxHandshakeFrame []
      rw [keeps_update_bind]
      apply keeps_check (running hread acts)
      intro _ _
      rw [keeps_update_bind]
      apply keeps_check (running hwrite acts)
      intro message3 _
      rw [keeps_update_bind]
      apply keeps_check (.before none acts fun _ heq => by cases heq)
      intro finished hfinish
      have hone := OneHandshake.entered hwrite hfinish
      rw [keeps_update_bind, keeps_act_bind]
      refine ⟨trivial, ?_⟩
      rw [keeps_self_bind]
      apply keeps_check (entered hnone hone _)
      intro hello _
      rw [keeps_update_bind]
      have hsealed := entered hnone (hone.encryptAuth roleInitiator 1 hello)
      apply keeps_check (hsealed _)
      intro authFrame _
      apply keeps_check (hsealed _)
      intro finish _
      rw [keeps_act_bind, keeps_pure]
      exact ⟨trivial, hsealed _, fun _ _ => trivial⟩

private theorem certified_of_parseAuthProof {s : PairingInitiator} {payload : Bytes}
    {peer : PeerAuth} (hmade : s.validation.Made) (h : parseAuthProof s payload = .ok peer) :
    peer.Certified := by
  unfold parseAuthProof at h
  split at h
  next => exact parseCurrentAuth_certified h
  next context heq =>
    rw [heq] at hmade
    exact parsePairedAuth_certified hmade h

private theorem receiveResponderAuth_bound (hfresh : x.transport = none) (hmade : x.validation.Made)
    (hp : Bound x p) (frame : Bytes) :
    Keeps (Tells fun _ _ => True) (receiveResponderAuth frame)
      (Leaves (Bound x) fun _ _ => True) p := by
  rw [receiveResponderAuth, keeps_self_bind]
  apply keeps_check hp
  intro _ _
  rw [keeps_self_bind]
  apply keeps_check hp
  intro t ht
  have htransport := (someOr_eq_ok ..).mp ht
  cases hp with
  | before handshake acts hrun =>
      rw [show x.transport = some t from htransport] at hfresh
      cases hfresh
  | done info transport transcript peer acts hbound hpeer =>
      have hopened := (hbound t htransport).decryptAuth frame roleResponder 2
      have hkeep : ∀ {t' acts'}, OneHandshake true x.mode x.pairId x.localStaticPublic info t' →
          acts <+: acts' → Bound x ⟨{ x with
            handshake := none, handshakeInfo := some info, sentAuth := true, transport := some t',
            transcript, peer }, acts'⟩ := by
        intro t' acts' ht' hacts
        apply Bound.done info (some t') transcript peer acts'
        · intro _ heq
          exact Option.some.inj heq ▸ ht'
        · intro p heq
          obtain ⟨out, hout, hverified⟩ := hpeer p heq
          exact ⟨out, hout, hverified.certified, hverified.made,
            hverified.verified.mono hacts.subset⟩
      rw [keeps_update_bind]
      apply keeps_check (hkeep hopened (List.prefix_refl _))
      intro payload _
      rw [keeps_act_bind]
      refine ⟨trivial, ?_⟩
      have hread := hkeep hopened (List.prefix_append acts [.read payload])
      rw [keeps_self_bind]
      apply keeps_check hread
      intro peer' hparse
      apply keeps_check hread
      intro _ _
      apply keeps_check hread
      intro _ _
      apply keeps_check hread
      intro transcript' htranscript
      apply keeps_check hread
      intro _ hverify
      have hstrict := verifiesStrictly_of_verifySignature hverify
      rw [keeps_act_bind]
      refine ⟨trivial, ?_⟩
      have hmadeTranscript : makeTranscript info.hash x.mode x.pairId x.certificate
          peer'.certificate x.localStaticPublic info.remoteStatic = .ok transcript' := by
        simp only [buildTranscript, bind_eq_ok, someOr_eq_ok, Option.some.injEq] at htranscript
        obtain ⟨_, rfl, htranscript⟩ := htranscript
        exact htranscript
      have hverified : ∀ {t' acts'}, OneHandshake true x.mode x.pairId x.localStaticPublic info t' →
          .verified peer'.publicKey (signedMessage transcript' roleResponder)
            (signatureBytes peer'.signature) ∈ acts' →
          Bound x ⟨{ x with
            handshake := none, handshakeInfo := some info, sentAuth := true, transport := some t',
            transcript := some transcript', peer := some peer' }, acts'⟩ := by
        intro t' acts' ht' hmem
        apply Bound.done info (some t') (some transcript') (some peer') acts'
        · intro _ heq
          exact Option.some.inj heq ▸ ht'
        · intro _ heq
          obtain rfl := Option.some.inj heq
          exact ⟨transcript', rfl, certified_of_parseAuthProof hmade hparse, hmadeTranscript,
            hstrict.signatureVerified hmem⟩
      rw [keeps_update_bind, keeps_act_bind]
      refine ⟨trivial, ?_⟩
      rw [keeps_update_bind]
      have hsealed := hopened.encryptAuth roleInitiator 3
        (signedAuthPayload x.identity transcript' roleInitiator)
      apply keeps_check (hverified hsealed (by simp))
      intro out _
      rw [keeps_act_bind, keeps_pure]
      exact ⟨trivial, hverified hsealed (by simp), fun _ _ => trivial⟩

/-- A session that the initiator concludes with, from its transcript at that time. -/
def Concludes (x : PairingInitiator) (p : Party PairingInitiator)
    (session : AuthenticatedPairingSession) : Prop :=
  ∃ transcript, p.self.transcript = some transcript ∧
    SingleHandshake true x.mode transcript session p.acts

private theorem receiveResponderAck_bound (hfresh : x.transport = none) (hp : Bound x p)
    (frame : Bytes) :
    Keeps (Tells fun _ _ => True) (receiveResponderAck frame)
      (Leaves (Bound x) fun session _ => Concludes x p session) p := by
  rw [receiveResponderAck, keeps_self_bind]
  apply keeps_check hp
  intro t ht
  have htransport := (someOr_eq_ok ..).mp ht
  cases hp with
  | before handshake acts hrun =>
      rw [show x.transport = some t from htransport] at hfresh
      cases hfresh
  | done info transport transcript peer acts hbound hpeer =>
      have hopened := (hbound t htransport).decryptAuth frame roleResponder 4
      have hkeep : ∀ {t' : Option Noise.TransportState} {peer' : Option PeerAuth} {acts'},
          (t' = none ∨ t' = some (decryptAuth t frame roleResponder 4).2) →
          (peer' = none ∨ peer' = peer) → acts <+: acts' → Bound x ⟨{ x with
            handshake := none, handshakeInfo := some info, sentAuth := true, transport := t',
            transcript, peer := peer' }, acts'⟩ := by
        intro t' peer' acts' ht' hpeer' hacts
        apply Bound.done info t' transcript peer' acts'
        · intro _ heq
          rcases ht' with rfl | rfl
          · cases heq
          · exact Option.some.inj heq ▸ hopened
        · intro p heq
          rcases hpeer' with rfl | rfl
          · cases heq
          · obtain ⟨out, hout, hverified⟩ := hpeer p heq
            exact ⟨out, hout, hverified.certified, hverified.made,
              hverified.verified.mono hacts.subset⟩
      rw [keeps_update_bind]
      apply keeps_check (hkeep (.inr rfl) (.inr rfl) (List.prefix_refl _))
      intro payload _
      rw [keeps_act_bind]
      refine ⟨trivial, ?_⟩
      have hread := List.prefix_append acts [.read payload]
      apply keeps_check (hkeep (.inr rfl) (.inr rfl) hread)
      intro _ _
      rw [keeps_self_bind]
      apply keeps_check (hkeep (.inr rfl) (.inr rfl) hread)
      intro peer' hpeer'
      rw [keeps_update_bind]
      apply keeps_check (hkeep (.inr rfl) (.inl rfl) hread)
      intro out hout
      rw [keeps_update_bind, keeps_act_bind, keeps_pure]
      refine ⟨trivial, hkeep (.inl rfl) (.inl rfl) (hread.trans (List.prefix_append ..)), ?_⟩
      intro session hsession
      obtain rfl := Except.ok.inj hsession
      obtain ⟨transcript', htranscript', hverified⟩ := hpeer peer' ((someOr_eq_ok ..).mp hpeer')
      obtain rfl : transcript' = out :=
        Option.some.inj (htranscript'.symm.trans ((someOr_eq_ok ..).mp hout))
      exact ⟨transcript', htranscript', rfl, ⟨x.localStaticPublic, info, hopened, hverified.made⟩,
        hverified.verified, hverified.certified⟩

private theorem after_bound (hfresh : x.transport = none ∧ x.peer = none)
    (hmade : x.validation.Made)
    (hp : Bound x p) (call : Call) : Bound x (after p call) := by
  cases call with
  | start => exact (start_bound hp).2.1
  | receiveResponderHandshake frame =>
      exact (receiveResponderHandshake_bound hfresh.2 hp frame).2.1
  | receiveResponderAuth frame => exact (receiveResponderAuth_bound hfresh.1 hmade hp frame).2.1
  | receiveResponderAck frame => exact (receiveResponderAck_bound hfresh.1 hp frame).2.1

def afterAll (p : Party PairingInitiator) (calls : List Call) : Party PairingInitiator :=
  calls.foldl after p

private theorem afterAll_bound (hfresh : x.transport = none ∧ x.peer = none)
    (hmade : x.validation.Made)
    (hp : Bound x p) (calls : List Call) : Bound x (afterAll p calls) := by
  induction calls generalizing p with
  | nil => exact hp
  | cons call calls ih => exact ih (after_bound hfresh hmade hp call)

end PairingInitiator

namespace PairingResponder

/-- The calls of a responder. -/
inductive Call where
  | receiveInitiatorStart (entropy : Noise.Entropy) (frame : Bytes)
  | receiveInitiatorFinish (handshakeFrame authFrame : Bytes)
  | receiveInitiatorAuth (frame : Bytes)

/-- The responder that a call leaves behind, whether it succeeds or fails. -/
def after (p : Party PairingResponder) : Call → Party PairingResponder
  | .receiveInitiatorStart entropy frame =>
      endState p (receiveInitiatorStart entropy frame p).visited
  | .receiveInitiatorFinish handshakeFrame authFrame =>
      endState p (receiveInitiatorFinish handshakeFrame authFrame p).visited
  | .receiveInitiatorAuth frame => endState p (receiveInitiatorAuth frame p).visited

/-- The transport that message 3 completes. -/
def completion (s : PairingResponder) (handshakeFrame : Bytes) :
    Result (Noise.TransportState × HandshakeInfo) := do
  let (kind, role, message) ← decodeFrame handshakeFrame maxHandshakeFrame
  bailIf (kind ≠ kindHandshake ∨ role ≠ roleInitiator)
    "unexpected initiator handshake completion frame"
  let handshake ← someOr "pairing already advanced" s.handshake
  let read := Noise.readHandshake handshake maxHandshakeFrame message
  let _ ← labelled "read Noise initiator message 3: " read.1
  finishHandshake read.2

/-- The hello passes every check under that transport. -/
def AcceptsHello (s : PairingResponder) (t : Noise.TransportState) (info : HandshakeInfo)
    (authFrame : Bytes) : Prop :=
  ∃ hello peer, (decryptAuth t authFrame roleInitiator 1).1 = .ok hello ∧
    parseAuthHello s hello = .ok peer ∧
    (∃ transcript, buildTranscript { s with handshakeInfo := some info } peer = .ok transcript) ∧
    peer.deviceId ≠ s.certificate.deviceId ∧ peer.deviceId = s.expectedPeerDeviceId

/-- A responder that has sent its proof completes no other handshake with a hello it rejects. -/
def Call.Settles (s : PairingResponder) : Call → Prop
  | .receiveInitiatorFinish handshakeFrame authFrame => s.sentAuth = true →
      ∀ t info, completion s handshakeFrame = .ok (t, info) → AcceptsHello s t info authFrame
  | _ => True

/-- The proof that a responder sent and its transport belong to one handshake. -/
structure Proved (x : PairingResponder) (s : PairingResponder) (peer : PeerAuth)
    (transcript : Bytes) : Prop where
  presented : s.peer = some peer
  digested : s.transcript = some transcript
  certified : peer.Certified
  made : ∃ pairId static info, s.pairId = some pairId ∧
    makeTranscript info.hash x.mode pairId peer.certificate x.certificate info.remoteStatic static =
      .ok transcript ∧
    ∀ t, s.transport = some t → OneHandshake false x.mode pairId static info t

/-- What every call of a responder preserves. -/
structure Bound (x : PairingResponder) (p : Party PairingResponder) : Prop where
  own : p.self.certificate = x.certificate ∧ p.self.validation = x.validation
  running : ∀ h, p.self.handshake = some h → ∃ pairId, p.self.pairId = some pairId ∧
    HandshakeRun false x.mode pairId p.self.localStaticPublic h
  proved : p.self.sentAuth = true → ∃ peer transcript, Proved x p.self peer transcript

variable {x : PairingResponder} {p : Party PairingResponder}

private theorem Proved.of_eq {s s' : PairingResponder} {peer : PeerAuth} {transcript : Bytes}
    (h : Proved x s peer transcript) (hpeer : s'.peer = s.peer)
    (htranscript : s'.transcript = s.transcript)
    (hpair : ∀ pairId, s.pairId = some pairId → s'.pairId = some pairId)
    (htransport : ∀ pairId static info, (∀ t, s.transport = some t →
        OneHandshake false x.mode pairId static info t) →
      ∀ t, s'.transport = some t → OneHandshake false x.mode pairId static info t) :
    Proved x s' peer transcript := by
  obtain ⟨pairId, static, info, hid, hmade, ht⟩ := h.made
  exact ⟨hpeer.trans h.presented, htranscript.trans h.digested, h.certified, pairId, static, info,
    hpair pairId hid, hmade, htransport pairId static info ht⟩

private theorem receiveInitiatorStart_bound (hp : Bound x p) (entropy : Noise.Entropy)
    (frame : Bytes) :
    Keeps (Tells fun _ _ => True) (receiveInitiatorStart entropy frame)
      (Leaves (Bound x) fun _ _ => True) p := by
  rw [receiveInitiatorStart]
  apply keeps_check hp
  intro start _
  rw [keeps_self_bind]
  apply keeps_check hp
  intro _ hmode
  apply keeps_check hp
  intro _ hguard
  have hpair : ∀ pairId, p.self.pairId = some pairId → some start.2.1 = some pairId := by
    intro pairId hid
    have hsame : ¬(p.self.pairId ≠ none ∧ p.self.pairId ≠ some start.2.1) :=
      (bailIf_eq_ok ..).mp hguard
    rw [hid] at hsame
    by_contra hne
    exact hsame ⟨by simp, fun heq => hne heq.symm⟩
  have hproved : ∀ s' : PairingResponder, s'.peer = p.self.peer →
      s'.transcript = p.self.transcript → s'.transport = p.self.transport →
      s'.pairId = some start.2.1 → s'.sentAuth = p.self.sentAuth → s'.sentAuth = true →
      ∃ peer transcript, Proved x s' peer transcript := by
    intro s' hpeer htranscript htransport hid hsent hs'
    obtain ⟨peer, transcript, hold⟩ := hp.proved (hsent.symm.trans hs')
    refine ⟨peer, transcript, hold.of_eq hpeer htranscript ?_ ?_⟩
    · intro pairId h
      exact hid.trans (hpair pairId h)
    · intro _ _ _ h t ht
      exact h t (htransport.symm.trans ht)
  rw [keeps_update_bind]
  have hnamed : Bound x ⟨{ p.self with pairId := some start.2.1 }, p.acts⟩ := by
    refine ⟨hp.own, ?_, fun hs => hproved _ rfl rfl rfl rfl rfl hs⟩
    intro h hh
    obtain ⟨pairId, hid, hrun⟩ := hp.running h hh
    exact ⟨pairId, hpair pairId hid, hrun⟩
  apply keeps_check hnamed
  intro built hbuilt
  have hmodeEq : start.1 = x.mode := by
    have hsame := (bailIf_eq_ok ..).mp hmode
    rw [not_not] at hsame
    rw [hsame, Pairing.mode, Pairing.mode, hp.own.2]
  have hrunning : ∀ {h}, HandshakeRun false x.mode start.2.1 built.2 h →
      Bound x ⟨{ p.self with
        pairId := some start.2.1, localStaticPublic := built.2, handshake := some h }, p.acts⟩ := by
    intro h hrun
    refine ⟨hp.own, ?_, fun hs => hproved _ rfl rfl rfl rfl rfl hs⟩
    intro _ heq
    exact ⟨start.2.1, rfl, Option.some.inj heq ▸ hrun⟩
  have hbuild : HandshakeRun false x.mode start.2.1 built.2 built.1 := by
    rw [← hmodeEq]
    exact .built hbuilt
  have hread := hbuild.read maxHandshakeFrame start.2.2
  have hwritten := hread.written maxHandshakeFrame []
  rw [keeps_update_bind]
  apply keeps_check (hrunning hread)
  intro _ _
  rw [keeps_update_bind]
  apply keeps_check (hrunning hwritten)
  intro message2 _
  exact keeps_result (hrunning hwritten) fun _ _ => trivial

private theorem certified_of_parseAuthHello {s : PairingResponder} {payload : Bytes}
    {peer : PeerAuth} (hmade : s.validation.Made) (h : parseAuthHello s payload = .ok peer) :
    peer.Certified := by
  unfold parseAuthHello at h
  split at h
  next => exact parseCurrentAuth_certified h
  next context heq =>
    rw [heq] at hmade
    exact parsePairedAuth_certified hmade h

private theorem receiveInitiatorFinish_bound (hmade : x.validation.Made) (hp : Bound x p)
    (handshakeFrame authFrame : Bytes)
    (hsettles : (Call.receiveInitiatorFinish handshakeFrame authFrame).Settles p.self) :
    Keeps (Tells fun _ _ => True) (receiveInitiatorFinish handshakeFrame authFrame)
      (Leaves (Bound x) fun _ _ => True) p := by
  rw [receiveInitiatorFinish]
  apply keeps_check hp
  intro decoded hdecode
  apply keeps_check hp
  intro _ hkind
  rw [keeps_self_bind]
  apply keeps_check hp
  intro h hh
  obtain ⟨pairId, hid, hrun⟩ := hp.running h ((someOr_eq_ok ..).mp hh)
  have hread := hrun.read maxHandshakeFrame decoded.2.2
  have hproved : ∀ handshake, p.self.sentAuth = true → ∃ peer transcript,
      Proved x { p.self with handshake } peer transcript := by
    intro handshake hsent
    obtain ⟨peer, transcript, hold⟩ := hp.proved hsent
    exact ⟨peer, transcript, hold.of_eq rfl rfl (fun _ h => h) fun _ _ _ h => h⟩
  rw [keeps_update_bind]
  apply keeps_check
    ⟨hp.own, fun _ heq => ⟨pairId, hid, Option.some.inj heq ▸ hread⟩, hproved _⟩
  intro _ hmessage
  rw [keeps_update_bind]
  apply keeps_check ⟨hp.own, (fun _ heq => by cases heq), hproved _⟩
  intro finished hfinish
  have hcompletes : completion p.self handshakeFrame = .ok finished := by
    simp only [completion, hdecode, ok_bind, hkind, hh, hmessage]
    exact hfinish
  have hone := (OneHandshake.entered hread hfinish).decryptAuth authFrame roleInitiator 1
  rw [keeps_act_bind]
  refine ⟨trivial, ?_⟩
  rw [keeps_update_bind]
  -- until the checks are through, the transport is ahead of the proof
  have hrejected : ∀ acts, ¬AcceptsHello p.self finished.1 finished.2 authFrame →
      Bound x ⟨{ p.self with
        handshake := none, handshakeInfo := some finished.2,
        transport := some (decryptAuth finished.1 authFrame roleInitiator 1).2 }, acts⟩ := by
    intro acts hnot
    refine ⟨hp.own, (fun _ heq => by cases heq), ?_⟩
    intro hsent
    exact absurd (hsettles hsent _ _ hcompletes) hnot
  apply keeps_check_of
  · intro e he
    apply hrejected
    rintro ⟨_, _, hok, _⟩
    exact not_ok_of_error he hok
  intro hello hhello
  rw [keeps_act_bind]
  refine ⟨trivial, ?_⟩
  rw [keeps_self_bind]
  apply keeps_check_of
  · intro e he
    apply hrejected
    rintro ⟨_, _, hok, hparse, _⟩
    obtain rfl := Except.ok.inj (hhello.symm.trans hok)
    exact not_ok_of_error he hparse
  intro peer hpeer
  apply keeps_check_of
  · intro e he
    apply hrejected
    rintro ⟨_, _, hok, hparse, ⟨_, htranscript⟩, _⟩
    obtain rfl := Except.ok.inj (hhello.symm.trans hok)
    obtain rfl := Except.ok.inj (hpeer.symm.trans hparse)
    exact not_ok_of_error he htranscript
  intro transcript htranscript
  apply keeps_check_of
  · intro e he
    apply hrejected
    rintro ⟨_, _, hok, hparse, _, hreflection, _⟩
    obtain rfl := Except.ok.inj (hhello.symm.trans hok)
    obtain rfl := Except.ok.inj (hpeer.symm.trans hparse)
    exact not_ok_of_error he ((bailIf_eq_ok _ _ ()).mpr hreflection)
  intro _ hreflection
  apply keeps_check_of
  · intro e he
    apply hrejected
    rintro ⟨_, _, hok, hparse, _, _, hexpected⟩
    obtain rfl := Except.ok.inj (hhello.symm.trans hok)
    obtain rfl := Except.ok.inj (hpeer.symm.trans hparse)
    exact not_ok_of_error he ((bailIf_eq_ok _ _ ()).mpr (not_not.mpr hexpected))
  intro _ hexpected
  have hmodeEq : p.self.mode = x.mode := by rw [Pairing.mode, Pairing.mode, hp.own.2]
  have hbuilt : makeTranscript finished.2.hash x.mode pairId peer.certificate x.certificate
      finished.2.remoteStatic p.self.localStaticPublic = .ok transcript := by
    simp only [buildTranscript, bind_eq_ok, someOr_eq_ok, Option.some.injEq] at htranscript
    obtain ⟨_, rfl, _, hpair, htranscript⟩ := htranscript
    obtain rfl := Option.some.inj (hid.symm.trans hpair)
    rw [← hmodeEq, ← hp.own.1]
    exact htranscript
  rw [keeps_update_bind]
  apply keeps_check_of
  · -- the certificate was encoded for the transcript already
    intro e he
    obtain ⟨_, _, -, hcert, -⟩ := (makeTranscript_eq_ok ..).mp hbuilt
    have hproof := (authProof_eq_ok p.self.certificate p.self.identity transcript roleResponder
      _).mpr ⟨_, by rw [hp.own.1]; exact hcert, rfl⟩
    exact (not_ok_of_error he hproof).elim
  intro proof _
  rw [keeps_act_bind]
  refine ⟨trivial, ?_⟩
  rw [keeps_update_bind]
  have hdone : ∀ acts, Bound x ⟨{ p.self with
      handshake := none, handshakeInfo := some finished.2, peer := some peer, sentAuth := true,
      transcript := some transcript, transport := some (encryptAuth
        (decryptAuth finished.1 authFrame roleInitiator 1).2 roleResponder 2 proof).2 }, acts⟩ := by
    intro acts
    refine ⟨hp.own, (fun _ heq => by cases heq), ?_⟩
    intro _
    have hvalidation : p.self.validation.Made := hp.own.2 ▸ hmade
    refine ⟨peer, transcript, rfl, rfl, certified_of_parseAuthHello hvalidation hpeer, pairId,
      p.self.localStaticPublic, finished.2, hid, hbuilt, ?_⟩
    intro t ht
    obtain rfl := Option.some.inj ht
    exact hone.encryptAuth roleResponder 2 proof
  apply keeps_check (hdone _)
  intro out _
  rw [keeps_act_bind, keeps_pure]
  exact ⟨trivial, hdone _, fun _ _ => trivial⟩

/-- A session that the responder concludes with, from its transcript at that time. -/
def Concludes (x : PairingResponder) (p q : Party PairingResponder)
    (session : AuthenticatedPairingSession) : Prop :=
  ∃ transcript, p.self.transcript = some transcript ∧
    SingleHandshake false x.mode transcript session q.acts

private theorem receiveInitiatorAuth_bound (hp : Bound x p) (frame : Bytes) :
    Keeps (Tells fun _ _ => True) (receiveInitiatorAuth frame)
      (Leaves (Bound x) fun out q => Concludes x p q out.2) p := by
  rw [receiveInitiatorAuth, keeps_self_bind]
  apply keeps_check hp
  intro _ hsent
  have hsent' : p.self.sentAuth = true := by
    have hnot := (bailIf_eq_ok ..).mp hsent
    simpa using hnot
  obtain ⟨peer, transcript, hproved⟩ := hp.proved hsent'
  obtain ⟨pairId, static, info, hid, hmade, htransport⟩ := hproved.made
  rw [keeps_self_bind]
  apply keeps_check hp
  intro t ht
  have hopened := (htransport t ((someOr_eq_ok ..).mp ht)).decryptAuth frame roleInitiator 3
  have hkeep : ∀ (t' : Option Noise.TransportState) acts,
      (∀ u, t' = some u → OneHandshake false x.mode pairId static info u) →
      Bound x ⟨{ p.self with transport := t' }, acts⟩ := by
    intro t' acts ht'
    exact ⟨hp.own, hp.running, fun _ => ⟨peer, transcript, hproved.presented, hproved.digested,
      hproved.certified, pairId, static, info, hid, hmade, ht'⟩⟩
  have hread := fun acts => hkeep (some (decryptAuth t frame roleInitiator 3).2) acts
    fun _ heq => Option.some.inj heq ▸ hopened
  rw [keeps_update_bind]
  apply keeps_check (hread _)
  intro payload _
  rw [keeps_act_bind]
  refine ⟨trivial, ?_⟩
  rw [keeps_self_bind]
  apply keeps_check (hread _)
  intro peer' hpeer'
  apply keeps_check (hread _)
  intro transcript' htranscript'
  obtain rfl : peer = peer' :=
    Option.some.inj (hproved.presented.symm.trans ((someOr_eq_ok ..).mp hpeer'))
  obtain rfl : transcript = transcript' :=
    Option.some.inj (hproved.digested.symm.trans ((someOr_eq_ok ..).mp htranscript'))
  apply keeps_check (hread _)
  intro _ hverify
  have hstrict := verifiesStrictly_of_verifySignaturePayload hverify
  rw [keeps_act_bind]
  refine ⟨trivial, ?_⟩
  rw [keeps_update_bind]
  have hsealed := hopened.encryptAuth roleResponder 4 ackMagic
  have hsent := fun acts => hkeep (some _) acts fun _ heq => Option.some.inj heq ▸ hsealed
  apply keeps_check (hsent _)
  intro ack _
  apply keeps_check (hsent _)
  intro pairId' hid'
  obtain rfl : pairId = pairId' := Option.some.inj (hid.symm.trans ((someOr_eq_ok ..).mp hid'))
  rw [keeps_update_bind, keeps_act_bind]
  refine ⟨trivial, ?_⟩
  rw [keeps_act_bind, keeps_pure]
  refine ⟨trivial, hkeep none _ (fun _ heq => by cases heq), ?_⟩
  intro out hout
  obtain rfl := Except.ok.inj hout
  refine ⟨transcript, hproved.digested, rfl, ⟨static, info, hsealed, ?_⟩,
    hstrict.signatureVerified (by simp), hproved.certified⟩
  rw [sessionTranscript, if_neg (by decide), hp.own.1]
  exact hmade

private theorem after_bound (hmade : x.validation.Made) (hp : Bound x p) {call : Call}
    (hsettles : call.Settles p.self) : Bound x (after p call) := by
  cases call with
  | receiveInitiatorStart entropy frame => exact (receiveInitiatorStart_bound hp entropy frame).2.1
  | receiveInitiatorFinish handshakeFrame authFrame =>
      exact (receiveInitiatorFinish_bound hmade hp handshakeFrame authFrame hsettles).2.1
  | receiveInitiatorAuth frame => exact (receiveInitiatorAuth_bound hp frame).2.1

end PairingResponder

/-- An initiator as its constructors return it. -/
inductive PairingInitiator.Constructed (x : PairingInitiator) : Prop where
  | new {identity certificate expectedPeerDeviceId root now random entropy}
      (h : PairingInitiator.new identity certificate expectedPeerDeviceId root now random entropy =
        .ok x)
  | newReconnect {identity context entropy} (hmade : (PeerValidation.paired context).Made)
      (h : PairingInitiator.newReconnect identity context entropy = .ok x)

/-- A responder as its constructors return it. -/
inductive PairingResponder.Constructed (x : PairingResponder) : Prop where
  | new {identity certificate expectedPeerDeviceId root now}
      (h : PairingResponder.new identity certificate expectedPeerDeviceId root now = .ok x)
  | newReconnect {identity context} (hmade : (PeerValidation.paired context).Made)
      (h : PairingResponder.newReconnect identity context = .ok x)

private theorem PairingInitiator.Constructed.bound {x : PairingInitiator} (h : x.Constructed) :
    (x.transport = none ∧ x.peer = none) ∧ x.validation.Made ∧ Bound x ⟨x, []⟩ := by
  cases h with
  | new h =>
      simp only [PairingInitiator.new, bind_eq_ok, pure_eq_ok] at h
      obtain ⟨_, -, _, -, pairId, -, ⟨handshake, static⟩, hbuild, rfl⟩ := h
      refine ⟨⟨rfl, rfl⟩, trivial, .before (some handshake) [] ?_⟩
      intro _ heq
      exact Option.some.inj heq ▸ .built hbuild
  | newReconnect hmade h =>
      simp only [PairingInitiator.newReconnect, bind_eq_ok, pure_eq_ok] at h
      obtain ⟨role, -, _, -, ⟨handshake, static⟩, hbuild, rfl⟩ := h
      refine ⟨⟨rfl, rfl⟩, hmade, .before (some handshake) [] ?_⟩
      intro _ heq
      exact Option.some.inj heq ▸ .built hbuild

private theorem PairingResponder.Constructed.bound {x : PairingResponder} (h : x.Constructed) :
    x.validation.Made ∧ Bound x ⟨x, []⟩ := by
  cases h with
  | new h =>
      simp only [PairingResponder.new, bind_eq_ok, pure_eq_ok] at h
      obtain ⟨_, -, _, -, rfl⟩ := h
      exact ⟨trivial, ⟨rfl, rfl⟩, (fun _ heq => by cases heq), (fun heq => by cases heq)⟩
  | newReconnect hmade h =>
      simp only [PairingResponder.newReconnect, bind_eq_ok, pure_eq_ok] at h
      obtain ⟨role, -, _, -, rfl⟩ := h
      exact ⟨hmade, ⟨rfl, rfl⟩, (fun _ heq => by cases heq), (fun heq => by cases heq)⟩

namespace PairingResponder

def afterAll (p : Party PairingResponder) (calls : List Call) : Party PairingResponder :=
  calls.foldl after p

private theorem afterAll_concat (p : Party PairingResponder) (calls : List Call) (call : Call) :
    afterAll p (calls ++ [call]) = after (afterAll p calls) call :=
  List.foldl_concat ..

/-- Every call of the sequence settles the responder it is made on. -/
def Settled : Party PairingResponder → List Call → Prop
  | _, [] => True
  | p, call :: calls => call.Settles p.self ∧ Settled (after p call) calls

private theorem Settled.bound {x : PairingResponder} (hmade : x.validation.Made) {calls : List Call}
    {p : Party PairingResponder} (hp : Bound x p) (h : Settled p calls) :
    Bound x (afterAll p calls) := by
  induction calls generalizing p with
  | nil => exact hp
  | cons call calls ih => exact ih (after_bound hmade hp h.1) h.2

end PairingResponder

/-- Whatever was called before, an initiator's session is of one handshake; a responder's is if
no restarted handshake was completed with a rejected hello once the proof had been sent. -/
theorem session_of_one_handshake :
    (∀ x : PairingInitiator, x.Constructed → ∀ calls frame session,
      (PairingInitiator.receiveResponderAck frame
        (PairingInitiator.afterAll ⟨x, []⟩ calls)).result = .ok session →
      PairingInitiator.Concludes x (PairingInitiator.afterAll ⟨x, []⟩ calls) session) ∧
    (∀ x : PairingResponder, x.Constructed → ∀ calls, PairingResponder.Settled ⟨x, []⟩ calls →
      ∀ frame ack session,
      (PairingResponder.receiveInitiatorAuth frame
        (PairingResponder.afterAll ⟨x, []⟩ calls)).result = .ok (ack, session) →
      PairingResponder.Concludes x (PairingResponder.afterAll ⟨x, []⟩ calls)
        (PairingResponder.afterAll ⟨x, []⟩ (calls ++ [.receiveInitiatorAuth frame])) session) := by
  constructor
  · intro x hx calls frame session hsession
    obtain ⟨hfresh, hmade, hstart⟩ := hx.bound
    have hbound := PairingInitiator.afterAll_bound hfresh hmade hstart calls
    exact (PairingInitiator.receiveResponderAck_bound hfresh.1 hbound frame).2.2 session hsession
  · intro x hx calls hsettled frame ack session hsession
    obtain ⟨hmade, hstart⟩ := hx.bound
    have hbound := hsettled.bound hmade hstart
    have hconcludes :=
      (PairingResponder.receiveInitiatorAuth_bound hbound frame).2.2 (ack, session) hsession
    rw [PairingResponder.afterAll_concat]
    exact hconcludes

end Ends

namespace Loopback

attribute [local instance] crypto noise

private theorem incoming_of_transportRun {h : Handshake} {t : Transport}
    (ht : @TransportRun noise h t) :
    t.incoming = (if h.initiator then 2 else 1) :: (hash h).toList := by
  induction ht with
  | entered henter =>
      change intoTransportMode h = _ at henter
      unfold intoTransportMode at henter
      split at henter
      · exact Except.ok.inj henter ▸ rfl
      · cases henter
  | @written t capacity payload _ ih =>
      change (writeMessage t capacity payload).2.incoming = _
      unfold writeMessage
      split
      · exact ih
      · exact ih
  | @read t capacity received _ ih =>
      change (readMessage t capacity received).2.incoming = _
      unfold readMessage
      dsimp only
      split
      · exact ih
      · exact ih

private theorem hash_of_finishHandshake {h : Handshake} {t : Transport} {info : HandshakeInfo}
    (hfinish : @finishHandshake noise h = .ok (t, info)) : info.hash = hash h := by
  simp only [finishHandshake, bind_eq_ok, bailIf_eq_ok, exists_const, labelled_eq_ok,
    pure_eq_ok, Prod.mk.injEq, exactly_eq_ok] at hfinish
  obtain ⟨-, _, -, _, -, out, hout, _, -, -, rfl⟩ := hfinish
  exact (List.Vector.toList_injective hout).symm

/-- The handshake between a second pair of ephemeral keys. -/
def restartedHash : Array8 32 :=
  digest (transcriptMagic ++ modeFirstContact :: (pairIdOf 7).bytes ++
    ((keyOf 13).toList ++ (keyOf 14).toList))

def startOf (static : UInt8) : Bytes :=
  handshakeFrame roleInitiator (modeFirstContact :: ((pairIdOf 7).bytes ++ message (keyOf static) 0))

/-- A whole exchange up to the proof, and a second one that breaks off at the hello. -/
def restartedCalls : List PairingResponder.Call :=
  [.receiveInitiatorStart (keyOf 12) (startOf 11),
    .receiveInitiatorFinish (handshakeFrame roleInitiator (message (keyOf 11) 2))
      (authFrame roleInitiator 1 initiatorKey 0 helloOf),
    .receiveInitiatorStart (keyOf 14) (startOf 13),
    .receiveInitiatorFinish (handshakeFrame roleInitiator (message (keyOf 13) 2)) []]

/-- The signature on the first transcript over the second transport. -/
def crossedFrame : Bytes :=
  authFrame roleInitiator 3 (1 :: restartedHash.toList) 0 (signatureOf 1 roleInitiator).toList

theorem pairingResponder_constructed : pairingResponder.Constructed := by
  have hlocal : validateLocal (identity 2) (certificate (keyOf 2)) root 100 = .ok () := by
    decide +kernel
  have hexpected : validateExpectedPeer (deviceIdOf 1) (certificate (keyOf 2)).deviceId = .ok () := by
    decide +kernel
  apply @PairingResponder.Constructed.new crypto noise pairingResponder (identity 2)
    (certificate (keyOf 2)) (deviceIdOf 1) root 100
  simp only [PairingResponder.new, hlocal, hexpected, ok_bind]
  rfl

/-- The responder returns a session whose transport comes from the second handshake while its
binding and its peer come from the first. -/
theorem session_of_two_handshakes :
    ¬∀ x : PairingResponder, x.Constructed → ∀ calls frame ack session,
      (PairingResponder.receiveInitiatorAuth frame
        (PairingResponder.afterAll ⟨x, []⟩ calls)).result = .ok (ack, session) →
      PairingResponder.Concludes x (PairingResponder.afterAll ⟨x, []⟩ calls)
        (PairingResponder.afterAll ⟨x, []⟩ (calls ++ [.receiveInitiatorAuth frame])) session := by
  intro hclaim
  have hresult : ((PairingResponder.receiveInitiatorAuth crossedFrame
      (PairingResponder.afterAll ⟨pairingResponder, []⟩ restartedCalls)).result.map
      fun out => out.2.transport.incoming) = .ok (1 :: restartedHash.toList) := by
    decide +kernel
  have hstored : (PairingResponder.afterAll ⟨pairingResponder, []⟩ restartedCalls).self.transcript =
      some transcriptOf := by
    decide +kernel
  have hmade : makeTranscript handshakeHash modeFirstContact (pairIdOf 7) (certificate (keyOf 1))
      (certificate (keyOf 2)) (keyOf 11) (keyOf 12) = .ok transcriptOf := by
    decide +kernel
  cases hout : (PairingResponder.receiveInitiatorAuth crossedFrame
    (PairingResponder.afterAll ⟨pairingResponder, []⟩ restartedCalls)).result with
  | error e =>
      rw [hout] at hresult
      cases hresult
  | ok out =>
      rw [hout] at hresult
      obtain ⟨transcript, htranscript, hsingle⟩ :=
        hclaim pairingResponder pairingResponder_constructed restartedCalls crossedFrame out.1 out.2
          hout
      rw [hstored, Option.some.injEq] at htranscript
      rw [htranscript] at hmade
      obtain ⟨static, info, hone, hsession⟩ := hsingle.handshake
      obtain ⟨h, t, -, hfinish, hrun⟩ := hone.origin
      rw [sessionTranscript, if_neg (by decide)] at hsession
      have hhash : info.hash = handshakeHash := (makeTranscript_inj hsession hmade).1.1
      have hincoming := incoming_of_transportRun hrun
      have hactual : out.2.transport.incoming = 1 :: restartedHash.toList := Except.ok.inj hresult
      rw [← hash_of_finishHandshake hfinish, hhash, hactual] at hincoming
      exact absurd (List.cons.inj hincoming).2 (by decide +kernel)

/-- The exchange up to the proof. -/
def provedCalls : List PairingResponder.Call :=
  [.receiveInitiatorStart (keyOf 12) (startOf 11),
    .receiveInitiatorFinish (handshakeFrame roleInitiator (message (keyOf 11) 2))
      (authFrame roleInitiator 1 initiatorKey 0 helloOf)]

def signatureFrame : Bytes :=
  authFrame roleInitiator 3 initiatorKey 1 (signatureOf 1 roleInitiator).toList

theorem session_of_one_handshake_proved :
    ∃ ack session, (PairingResponder.receiveInitiatorAuth signatureFrame
        (PairingResponder.afterAll ⟨pairingResponder, []⟩ provedCalls)).result =
          .ok (ack, session) ∧
      PairingResponder.Concludes pairingResponder
        (PairingResponder.afterAll ⟨pairingResponder, []⟩ provedCalls)
        (PairingResponder.afterAll ⟨pairingResponder, []⟩
          (provedCalls ++ [.receiveInitiatorAuth signatureFrame])) session := by
  have hok : (PairingResponder.receiveInitiatorAuth signatureFrame
      (PairingResponder.afterAll ⟨pairingResponder, []⟩ provedCalls)).result.isOk = true := by
    decide +kernel
  obtain ⟨out, hout⟩ := (isOk_iff _).mp hok
  have hunsent : (PairingResponder.after ⟨pairingResponder, []⟩
      (.receiveInitiatorStart (keyOf 12) (startOf 11))).self.sentAuth = false := by
    decide +kernel
  have hsettled : PairingResponder.Settled ⟨pairingResponder, []⟩ provedCalls := by
    refine ⟨trivial, ?_, trivial⟩
    intro hsent
    rw [hunsent] at hsent
    cases hsent
  exact ⟨out.1, out.2, hout, session_of_one_handshake.2 pairingResponder
    pairingResponder_constructed provedCalls hsettled signatureFrame out.1 out.2 hout⟩

end Loopback

end OmarchySync
