import OmarchySync.Pairing.World
import OmarchySync.Trust.Binding

/-!
# Mutual authentication

Ideal signatures and an ideal handshake are conditions on the log: a signature that verifies
under an honest key was made before by its holder, and what one end of a completed handshake
reads was sent before by its other end. Under them every session that concludes with an honest
peer is matched by an end of that peer.
-/

namespace OmarchySync

open Logic Wire Traced PairingM

section Ends

variable [Crypto] [Noise]

/-- A context that the trust store hands out for a validated record. -/
inductive PairedIdentityContext.FromStore [Serde] (context : PairedIdentityContext) : Prop where
  | pending {store : PairingStore} {record : PairingRecord} {identity : DeviceIdentity}
      (h : store.contextFromRecord record identity = .ok context)
  | active {store : PairingStore} {host : Host} {identity : DeviceIdentity} {pairId : Text}
      (h : store.reconnectContext host identity pairId = .ok context)

omit [Noise] in
private theorem PairedIdentityContext.FromStore.sound [Serde] {context : PairedIdentityContext}
    (h : context.FromStore) : context.Sound := by
  cases h with
  | pending h => exact sound_of_contextFromRecord h
  | active h => exact sound_of_reconnectContext h

/-- An end that authenticates with its own certificate and validates peers soundly. -/
structure Pairing.Genuine {Id : Type} (x : Pairing Id) : Prop where
  certificate : x.certificate.Names x.identity.deviceId x.identity.publicKey
  validation : x.validation.Sound

omit [Noise] in
private theorem names_of_validateLocal {identity : DeviceIdentity}
    {certificate : DeviceCertificate} {root : PinnedOmarchyRoot} {now : UInt64} {u : Unit}
    (h : validateLocal identity certificate root now = .ok u) :
    certificate.Names identity.deviceId identity.publicKey := by
  simp only [validateLocal, bind_eq_ok, bailIf_eq_ok, exists_const, not_or, not_not] at h
  exact ⟨rfl, h.1.1, h.1.2⟩

omit [Noise] in
private theorem names_of_roleFor {context : PairedIdentityContext} {identity : DeviceIdentity}
    {role : UInt8} (hsound : context.Sound) (h : context.roleFor identity = .ok role) :
    (context.localCertificate role).Names identity.deviceId identity.publicKey := by
  unfold PairedIdentityContext.roleFor at h
  unfold PairedIdentityContext.localCertificate
  split at h
  next hself =>
    cases h
    rw [if_pos rfl, hself.1, hself.2]
    exact hsound.initiator
  next =>
    split at h
    next hself =>
      cases h
      rw [if_neg (by decide), hself.1, hself.2]
      exact hsound.responder
    next => cases h

/-- The ends that the constructors return. -/
inductive PairingInitiator.Created [Serde] : PairingInitiator → Prop where
  | new {identity certificate expected root now random entropy x}
      (h : PairingInitiator.new identity certificate expected root now random entropy = .ok x) :
      Created x
  | newReconnect {identity context entropy x} (hcontext : context.FromStore)
      (h : PairingInitiator.newReconnect identity context entropy = .ok x) : Created x

inductive PairingResponder.Created [Serde] : PairingResponder → Prop where
  | new {identity certificate expected root now x}
      (h : PairingResponder.new identity certificate expected root now = .ok x) : Created x
  | newReconnect {identity context x} (hcontext : context.FromStore)
      (h : PairingResponder.newReconnect identity context = .ok x) : Created x

private theorem PairingInitiator.Created.genuine [Serde] {x : PairingInitiator} (h : x.Created) :
    x.Genuine := by
  cases h with
  | new h =>
      simp only [PairingInitiator.new, bind_eq_ok, pure_eq_ok] at h
      obtain ⟨_, hlocal, _, _, _, _, _, _, rfl⟩ := h
      exact ⟨names_of_validateLocal hlocal, trivial⟩
  | newReconnect hcontext h =>
      simp only [PairingInitiator.newReconnect, bind_eq_ok, pure_eq_ok] at h
      obtain ⟨_, hrole, _, _, _, _, rfl⟩ := h
      exact ⟨names_of_roleFor hcontext.sound hrole, hcontext.sound⟩

private theorem PairingResponder.Created.genuine [Serde] {x : PairingResponder} (h : x.Created) :
    x.Genuine := by
  cases h with
  | new h =>
      simp only [PairingResponder.new, bind_eq_ok, pure_eq_ok] at h
      obtain ⟨_, hlocal, _, _, rfl⟩ := h
      exact ⟨names_of_validateLocal hlocal, trivial⟩
  | newReconnect hcontext h =>
      simp only [PairingResponder.newReconnect, bind_eq_ok, pure_eq_ok] at h
      obtain ⟨_, hrole, _, _, rfl⟩ := h
      exact ⟨names_of_roleFor hcontext.sound hrole, hcontext.sound⟩

variable {ι κ : Type}

/-- The identity key of an end. -/
def endKey (xs : ι → PairingInitiator) (ys : κ → PairingResponder) : ι ⊕ κ → Array8 32
  | .inl i => (xs i).identity.publicKey
  | .inr k => (ys k).identity.publicKey

/-- The entry is a use of the key on the message. -/
def Entry.Signs (xs : ι → PairingInitiator) (ys : κ → PairingResponder) (publicKey : Array8 32)
    (message : Bytes) : Entry ι κ → Prop
  | .act who (.signed transcript role) =>
      endKey xs ys who = publicKey ∧ signedMessage transcript role = message
  | .other key signing => key = publicKey ∧ signing.message = .ok message
  | _ => False

/-- Only the holder of an honest key makes signatures that verify under it. -/
def Unforgeable (xs : ι → PairingInitiator) (ys : κ → PairingResponder)
    (honest : Array8 32 → Prop) (before : List (Entry ι κ)) : Entry ι κ → Prop
  | .act _ (.verified publicKey message signature) =>
      honest publicKey → VerifiesStrictly publicKey message signature →
        ∃ e ∈ before, e.Signs xs ys publicKey message
  | _ => True

/-- What one end of a completed handshake reads, its other end sent. -/
def Private (before : List (Entry ι κ)) : Entry ι κ → Prop
  | .act (.inl i) (.read plaintext) => ∀ hash k, .act (.inl i) (.finished hash) ∈ before →
      .act (.inr k) (.finished hash) ∈ before → .act (.inr k) (.sent plaintext) ∈ before
  | .act (.inr k) (.read plaintext) => ∀ hash i, .act (.inr k) (.finished hash) ∈ before →
      .act (.inl i) (.finished hash) ∈ before → .act (.inl i) (.sent plaintext) ∈ before
  | _ => True

/-- Ideal libraries: signatures, DeviceID hashes and handshakes. -/
structure Ideal (xs : ι → PairingInitiator) (ys : κ → PairingResponder)
    (honest : Array8 32 → Prop) (log : List (Entry ι κ)) : Prop where
  unforgeable : Throughout (Unforgeable xs ys honest) log
  collisionFree : ∀ who publicKey message signature,
    .act who (.verified publicKey message signature) ∈ log → ∀ key, honest key →
      deviceIdForPublicKey publicKey = deviceIdForPublicKey key → publicKey = key
  keysPrivate : Throughout Private log

omit [Crypto] [Noise] in
/-- Two sessions that are the two ends of one pairing. -/
structure SessionView.Mirrors (v v' : SessionView) : Prop where
  mode : v.mode = v'.mode
  pairId : v.pairId = v'.pairId
  localDeviceId : v.localDeviceId = v'.peerDeviceId
  peerDeviceId : v.peerDeviceId = v'.localDeviceId
  localCertificate : v.localCertificate = v'.peerCertificate
  peerCertificate : v.peerCertificate = v'.localCertificate
  sessionBinding : v.sessionBinding = v'.sessionBinding
  roles : v.localRole = roleInitiator ∧ v'.localRole = roleResponder

/-- The responder's session that an initiator's session with it relies on. -/
structure Acknowledged (xs : ι → PairingInitiator) (ys : κ → PairingResponder)
    (before : List (Entry ι κ)) (i : ι) (v : SessionView) (k : κ) (v' : SessionView) : Prop where
  earlier : .act (.inr k) (.output v') ∈ before
  mirrors : v.Mirrors v'
  peerKey : v.peerPublicKey = (ys k).identity.publicKey
  ownKey : v'.peerPublicKey = (xs i).identity.publicKey

/-- The initiator's signature that a responder's session with it relies on. -/
structure Vouched (xs : ι → PairingInitiator) (ys : κ → PairingResponder)
    (before : List (Entry ι κ)) (k : κ) (v : SessionView) (i : ι) (transcript : Bytes) : Prop where
  expected : (xs i).expectedPeerDeviceId = (ys k).identity.deviceId
  initiatorSigned : .act (.inl i) (.signed transcript roleInitiator) ∈ before
  responderSigned : .act (.inr k) (.signed transcript roleResponder) ∈ before
  sessionBinding : v.sessionBinding = Crypto.sha256 transcript
  terms : (xs i).mode = v.mode ∧ (xs i).pairId = v.pairId ∧ (xs i).certificate = v.peerCertificate

/-- A session with an honest peer is matched by an end of that peer. -/
def Agreed (xs : ι → PairingInitiator) (ys : κ → PairingResponder) (honest : Array8 32 → Prop)
    (before : List (Entry ι κ)) : Entry ι κ → Prop
  | .act (.inl i) (.output v) => ∀ key, honest key →
      (xs i).expectedPeerDeviceId = deviceIdForPublicKey key →
      ∃ k v', (ys k).identity.publicKey = key ∧ Acknowledged xs ys before i v k v'
  | .act (.inr k) (.output v) => ∀ key, honest key → v.peerDeviceId = deviceIdForPublicKey key →
      ∃ i transcript, (xs i).identity.publicKey = key ∧ Vouched xs ys before k v i transcript
  | _ => True

section Agreement

variable [DecidableEq ι] [DecidableEq κ] {xs : ι → PairingInitiator} {ys : κ → PairingResponder}
  {honest : Array8 32 → Prop} {w : World ι κ} {before after : List (Entry ι κ)}

omit [Crypto] [Noise] in
private theorem signedMessage_inj {transcript transcript' : Bytes} {role role' : UInt8}
    (h : signedMessage transcript role = signedMessage transcript' role') :
    transcript = transcript' ∧ role = role' := by
  obtain ⟨rfl, hrole⟩ := List.append_inj' (List.append_cancel_left h) rfl
  exact ⟨rfl, List.singleton_inj.mp hrole⟩

/-- A transcript signature that verifies under an honest key was made by an end with that key. -/
theorem World.Sound.signed_of_verified (hsound : w.Sound xs ys) (hideal : Ideal xs ys honest w.log)
    {who : ι ⊕ κ} {key : Array8 32} {transcript signature : Bytes} {role : UInt8}
    (hlog : w.log = before ++
      .act who (.verified key (signedMessage transcript role) signature) :: after)
    (hverifies : VerifiesStrictly key (signedMessage transcript role) signature)
    (hkey : honest key) :
    ∃ signer, endKey xs ys signer = key ∧ .act signer (.signed transcript role) ∈ before := by
  obtain ⟨e, he, hsigns⟩ := hideal.unforgeable _ _ _ hlog hkey hverifies
  cases e with
  | other key' signing =>
      have hmem : .other key' signing ∈ w.log := by simp [hlog, he]
      exact absurd (Signing.eq_transcript_of_message hsigns.2) (hsound.other _ _ hmem _ _)
  | act signer a =>
      cases a with
      | signed transcript' role' =>
          obtain ⟨hsigner, hmessage⟩ := hsigns
          obtain ⟨rfl, rfl⟩ := signedMessage_inj hmessage
          exact ⟨signer, hsigner, he⟩
      | _ => exact hsigns.elim

omit [Crypto] [Noise] in
private theorem Entry.by_eq_some {who : ι ⊕ κ} {e : Entry ι κ} {a : Act} :
    e.by who = some a ↔ e = .act who a := by
  cases e with
  | act actor b =>
      by_cases h : actor = who <;> simp [Entry.by, h]
  | other key signing => simp [Entry.by]

omit [Crypto] [Noise] in
private theorem Entry.split_of_by {who : ι ⊕ κ} {a : Act} (front back : List Act)
    (h : before.filterMap (Entry.by who) = front ++ a :: back) :
    ∃ front' back', before = front' ++ .act who a :: back' ∧
      front'.filterMap (Entry.by who) = front := by
  obtain ⟨front', e, back', heq, he, hfront⟩ := exists_split_of_filterMap h
  rw [Entry.by_eq_some] at he
  subst he
  exact ⟨front', back', heq, hfront⟩

omit [Crypto] [Noise] in
private theorem Entry.mem_of_by {who : ι ⊕ κ} {a : Act} (h : a ∈ before.filterMap (Entry.by who)) :
    .act who a ∈ before := by
  obtain ⟨e, he, hby⟩ := List.mem_filterMap.mp h
  rwa [Entry.by_eq_some.mp hby] at he

private theorem World.Sound.initiator_signed (hsound : w.Sound xs ys) {i : ι} {transcript : Bytes}
    {role : UInt8} (hmem : .act (.inl i) (.signed transcript role) ∈ w.log) :
    role = roleInitiator ∧ ∃ hash peer,
      PairingInitiator.Proof (xs i) hash peer transcript := by
  obtain ⟨before, after, hlog⟩ := List.append_of_mem hmem
  obtain ⟨hrole, hash, _, _, peer, -, hproof⟩ := hsound.told hlog
  exact ⟨hrole, hash, peer, hproof⟩

private theorem World.Sound.responder_signed (hsound : w.Sound xs ys) {k : κ} {transcript : Bytes}
    {role : UInt8} {rest : List (Entry ι κ)} (hlog : w.log = before ++ rest)
    (hmem : .act (.inr k) (.signed transcript role) ∈ before) :
    role = roleResponder ∧ ∃ hash pairId peer, .act (.inr k) (.finished hash) ∈ before ∧
      PairingResponder.Proof (ys k) hash pairId peer transcript := by
  obtain ⟨front, back, rfl⟩ := List.append_of_mem hmem
  rw [List.append_assoc, List.cons_append] at hlog
  obtain ⟨hrole, hash, hello, pairId, peer, hfront, hproof⟩ := hsound.told hlog
  have hfinished : .act (.inr k) (.finished hash) ∈ front := Entry.mem_of_by (by simp [hfront])
  exact ⟨hrole, hash, pairId, peer, by simp [hfinished], hproof⟩

private theorem World.Sound.signed_unique (hsound : w.Sound xs ys) {k : κ}
    {transcript transcript' : Bytes}
    {role role' : UInt8} (hmem : .act (.inr k) (.signed transcript role) ∈ w.log)
    (hmem' : .act (.inr k) (.signed transcript' role') ∈ w.log) : transcript = transcript' := by
  have hplace : ∀ {t r}, .act (.inr k) (.signed t r) ∈ w.log →
      ∃ front back : List Act, front.length = 2 ∧
        w.log.filterMap (Entry.by (.inr k)) = front ++ .signed t r :: back := by
    intro t r h
    obtain ⟨before, after, hlog⟩ := List.append_of_mem h
    obtain ⟨-, hash, hello, _, _, hfront, -⟩ := hsound.told hlog
    refine ⟨[.finished hash, .read hello], after.filterMap (Entry.by (.inr k)), rfl, ?_⟩
    rw [hlog, List.filterMap_append, hfront, List.filterMap_cons_some (Entry.by_eq_some.mpr rfl)]
  obtain ⟨front, back, hlen, hacts⟩ := hplace hmem
  obtain ⟨front', back', hlen', hacts'⟩ := hplace hmem'
  have hsame := List.append_inj (hacts.symm.trans hacts') (by rw [hlen, hlen'])
  cases (List.cons.inj hsame.2).1
  rfl

/-- What a responder that concludes has done. -/
theorem World.Sound.responder_output (hsound : w.Sound xs ys) {k : κ} {v : SessionView}
    (hlog : w.log = before ++ .act (.inr k) (.output v) :: after) :
    ∃ hash pairId peer transcript payload front back,
      before = front ++ .act (.inr k) (.verified peer.publicKey
        (signedMessage transcript roleInitiator) payload) :: back ∧
      .act (.inr k) (.signed transcript roleResponder) ∈ front ∧
      PairingResponder.Proof (ys k) hash pairId peer transcript ∧
      VerifiesStrictly peer.publicKey (signedMessage transcript roleInitiator) payload ∧
      v = PairingResponder.view (ys k) pairId peer transcript := by
  obtain ⟨hash, hello, pairId, peer, transcript, proof, payload, hacts, hproof, hverifies, rfl⟩ :=
    hsound.told hlog
  obtain ⟨front, back, hbefore, hfront⟩ := Entry.split_of_by
    [.finished hash, .read hello, .signed transcript roleResponder, .sent proof, .read payload]
    [] hacts
  have hsigned : .act (.inr k) (.signed transcript roleResponder) ∈ front :=
    Entry.mem_of_by (by simp [hfront])
  exact ⟨hash, pairId, peer, transcript, payload, front, back, hbefore, hsigned, hproof, hverifies,
    rfl⟩

/-- What an initiator that concludes has done. -/
theorem World.Sound.initiator_output (hsound : w.Sound xs ys) {i : ι} {v : SessionView}
    (hlog : w.log = before ++ .act (.inl i) (.output v) :: after) :
    ∃ hash peer transcript front middle back,
      before = front ++ .act (.inl i) (.verified peer.publicKey
        (signedMessage transcript roleResponder) (signatureBytes peer.signature)) ::
          (middle ++ .act (.inl i) (.read ackMagic) :: back) ∧
      .act (.inl i) (.finished hash) ∈ front ∧
      PairingInitiator.Proof (xs i) hash peer transcript ∧
      v = PairingInitiator.view (xs i) peer transcript := by
  obtain ⟨hash, hello, proof, peer, transcript, signature, hacts, hproof, rfl⟩ :=
    hsound.told hlog
  obtain ⟨front, back, rfl, hfront⟩ := Entry.split_of_by
    [.finished hash, .sent hello, .read proof,
      .verified peer.publicKey (signedMessage transcript roleResponder)
        (signatureBytes peer.signature),
      .signed transcript roleInitiator, .sent signature] [] hacts
  obtain ⟨front', middle, rfl, hfront'⟩ := Entry.split_of_by
    [.finished hash, .sent hello, .read proof]
    [.signed transcript roleInitiator, .sent signature] hfront
  have hfinished : .act (.inl i) (.finished hash) ∈ front' :=
    Entry.mem_of_by (by simp [hfront'])
  exact ⟨hash, peer, transcript, front', middle, back, by simp, hfinished, hproof, rfl⟩

private theorem World.Sound.output_of_ack (hsound : w.Sound xs ys) {k : κ} {rest : List (Entry ι κ)}
    (hlog : w.log = before ++ rest) (hmem : .act (.inr k) (.sent ackMagic) ∈ before) :
    ∃ v, .act (.inr k) (.output v) ∈ before := by
  obtain ⟨front, back, rfl⟩ := List.append_of_mem hmem
  rw [List.append_assoc, List.cons_append] at hlog
  obtain ⟨v, hv⟩ := hsound.told hlog rfl
  exact ⟨v, by simp [Entry.mem_of_by hv]⟩

private theorem mirrors_of_proofs {x : PairingInitiator} {y : PairingResponder}
    {hash hash' : Array8 32}
    {pairId : Text} {peer peer' : PeerAuth} {transcript : Bytes}
    (hx : PairingInitiator.Proof x hash peer transcript)
    (hy : PairingResponder.Proof y hash' pairId peer' transcript) :
    hash = hash' ∧ (x.view peer transcript).Mirrors (y.view pairId peer' transcript) := by
  obtain ⟨_, hx'⟩ := hx.transcript
  obtain ⟨_, _, hy'⟩ := hy.transcript
  obtain ⟨hhash, hmode, hpair, hinitiator, hresponder⟩ := (makeTranscript_inj hx' hy').1
  refine ⟨hhash, hmode, hpair, ?_, ?_, hinitiator, hresponder, rfl, rfl, rfl⟩
  · have hid := hy.named.deviceId
    rw [← hinitiator] at hid
    exact hid
  · have hid := hx.named.deviceId
    rw [hresponder] at hid
    exact hid.symm

omit [DecidableEq ι] [DecidableEq κ] in
private theorem Ideal.key_of_named (hideal : Ideal xs ys honest w.log) {who : ι ⊕ κ}
    {peer : PeerAuth}
    {message signature : Bytes} {key : Array8 32} (hnamed : peer.Named)
    (hlog : w.log = before ++ .act who (.verified peer.publicKey message signature) :: after)
    (hkey : honest key) (hid : peer.deviceId = deviceIdForPublicKey key) :
    peer.publicKey = key := by
  have hmem : .act who (.verified peer.publicKey message signature) ∈ w.log := by simp [hlog]
  exact hideal.collisionFree who _ _ _ hmem key hkey (hnamed.derived.symm.trans hid)

variable (hxs : ∀ i, (xs i).Genuine) (hys : ∀ k, (ys k).Genuine)

include hxs in
private theorem World.Sound.acknowledged (hsound : w.Sound xs ys)
    (hideal : Ideal xs ys honest w.log)
    {i : ι} {v : SessionView} (hlog : w.log = before ++ .act (.inl i) (.output v) :: after)
    {key : Array8 32} (hkey : honest key)
    (hexpected : (xs i).expectedPeerDeviceId = deviceIdForPublicKey key) :
    ∃ k v', (ys k).identity.publicKey = key ∧ Acknowledged xs ys before i v k v' := by
  obtain ⟨hash, peer, transcript, front, middle, back, hbefore, hfinished, hproof, rfl⟩ :=
    hsound.initiator_output hlog
  obtain ⟨rest, hverified⟩ : ∃ rest, w.log = front ++ .act (.inl i) (.verified peer.publicKey
      (signedMessage transcript roleResponder) (signatureBytes peer.signature)) ::
        (middle ++ .act (.inl i) (.read ackMagic) :: (back ++ rest)) := by
    refine ⟨.act (.inl i) (.output (PairingInitiator.view (xs i) peer transcript)) :: after, ?_⟩
    rw [hlog, hbefore]
    simp
  -- the peer's key is honest, so the peer's device signed the transcript
  have hpeer : peer.publicKey = key :=
    hideal.key_of_named hproof.named hverified hkey (hproof.expected.trans hexpected)
  obtain ⟨signer, hsigner, hsigned⟩ :=
    hsound.signed_of_verified hideal hverified hproof.verified (hpeer ▸ hkey)
  cases signer with
  | inl j =>
      have hmem : .act (.inl j) (.signed transcript roleResponder) ∈ w.log := by
        simp [hverified, hsigned]
      exact absurd (hsound.initiator_signed hmem).1 (by decide)
  | inr k =>
      obtain ⟨-, hash', pairId, peer', hfinished', hproof'⟩ :=
        hsound.responder_signed hverified hsigned
      obtain ⟨rfl, -⟩ := mirrors_of_proofs hproof hproof'
      -- both ends completed this handshake, so the acknowledgement came from that responder
      have hread : w.log = (front ++ .act (.inl i) (.verified peer.publicKey
          (signedMessage transcript roleResponder) (signatureBytes peer.signature)) :: middle) ++
            .act (.inl i) (.read ackMagic) :: (back ++ rest) := by
        rw [hverified]
        simp
      have hack := hideal.keysPrivate _ _ _ hread hash k (by simp [hfinished])
        (by simp [hfinished'])
      obtain ⟨v', hv'⟩ := hsound.output_of_ack hread hack
      obtain ⟨before', after', hsplit⟩ := List.append_of_mem hv'
      rw [hsplit, List.append_assoc, List.cons_append] at hread
      obtain ⟨hash'', pairId'', peer'', transcript'', _, front'', back'', hfront'', hsigned'',
        hproof'', -, rfl⟩ := hsound.responder_output hread
      have hmem : .act (.inr k) (.signed transcript roleResponder) ∈ w.log := by
        simp [hverified, hsigned]
      have hmem'' : .act (.inr k) (.signed transcript'' roleResponder) ∈ w.log := by
        simp [hread, hfront'', hsigned'']
      obtain rfl := hsound.signed_unique hmem hmem''
      have hmirrors := (mirrors_of_proofs hproof hproof'').2
      have hsigner' : (ys k).identity.publicKey = key := hsigner.trans hpeer
      refine ⟨k, _, hsigner', ?_, hmirrors, hpeer.trans hsigner'.symm, ?_⟩
      · rw [hbefore, ← List.cons_append, ← List.append_assoc, hsplit]
        simp
      · have hcert := hmirrors.localCertificate
        have hown : (xs i).certificate.publicKey = peer''.certificate.publicKey :=
          congrArg DeviceCertificate.publicKey hcert
        rw [(hxs i).certificate.publicKey, hproof''.named.publicKey] at hown
        exact hown.symm

include hys in
private theorem World.Sound.vouched (hsound : w.Sound xs ys) (hideal : Ideal xs ys honest w.log)
    {k : κ} {v : SessionView} (hlog : w.log = before ++ .act (.inr k) (.output v) :: after)
    {key : Array8 32} (hkey : honest key) (hpeer : v.peerDeviceId = deviceIdForPublicKey key) :
    ∃ i transcript, (xs i).identity.publicKey = key ∧ Vouched xs ys before k v i transcript := by
  obtain ⟨hash, pairId, peer, transcript, payload, front, back, rfl, hsigned, hproof, hverifies,
    rfl⟩ := hsound.responder_output hlog
  rw [List.append_assoc, List.cons_append] at hlog
  have hpeerKey : peer.publicKey = key :=
    hideal.key_of_named hproof.named hlog hkey hpeer
  obtain ⟨signer, hsigner, hvouched⟩ :=
    hsound.signed_of_verified hideal hlog hverifies (hpeerKey ▸ hkey)
  cases signer with
  | inr j =>
      exact absurd (hsound.responder_signed hlog hvouched).1 (by decide)
  | inl i =>
      have hmem : .act (.inl i) (.signed transcript roleInitiator) ∈ w.log := by
        simp [hlog, hvouched]
      obtain ⟨-, hash', peer', hproof'⟩ := hsound.initiator_signed hmem
      obtain ⟨-, hmirrors⟩ := mirrors_of_proofs hproof' hproof
      refine ⟨i, transcript, hsigner.trans hpeerKey, ?_, by simp [hvouched], by simp [hsigned], rfl,
        hmirrors.mode, hmirrors.pairId, hmirrors.localCertificate⟩
      have hid := hmirrors.peerDeviceId
      rw [← hproof'.expected, ← (hys k).certificate.deviceId]
      exact hid

end Agreement

end Ends

namespace Loopback

attribute [local instance] crypto noise PairingRecord.canonicalSerde

/-- A device about to pair with another one for the first time. -/
def pairingInitiator : PairingInitiator :=
  Pairing.fresh (identity 1) (pairIdOf 7) (certificate (keyOf 1)) (deviceIdOf 2)
    (.current root 100)
    (some ⟨true, transcriptMagic ++ modeFirstContact :: (pairIdOf 7).bytes, keyOf 11, none, 0⟩)
    (keyOf 11)

def pairingResponder : PairingResponder :=
  Pairing.fresh (identity 2) none (certificate (keyOf 2)) (deviceIdOf 1) (.current root 100) none
    (List.Vector.replicate 32 0)

def handshakeHash : Array8 32 :=
  digest (transcriptMagic ++ modeFirstContact :: (pairIdOf 7).bytes ++
    ((keyOf 11).toList ++ (keyOf 12).toList))

def initiatorKey : Bytes := 1 :: handshakeHash.toList

def responderKey : Bytes := 2 :: handshakeHash.toList

def transcriptOf : Bytes :=
  ((makeTranscript handshakeHash modeFirstContact (pairIdOf 7) (certificate (keyOf 1))
    (certificate (keyOf 2)) (keyOf 11) (keyOf 12)).toOption).getD []

def helloOf : Bytes := authLayout (deviceIdOf 1) (keyOf 1) (certificateBytes 1) []

def signatureOf (b role : UInt8) : Array8 64 := (identity b).sign (signedMessage transcriptOf role)

def proofOf : Bytes :=
  authLayout (deviceIdOf 2) (keyOf 2) (certificateBytes 2) (signatureOf 2 roleResponder).toList

def handshakeFrame (role : UInt8) (payload : Bytes) : Bytes :=
  frameLayout kindHandshake role 0 payload

def authFrame (role sequence : UInt8) (key : Bytes) (nonce : Nat) (plaintext : Bytes) : Bytes :=
  frameLayout kindAuth role sequence (cipher key nonce plaintext)

def sessionView (holder peer role : UInt8) : SessionView where
  mode := modeFirstContact
  pairId := pairIdOf 7
  localDeviceId := deviceIdOf holder
  peerDeviceId := deviceIdOf peer
  localCertificate := certificate (keyOf holder)
  peerCertificate := certificate (keyOf peer)
  sessionBinding := digest transcriptOf
  peerPublicKey := keyOf peer
  localRole := role

/-- One uninterrupted exchange of the two. -/
def firstContact : World Unit Unit :=
  World.start (fun _ => pairingInitiator) (fun _ => pairingResponder)
    |>.callInitiator () ⟨[], [], keyOf 11⟩
    |>.callResponder () ⟨handshakeFrame roleInitiator
        (modeFirstContact :: ((pairIdOf 7).bytes ++ message (keyOf 11) 0)), [], keyOf 12⟩
    |>.callInitiator () ⟨handshakeFrame roleResponder (message (keyOf 12) 1), [], keyOf 11⟩
    |>.callResponder () ⟨handshakeFrame roleInitiator (message (keyOf 11) 2),
        authFrame roleInitiator 1 initiatorKey 0 helloOf, keyOf 12⟩
    |>.callInitiator () ⟨authFrame roleResponder 2 responderKey 0 proofOf, [], keyOf 11⟩
    |>.callResponder () ⟨authFrame roleInitiator 3 initiatorKey 1
        (signatureOf 1 roleInitiator).toList, [], keyOf 12⟩
    |>.callInitiator () ⟨authFrame roleResponder 4 responderKey 1 ackMagic, [], keyOf 11⟩

private theorem firstContact_log : firstContact.log =
    [.act (.inl ()) (.finished handshakeHash), .act (.inl ()) (.sent helloOf),
      .act (.inr ()) (.finished handshakeHash), .act (.inr ()) (.read helloOf),
      .act (.inr ()) (.signed transcriptOf roleResponder), .act (.inr ()) (.sent proofOf),
      .act (.inl ()) (.read proofOf),
      .act (.inl ()) (.verified (keyOf 2) (signedMessage transcriptOf roleResponder)
        (signatureOf 2 roleResponder).toList),
      .act (.inl ()) (.signed transcriptOf roleInitiator),
      .act (.inl ()) (.sent (signatureOf 1 roleInitiator).toList),
      .act (.inr ()) (.read (signatureOf 1 roleInitiator).toList),
      .act (.inr ()) (.verified (keyOf 1) (signedMessage transcriptOf roleInitiator)
        (signatureOf 1 roleInitiator).toList),
      .act (.inr ()) (.output (sessionView 2 1 roleResponder)), .act (.inr ()) (.sent ackMagic),
      .act (.inl ()) (.read ackMagic),
      .act (.inl ()) (.output (sessionView 1 2 roleInitiator))] := by
  decide +kernel

private theorem firstContact_reachable : Relation.ReflTransGen World.Step
    (World.start (fun _ => pairingInitiator) (fun _ => pairingResponder)) firstContact :=
  .tail (.tail (.tail (.tail (.tail (.tail (.single (.initiator ..)) (.responder ..))
    (.initiator ..)) (.responder ..)) (.initiator ..)) (.responder ..)) (.initiator ..)

def honest (key : Array8 32) : Prop := key = keyOf 1 ∨ key = keyOf 2

private theorem firstContact_ideal : Ideal (fun _ => pairingInitiator)
    (fun _ => pairingResponder) honest
    firstContact.log := by
  have hdistinct : deviceIdForPublicKey (keyOf 1) ≠ deviceIdForPublicKey (keyOf 2) := by
    decide +kernel
  have hinitiator : endKey (fun _ : Unit => pairingInitiator) (fun _ : Unit => pairingResponder)
      (.inl ()) = keyOf 1 := rfl
  have hresponder : endKey (fun _ : Unit => pairingInitiator) (fun _ : Unit => pairingResponder)
      (.inr ()) = keyOf 2 := rfl
  rw [firstContact_log]
  constructor
  · rw [← throughoutFrom_nil_iff]
    simp [ThroughoutFrom, Unforgeable, Entry.Signs, hinitiator, hresponder]
  · intro who key message signature hmem key' hkey' hid
    have hkey : honest key := by
      simp only [List.mem_cons, Entry.act.injEq, reduceCtorEq, and_false, false_or, or_false,
        List.not_mem_nil, Act.verified.injEq] at hmem
      rcases hmem with h | h
      · exact .inr h.2.1
      · exact .inl h.2.1
    rcases hkey with rfl | rfl <;> rcases hkey' with rfl | rfl
    · rfl
    · exact absurd hid hdistinct
    · exact absurd hid.symm hdistinct
    · rfl
  · rw [← throughoutFrom_nil_iff]
    simp [ThroughoutFrom, Private]

private theorem pairingInitiator_created : pairingInitiator.Created := by
  have hlocal : validateLocal (identity 1) (certificate (keyOf 1)) root 100 = .ok () := by
    decide +kernel
  have hexpected :
      validateExpectedPeer (deviceIdOf 2) (certificate (keyOf 1)).deviceId = .ok () := by
    decide +kernel
  have hnew : PairingInitiator.new (identity 1) (certificate (keyOf 1)) (deviceIdOf 2) root 100
      (.ok (List.Vector.replicate 16 7)) (keyOf 11) = .ok pairingInitiator := by
    simp only [PairingInitiator.new, hlocal, hexpected, ok_bind, randomPairId, buildHandshake]
    rfl
  exact .new hnew

private theorem pairingResponder_created : pairingResponder.Created := by
  have hlocal : validateLocal (identity 2) (certificate (keyOf 2)) root 100 = .ok () := by
    decide +kernel
  have hexpected :
      validateExpectedPeer (deviceIdOf 1) (certificate (keyOf 2)).deviceId = .ok () := by
    decide +kernel
  have hnew : PairingResponder.new (identity 2) (certificate (keyOf 2)) (deviceIdOf 1) root 100 =
      .ok pairingResponder := by
    simp only [PairingResponder.new, hlocal, hexpected, ok_bind]
    rfl
  exact .new hnew

end Loopback

end OmarchySync
