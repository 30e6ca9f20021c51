import OmarchySync.Runtime.Exchange
import OmarchySync.Trust.Lifecycle

/-!
# Completeness of the authentication

Two honest ends always come to a session. At first contact this needs the two certificates to
be valid at both clocks; afterwards it needs one record in both active stores and no clock.
-/

namespace OmarchySync

open Logic Wire Traced PairingM

section Honest

variable [Crypto] [Noise]

/-- All messages of the authentication, from two ends that have not been called. -/
def deliver (x : PairingInitiator) (y : PairingResponder) (entropy : Noise.Entropy) :
    Result (AuthenticatedPairingSession × AuthenticatedPairingSession) := do
  let (start, a) ← exec PairingInitiator.start ⟨x, []⟩
  let start ← crossWire start
  authenticate a ⟨y, []⟩ entropy start

/-- Two sessions that show each other. -/
structure Mirrored (a b : DeviceIdentity) (s r : AuthenticatedPairingSession) : Prop where
  pairId : s.pairId = r.pairId
  sessionBinding : s.sessionBinding = r.sessionBinding
  roles : s.localRole = roleInitiator ∧ r.localRole = roleResponder
  initiatorDevice : s.localDeviceId = a.deviceId ∧ r.peerDeviceId = a.deviceId
  responderDevice : r.localDeviceId = b.deviceId ∧ s.peerDeviceId = b.deviceId
  keys : r.peerPublicKey = a.publicKey ∧ s.peerPublicKey = b.publicKey
  certificates : s.localCertificate = r.peerCertificate ∧ r.localCertificate = s.peerCertificate
  certified : s.localCertificate.publicKey = a.publicKey ∧ r.localCertificate.publicKey = b.publicKey

/-- The ends of `a` and `b` are built, every call on them succeeds, and the sessions mirror
each other. -/
def Completes (a b : DeviceIdentity) (x : Result PairingInitiator) (y : Result PairingResponder)
    (entropy : Noise.Entropy) : Prop :=
  ∃ i r s t, x = .ok i ∧ y = .ok r ∧ deliver i r entropy = .ok (s, t) ∧ Mirrored a b s t

/-- An end before its first call, with the handshake it was built with. -/
structure PairingInitiator.Fresh (x : PairingInitiator) : Prop where
  pairId : HexId x.pairId
  built : ∃ entropy handshake, x.handshake = some handshake ∧
    buildHandshake true x.mode x.pairId entropy = .ok (handshake, x.localStaticPublic)

theorem PairingInitiator.fresh_of_build {identity : DeviceIdentity} {pairId : Text}
    {certificate : DeviceCertificate} {expected : Text} {validation : PeerValidation}
    {entropy : Noise.Entropy} {handshake : Noise.HandshakeState} {static : Array8 32}
    (hbuild : buildHandshake true validation.mode pairId entropy = .ok (handshake, static)) :
    PairingInitiator.Fresh (Pairing.fresh identity pairId certificate expected validation
      (some handshake) static) := by
  have hbuilt := hbuild
  simp only [buildHandshake, validatePairId, bind_eq_ok, bailIf_eq_ok, not_badHexId_iff,
    exists_const] at hbuilt
  exact ⟨hbuilt.1, entropy, handshake, rfl, hbuild⟩

section Deliver

variable [TransportLaws] [HandshakeLaws] {x : PairingInitiator} {y : PairingResponder}

omit [Crypto] in
theorem buildHandshake_ok {mode : UInt8}
    (hmode : mode = modeFirstContact ∨ mode = modeReconnect) {pairId : Text} (hid : HexId pairId)
    (initiator : Bool) (entropy : Noise.Entropy) :
    ∃ handshake static, buildHandshake initiator mode pairId entropy = .ok (handshake, static) := by
  obtain ⟨handshake, static, hnew⟩ := HandshakeLaws.build_ok initiator
    (transcriptMagic ++ mode :: pairId.bytes) entropy
  refine ⟨handshake, static, ?_⟩
  simp only [buildHandshake, validatePairId, bind_eq_ok, bailIf_eq_ok, not_badHexId_iff,
    exists_const]
  exact ⟨hid, by tauto, hnew⟩

theorem PairingInitiator.Fresh.deliver (hx : x.Fresh) (entropy : Noise.Entropy) :
    ∃ hash static, Matches (Sessions x y) (agreement x y hash x.localStaticPublic static)
      (OmarchySync.deliver x y entropy) := by
  obtain ⟨hid, ei, hi, hhandshake, hbuild⟩ := hx
  have hmode : x.mode = modeFirstContact ∨ x.mode = modeReconnect := by
    unfold Pairing.mode PeerValidation.mode
    cases x.validation with
    | current root now => exact .inl rfl
    | paired context => exact .inr rfl
  obtain ⟨hr, sr, hbuild'⟩ := buildHandshake_ok hmode hid false entropy
  obtain ⟨H⟩ := handshaken hbuild hbuild'
  refine ⟨H.hash, sr, ?_⟩
  have hstart : exec PairingInitiator.start ⟨x, []⟩ = _ := start_exec H hhandshake hmode hid
  have hwired : Wired (startFrame x.mode x.pairId H.m₁) := by
    have hlength : x.pairId.bytes.length = 32 := hid.1
    exact wired_frameLayout (by simp [hlength, H.lengths.1, maxAuthFrame])
  have hcross := (crossWire_eq_ok _ _).mpr ⟨hwired, rfl⟩
  simp only [OmarchySync.deliver, hstart, ok_bind, hcross]
  exact authenticate_agreement H rfl hid hbuild'

/-- Compatible ends that hold the keys of their certificates complete. -/
theorem completes_of_compatible [LawfulCrypto] (hx : x.Fresh) (hc : Compatible x y)
    (hshaped : x.certificate.Shaped ∧ y.certificate.Shaped)
    (hlocal : x.certificate.deviceId = x.identity.deviceId ∧
      x.certificate.publicKey = x.identity.publicKey)
    (hlocal' : y.certificate.deviceId = y.identity.deviceId ∧
      y.certificate.publicKey = y.identity.publicKey) (entropy : Noise.Entropy) :
    Completes x.identity y.identity (.ok x) (.ok y) entropy := by
  obtain ⟨hash, static, hdeliver⟩ := hx.deliver (y := y) entropy
  have hverifies : ∀ (cert : DeviceCertificate) (identity : DeviceIdentity) message,
      cert.publicKey = identity.publicKey → cert.Verifies identity message := by
    intro cert identity message hkey
    rw [DeviceCertificate.Verifies, hkey]
    exact ⟨LawfulCrypto.validKey_verifyingKey _, LawfulCrypto.verifyStrict_sign _ _⟩
  have hbytes : ∀ cert : DeviceCertificate, cert.Shaped → ∃ bytes, cert.toBytes = .ok bytes :=
    fun cert h => ⟨_, (DeviceCertificate.toBytes_eq_ok ..).mpr ⟨h, rfl⟩⟩
  obtain ⟨bx, hbx⟩ := hbytes _ hshaped.1
  obtain ⟨by', hby⟩ := hbytes _ hshaped.2
  have hpair : Reader.Bounded 32 x.pairId.bytes := by
    have hlength : x.pairId.bytes.length = 32 := hx.pairId.1
    exact ⟨List.ne_nil_of_length_pos (by omega), by omega, by omega⟩
  have htranscript := (makeTranscript_eq_ok hash x.mode x.pairId x.certificate y.certificate
    x.localStaticPublic static _).mpr ⟨bx, by', hbx, hby, hpair, rfl⟩
  have hagree := agreement_eq_ok.mpr ⟨hc, _, htranscript, hverifies _ _ _ hlocal'.2,
    hverifies _ _ _ hlocal.2, rfl⟩
  obtain ⟨sessions, hdone, t, u, -, rfl⟩ := hdeliver.exists_of_ok hagree
  refine ⟨x, y, _, _, rfl, rfl, hdone, ?_⟩
  exact ⟨rfl, rfl, ⟨rfl, rfl⟩, ⟨hlocal.1, hlocal.1⟩, ⟨hlocal'.1, hlocal'.1⟩,
    ⟨hlocal.2, hlocal'.2⟩, ⟨rfl, rfl⟩, ⟨hlocal.2, hlocal'.2⟩⟩

end Deliver

/-- A certificate in the name of a local identity. -/
def DeviceIdentity.Holds (identity : DeviceIdentity) (certificate : DeviceCertificate) : Prop :=
  certificate.deviceId = identity.deviceId ∧ certificate.publicKey = identity.publicKey

section FirstContact

variable {a b : DeviceIdentity} {ca cb : DeviceCertificate} {root : PinnedOmarchyRoot}
  {now : UInt64}

omit [Noise] in
theorem validateLocal_ok (hholds : a.Holds ca) (hvalid : ca.verify root now = .ok ()) :
    validateLocal a ca root now = .ok () := by
  simp only [validateLocal, bind_eq_ok, bailIf_eq_ok, exists_const, not_or, not_not, hvalid]
  exact ⟨hholds, rfl⟩

omit [Noise] in
theorem validateExpectedPeer_ok (hholds : a.Holds ca) (hdistinct : a.deviceId ≠ b.deviceId) :
    validateExpectedPeer b.deviceId ca.deviceId = .ok () := by
  simp only [validateExpectedPeer, bind_eq_ok, bailIf_eq_ok, exists_const, not_badHexId_iff,
    hholds.1]
  exact ⟨deviceIdForPublicKey_hexId _, hdistinct.symm⟩

private theorem completes_new [TransportLaws] [HandshakeLaws] [LawfulCrypto] {now' : UInt64}
    {random : Array8 16} {ei er : Noise.Entropy} (hdistinct : a.deviceId ≠ b.deviceId)
    (ha : a.Holds ca) (hb : b.Holds cb)
    (hnow : ca.verify root now = .ok () ∧ cb.verify root now = .ok ())
    (hnow' : ca.verify root now' = .ok () ∧ cb.verify root now' = .ok ()) :
    Completes a b (PairingInitiator.new a ca b.deviceId root now (.ok random) ei)
      (PairingResponder.new b cb a.deviceId root now') er := by
  have hid : HexId (hexText random.toList) := hexId_hexText _ (by simp)
  obtain ⟨handshake, static, hbuild⟩ := buildHandshake_ok (.inl rfl) hid true ei
  have hx : PairingInitiator.new a ca b.deviceId root now (.ok random) ei =
      .ok (Pairing.fresh a (hexText random.toList) ca b.deviceId (.current root now)
        (some handshake) static) := by
    simp [PairingInitiator.new, validateLocal_ok ha hnow.1, validateExpectedPeer_ok ha hdistinct,
      randomPairId, hbuild, pure_result]
  have hy : PairingResponder.new b cb a.deviceId root now' =
      .ok (Pairing.fresh b none cb a.deviceId (.current root now') none
        (List.Vector.replicate 32 0)) := by
    simp [PairingResponder.new, validateLocal_ok hb hnow'.2,
      validateExpectedPeer_ok hb hdistinct.symm, pure_result]
  have hissued := (DeviceCertificate.verify_eq_ok ..).mp hnow.1
  have hissued' := (DeviceCertificate.verify_eq_ok ..).mp hnow.2
  rw [hx, hy]
  apply completes_of_compatible (x := Pairing.fresh a (hexText random.toList) ca b.deviceId
    (.current root now) (some handshake) static)
  · exact ⟨hid, ei, handshake, rfl, hbuild⟩
  · constructor
    · rfl
    · exact .inl rfl
    · simpa only [Pairing.fresh, ha.1, hb.1] using hdistinct
    · exact ha.1
    · exact hb.1
    · exact (DeviceCertificate.verify_eq_ok ..).mp hnow'.1
    · exact hissued'
  · exact ⟨hissued.1.shaped, hissued'.1.shaped⟩
  · exact ha
  · exact hb

end FirstContact

section Reconnect

variable [Serde] {store : PairingStore} {host : Host} {identity : DeviceIdentity} {pairId : Text}
  {record : PairingRecord} {context : PairedIdentityContext}

omit [Noise] in
private theorem reconnectContext_of_load (hload : store.load host pairId = .ok (some record))
    (hcontext : store.reconnectContext host identity pairId = .ok context) :
    ∃ initiator responder, Certified store.root record initiator responder ∧
      context = ⟨record.pairId, record.initiatorDeviceId, record.responderDeviceId,
        record.initiatorPublicKey, record.responderPublicKey, initiator, responder⟩ ∧
      (identity.deviceId = record.initiatorDeviceId ∧
          identity.publicKey = record.initiatorPublicKey ∨
        identity.deviceId = record.responderDeviceId ∧
          identity.publicKey = record.responderPublicKey) := by
  simp only [PairingStore.reconnectContext, hload, ok_bind, someOr, bind_eq_ok, bailIf_eq_ok,
    exists_const, PairingStore.contextFromRecordParts, pure_eq_ok,
    PairedIdentityContext.fromValidatedRecord] at hcontext
  obtain ⟨-, initiator, hinitiator, responder, hresponder, hlocal, -, rfl⟩ := hcontext
  simp only [PairingStore.load, bind_eq_ok] at hload
  obtain ⟨_, -, found, -, hload⟩ := hload
  cases found with
  | none => cases hload
  | some r =>
      simp only [bind_eq_ok, bailIf_eq_ok, pure_eq_ok, exists_const, Option.some.injEq] at hload
      obtain ⟨-, _, hvalid, rfl⟩ := hload
      obtain ⟨i, c, hcert, -, -⟩ := ((PairingStore.validateStored_eq_ok ..).mp hvalid).2
      rw [DeviceCertificate.fromBytes_eq_ok] at hinitiator hresponder
      obtain rfl := DeviceCertificate.toBytes_injective hcert.initiatorBytes hinitiator
      obtain rfl := DeviceCertificate.toBytes_injective hcert.responderBytes hresponder
      exact ⟨i, c, hcert, rfl, by tauto⟩

/-- The record's initiator and its responder complete from their two stores. -/
theorem completes_newReconnect [TransportLaws] [HandshakeLaws] [LawfulCrypto] {store' : PairingStore}
    {host' : Host} {pairId' : Text} {a b : DeviceIdentity} {context' : PairedIdentityContext}
    {ei er : Noise.Entropy} (ha : a.deviceId = record.initiatorDeviceId)
    (hb : b.deviceId = record.responderDeviceId)
    (hload : store.load host pairId = .ok (some record))
    (hload' : store'.load host' pairId' = .ok (some record))
    (hcontext : store.reconnectContext host a pairId = .ok context)
    (hcontext' : store'.reconnectContext host' b pairId' = .ok context') :
    Completes a b (PairingInitiator.newReconnect a context ei)
      (PairingResponder.newReconnect b context') er := by
  obtain ⟨ci, cr, hcert, rfl, hlocal⟩ := reconnectContext_of_load hload hcontext
  obtain ⟨ci', cr', hcert', rfl, hlocal'⟩ := reconnectContext_of_load hload' hcontext'
  obtain rfl := DeviceCertificate.toBytes_injective hcert.initiatorBytes hcert'.initiatorBytes
  obtain rfl := DeviceCertificate.toBytes_injective hcert.responderBytes hcert'.responderBytes
  have hkey : a.publicKey = record.initiatorPublicKey := by
    rcases hlocal with h | h
    · exact h.2
    · exact absurd (ha.symm.trans h.1) hcert.distinct
  have hkey' : b.publicKey = record.responderPublicKey := by
    rcases hlocal' with h | h
    · exact absurd (h.1.symm.trans hb) hcert.distinct
    · exact h.2
  have hrole : roleResponder ≠ roleInitiator := by decide
  obtain ⟨handshake, static, hbuild⟩ :=
    buildHandshake_ok (.inr rfl) hcert.shaped.pairId true ei
  have hx : PairingInitiator.newReconnect a ⟨record.pairId, record.initiatorDeviceId,
      record.responderDeviceId, record.initiatorPublicKey, record.responderPublicKey, ci, cr⟩ ei =
      .ok (Pairing.fresh a record.pairId ci record.responderDeviceId (.paired ⟨record.pairId,
        record.initiatorDeviceId, record.responderDeviceId, record.initiatorPublicKey,
        record.responderPublicKey, ci, cr⟩) (some handshake) static) := by
    simp [PairingInitiator.newReconnect, PairedIdentityContext.roleFor, ha, hkey, hbuild,
      PairedIdentityContext.localCertificate, PairedIdentityContext.peerDeviceId, pure_result]
  have hy : PairingResponder.newReconnect b ⟨record.pairId, record.initiatorDeviceId,
      record.responderDeviceId, record.initiatorPublicKey, record.responderPublicKey, ci, cr⟩ =
      .ok (Pairing.fresh b (some record.pairId) cr record.initiatorDeviceId (.paired ⟨record.pairId,
        record.initiatorDeviceId, record.responderDeviceId, record.initiatorPublicKey,
        record.responderPublicKey, ci, cr⟩) none (List.Vector.replicate 32 0)) := by
    simp [PairingResponder.newReconnect, PairedIdentityContext.roleFor, hb, hkey',
      hcert.distinct.symm, PairedIdentityContext.localCertificate,
      PairedIdentityContext.peerDeviceId, hrole, pure_result]
  rw [hx, hy]
  apply completes_of_compatible (x := Pairing.fresh a record.pairId ci record.responderDeviceId
    (.paired ⟨record.pairId, record.initiatorDeviceId, record.responderDeviceId,
      record.initiatorPublicKey, record.responderPublicKey, ci, cr⟩) (some handshake) static)
  · exact ⟨hcert.shaped.pairId, ei, handshake, rfl, hbuild⟩
  · constructor
    · rfl
    · exact .inr rfl
    · simpa only [Pairing.fresh, hcert.initiatorFields.1, hcert.responderFields.1] using
        hcert.distinct
    · exact hcert.initiatorFields.1
    · exact hcert.responderFields.1
    · simp [PeerValidation.Accepts, Pairing.fresh, PairedIdentityContext.identityForRole,
        hcert.initiatorFields]
    · simp [PeerValidation.Accepts, Pairing.fresh, PairedIdentityContext.identityForRole,
        hcert.responderFields, hrole]
  · exact ⟨hcert.initiatorIssued.shaped, hcert.responderIssued.shaped⟩
  · exact ⟨hcert.initiatorFields.1.trans ha.symm, hcert.initiatorFields.2.trans hkey.symm⟩
  · exact ⟨hcert.responderFields.1.trans hb.symm, hcert.responderFields.2.trans hkey'.symm⟩

end Reconnect

/-- Honest ends complete: at first contact under certificates that both accept, and on every
reconnect from one record. -/
theorem handshake_completes [Serde] [TransportLaws] [HandshakeLaws] [LawfulCrypto] :
    (∀ (a b : DeviceIdentity) (ca cb : DeviceCertificate) (root : PinnedOmarchyRoot)
        (now now' : UInt64) (random : Array8 16) (ei er : Noise.Entropy),
      a.deviceId ≠ b.deviceId → a.Holds ca → b.Holds cb →
      ca.verify root now = .ok () ∧ cb.verify root now = .ok () →
      ca.verify root now' = .ok () ∧ cb.verify root now' = .ok () →
      Completes a b (PairingInitiator.new a ca b.deviceId root now (.ok random) ei)
        (PairingResponder.new b cb a.deviceId root now') er) ∧
    (∀ (a b : DeviceIdentity) (record : PairingRecord) (store store' : PairingStore)
        (host host' : Host) (pairId pairId' : Text) (context context' : PairedIdentityContext)
        (ei er : Noise.Entropy),
      a.deviceId ≠ b.deviceId → store.load host pairId = .ok (some record) →
      store'.load host' pairId' = .ok (some record) →
      store.reconnectContext host a pairId = .ok context →
      store'.reconnectContext host' b pairId' = .ok context' →
      (a.deviceId = record.initiatorDeviceId ∧ Completes a b
          (PairingInitiator.newReconnect a context ei) (PairingResponder.newReconnect b context') er) ∨
        (b.deviceId = record.initiatorDeviceId ∧ Completes b a
          (PairingInitiator.newReconnect b context' ei)
          (PairingResponder.newReconnect a context) er)) := by
  constructor
  · intro a b ca cb root now now' random ei er hdistinct ha hb hnow hnow'
    exact completes_new hdistinct ha hb hnow hnow'
  · intro a b record store store' host host' pairId pairId' context context' ei er hdistinct hload
      hload' hcontext hcontext'
    obtain ⟨_, _, hcert, -, hlocal⟩ := reconnectContext_of_load hload hcontext
    obtain ⟨_, _, -, -, hlocal'⟩ := reconnectContext_of_load hload' hcontext'
    -- distinct participants of one record take its two roles
    rcases hlocal with ha | ha
    · have hb : b.deviceId = record.responderDeviceId := by
        rcases hlocal' with hb | hb
        · exact absurd (ha.1.trans hb.1.symm) hdistinct
        · exact hb.1
      exact .inl ⟨ha.1, completes_newReconnect ha.1 hb hload hload' hcontext hcontext'⟩
    · have hb : b.deviceId = record.initiatorDeviceId := by
        rcases hlocal' with hb | hb
        · exact hb.1
        · exact absurd (ha.1.trans hb.1.symm) hdistinct
      exact .inr ⟨hb, completes_newReconnect hb ha.1 hload' hload hcontext' hcontext⟩

end Honest

namespace Loopback

attribute [local instance] crypto noise PairingRecord.canonicalSerde transportLaws handshakeLaws
  lawfulCrypto

def pairedHost : Host := endState Host.empty (activation.outcome (crashing 2) Host.empty).visited

def pairedContext : PairedIdentityContext :=
  ⟨pairIdOf 7, deviceIdOf 1, deviceIdOf 2, keyOf 1, keyOf 2, certificate (keyOf 1),
    certificate (keyOf 2)⟩

/-- At first contact at time 100, and long after the certificates have expired. -/
theorem handshake_completes_paired :
    Completes (identity 1) (identity 2)
      (PairingInitiator.new (identity 1) (certificate (keyOf 1)) (deviceIdOf 2) root 100
        (.ok (List.Vector.replicate 16 7)) (keyOf 11))
      (PairingResponder.new (identity 2) (certificate (keyOf 2)) (deviceIdOf 1) root 200)
      (keyOf 12) ∧
    (deviceIdOf 1 = deviceIdOf 1 ∧ Completes (identity 1) (identity 2)
        (PairingInitiator.newReconnect (identity 1) pairedContext (keyOf 11))
        (PairingResponder.newReconnect (identity 2) pairedContext) (keyOf 12) ∨
      deviceIdOf 2 = deviceIdOf 1 ∧ Completes (identity 2) (identity 1)
        (PairingInitiator.newReconnect (identity 2) pairedContext (keyOf 11))
        (PairingResponder.newReconnect (identity 1) pairedContext) (keyOf 12)) := by
  have hdistinct : (identity 1).deviceId ≠ (identity 2).deviceId := by decide +kernel
  have hnow : (certificate (keyOf 1)).verify root 100 = .ok () ∧
      (certificate (keyOf 2)).verify root 100 = .ok () := by decide +kernel
  have hnow' : (certificate (keyOf 1)).verify root 200 = .ok () ∧
      (certificate (keyOf 2)).verify root 200 = .ok () := by decide +kernel
  have hload : (store 5000).load pairedHost (pairIdOf 7) =
      .ok (some (complete (recordOf 7 1 2 2 100) 1 2)) := by decide +kernel
  have hcontext : (store 5000).reconnectContext pairedHost (identity 1) (pairIdOf 7) =
      .ok pairedContext := by decide +kernel
  have hcontext' : (store 5000).reconnectContext pairedHost (identity 2) (pairIdOf 7) =
      .ok pairedContext := by decide +kernel
  constructor
  · exact handshake_completes.1 _ _ _ _ _ _ _ _ _ _ hdistinct ⟨rfl, rfl⟩ ⟨rfl, rfl⟩ hnow hnow'
  · exact handshake_completes.2 _ _ _ _ _ _ _ _ _ _ _ _ _ hdistinct hload hload hcontext
      hcontext'

end Loopback

end OmarchySync
