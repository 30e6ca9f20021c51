import OmarchySync.Loopback
import OmarchySync.Pairing.Handshake

/-!
# The wire formats of the pairing

Frames, start frames and authentication payloads. Each decoder inverts its encoder and accepts
nothing else, and the length of an authentication payload separates hellos from proofs.
-/

namespace OmarchySync

open Logic Wire

/-- The modes a start frame may name. -/
def ValidMode (mode : UInt8) : Prop := mode = modeFirstContact ∨ mode = modeReconnect

section Frames

theorem encodeStartFrame_eq_ok (kind role mode : UInt8) (pairId : Text) (payload out : Bytes)
    (max : Nat) :
    encodeStartFrame kind role mode pairId payload max = .ok out ↔
      HexId pairId ∧ ValidMode mode ∧ 33 + payload.length ≤ 65535 ∧ 54 + payload.length ≤ max ∧
        out = frameLayout kind role 0 (mode :: (pairId.bytes ++ payload)) := by
  simp only [encodeStartFrame, validatePairId, bind_eq_ok, bailIf_eq_ok, not_badHexId_iff,
    exists_const, encodeFrame, encodeFrameWithSequence_eq_ok, List.length_cons, List.length_append,
    ValidMode]
  constructor
  · intro h
    obtain ⟨hid, hmode, hlength, hmax, rfl⟩ := h
    have hpair : pairId.bytes.length = 32 := hid.1
    exact ⟨hid, by tauto, by omega, by omega, rfl⟩
  · intro h
    obtain ⟨hid, hmode, hlength, hmax, rfl⟩ := h
    have hpair : pairId.bytes.length = 32 := hid.1
    exact ⟨hid, by tauto, by omega, by omega, rfl⟩

theorem decodeStartFrame_eq_ok (frame : Bytes) (max : Nat) (mode : UInt8) (pairId : Text)
    (payload : Bytes) :
    decodeStartFrame frame max = .ok (mode, pairId, payload) ↔
      HexId pairId ∧ 33 + payload.length ≤ 65535 ∧ 54 + payload.length ≤ max ∧
        frame = frameLayout kindHandshake roleInitiator 0 (mode :: (pairId.bytes ++ payload)) := by
  simp only [decodeStartFrame, validatePairId, bind_eq_ok, bailIf_eq_ok, someOr_eq_ok, pure_eq_ok,
    not_badHexId_iff, exists_const, Prod.exists, decodeFrame_eq_ok, Prod.mk.injEq, not_or, not_not,
    not_lt]
  constructor
  · intro h
    obtain ⟨kind, role, body, ⟨hmax, ⟨-, hbody, -⟩, -, rfl⟩, ⟨rfl, rfl⟩, hlength, id, hpair, hid,
      rfl, rfl, rfl⟩ := h
    rw [frameLayout_length] at hmax
    cases body with
    | nil => simp at hlength
    | cons mode rest =>
        have hbytes := Text.bytes_of_ofBytes? hpair
        simp only [List.drop_succ_cons, List.drop_zero, List.length_cons, List.headD_cons,
          List.length_drop] at hbytes hbody hlength hmax ⊢
        refine ⟨hid, by omega, by omega, ?_⟩
        rw [hbytes, List.take_append_drop]
  · intro h
    obtain ⟨hid, hlength, hmax, rfl⟩ := h
    have hpair : pairId.bytes.length = 32 := hid.1
    have htake : (pairId.bytes ++ payload).take 32 = pairId.bytes := by
      rw [← hpair, List.take_left]
    have hdrop : (pairId.bytes ++ payload).drop 32 = payload := by
      rw [← hpair, List.drop_left]
    have hbody : (mode :: (pairId.bytes ++ payload)).length = 33 + payload.length := by
      simp only [List.length_cons, List.length_append, hpair]
      omega
    refine ⟨kindHandshake, roleInitiator, mode :: (pairId.bytes ++ payload),
      ⟨?_, ⟨List.cons_ne_nil _ _, ?_, ?_⟩, .inl rfl, rfl⟩, ⟨rfl, rfl⟩, ?_, pairId, ?_, hid, rfl, rfl, ?_⟩
    · rw [frameLayout_length, hbody]
      omega
    · omega
    · omega
    · omega
    · rw [List.drop_succ_cons, List.drop_zero, htake, Text.ofBytes?_bytes]
    · rw [List.drop_succ_cons, hdrop]

end Frames

section Payloads

variable [Crypto]

/-- Some end accepts the payload as a hello. -/
def AcceptedAsHello (payload : Bytes) : Prop :=
  (∃ root now peer, parseAuthHello payload root now = .ok peer) ∨
    ∃ context role peer, parsePairedAuth payload context role false = .ok peer

/-- Some end accepts the payload as a proof. -/
def AcceptedAsProof (payload : Bytes) : Prop :=
  (∃ root now peer, parseAuthProof payload root now = .ok peer) ∨
    ∃ context role peer, parsePairedAuth payload context role true = .ok peer

private theorem parseCurrentAuth_fields {required : Bool} {message : String} {payload : Bytes}
    {root : PinnedOmarchyRoot} {now : UInt64} {peer : PeerAuth}
    (h : parseCurrentAuth required message payload root now = .ok peer) :
    ∃ fields, parseAuth payload = .ok fields ∧ fields.signature.isSome = required := by
  simp only [parseCurrentAuth, bind_eq_ok, bailIf_eq_ok, exists_const, not_not] at h
  obtain ⟨fields, hparse, hsigned, -⟩ := h
  exact ⟨fields, hparse, hsigned⟩

omit [Crypto] in
private theorem parsePairedAuth_fields {required : Bool} {payload : Bytes}
    {context : PairedIdentityContext} {role : UInt8} {peer : PeerAuth}
    (h : parsePairedAuth payload context role required = .ok peer) :
    ∃ fields, parseAuth payload = .ok fields ∧ fields.signature.isSome = required := by
  simp only [parsePairedAuth, bind_eq_ok, bailIf_eq_ok, exists_const, not_not] at h
  obtain ⟨fields, hparse, hsigned, -⟩ := h
  exact ⟨fields, hparse, hsigned⟩

private theorem AcceptedAsHello.fields {payload : Bytes} (h : AcceptedAsHello payload) :
    ∃ fields, parseAuth payload = .ok fields ∧ fields.signature.isSome = false := by
  rcases h with h | h
  · obtain ⟨_, _, _, h⟩ := h
    exact parseCurrentAuth_fields h
  · obtain ⟨_, _, _, h⟩ := h
    exact parsePairedAuth_fields h

private theorem AcceptedAsProof.fields {payload : Bytes} (h : AcceptedAsProof payload) :
    ∃ fields, parseAuth payload = .ok fields ∧ fields.signature.isSome = true := by
  rcases h with h | h
  · obtain ⟨_, _, _, h⟩ := h
    exact parseCurrentAuth_fields h
  · obtain ⟨_, _, _, h⟩ := h
    exact parsePairedAuth_fields h

private theorem not_accepted_of_fields {payload : Bytes} {fields : AuthFields}
    (h : parseAuth payload = .ok fields) :
    (fields.signature.isSome = false → ¬AcceptedAsProof payload) ∧
      (fields.signature.isSome = true → ¬AcceptedAsHello payload) := by
  constructor
  · intro hnone hproof
    obtain ⟨fields', hparse, hsome⟩ := hproof.fields
    rw [h, Except.ok.injEq] at hparse
    rw [← hparse, hnone] at hsome
    cases hsome
  · intro hsome hhello
    obtain ⟨fields', hparse, hnone⟩ := hhello.fields
    rw [h, Except.ok.injEq] at hparse
    rw [← hparse, hsome] at hnone
    cases hnone

omit [Crypto] in
private theorem parseAuth_layout {payload : Bytes} {fields : AuthFields}
    (h : parseAuth payload = .ok fields) : ∃ certificate,
      fields.certificate.toBytes = .ok certificate ∧ fields.deviceId.bytes.length = 32 ∧
        ((fields.signature = none ∧
            payload = authLayout fields.deviceId fields.publicKey certificate []) ∨
          ∃ signature, fields.signature = some signature ∧
            payload = authLayout fields.deviceId fields.publicKey certificate signature.toList) := by
  obtain ⟨hid, certificate, hcert, hpayload⟩ := (parseAuth_eq_ok ..).mp h
  refine ⟨certificate, hcert, hid, ?_⟩
  cases hsignature : fields.signature with
  | none =>
      rw [hsignature] at hpayload
      exact .inl ⟨rfl, hpayload⟩
  | some signature =>
      rw [hsignature] at hpayload
      exact .inr ⟨signature, rfl, hpayload⟩

omit [Crypto] in
private theorem parseAuth_authHello {c : DeviceCertificate} (hc : c.validateShape = .ok ()) :
    ∃ hello, authHello c = .ok hello ∧ parseAuth hello = .ok ⟨c, c.publicKey, c.deviceId, none⟩ ∧
      ∀ signature : Array8 64, parseAuth (hello ++ signature.toList) =
        .ok ⟨c, c.publicKey, c.deviceId, some signature⟩ := by
  have hshaped := (DeviceCertificate.validateShape_eq_ok ..).mp hc
  have hbytes : c.toBytes = .ok _ := (DeviceCertificate.toBytes_eq_ok ..).mpr ⟨hshaped, rfl⟩
  refine ⟨_, (authHello_eq_ok ..).mpr ⟨_, hbytes, rfl⟩, ?_, ?_⟩
  · exact (parseAuth_eq_ok ..).mpr ⟨hshaped.deviceId.1, _, hbytes, rfl⟩
  · intro signature
    exact (parseAuth_eq_ok ..).mpr
      ⟨hshaped.deviceId.1, _, hbytes, by simp [authLayout, signatureBytes]⟩

end Payloads

section Canonical

variable [Crypto]

/-- The formats of the pairing transport, layer by layer. -/
theorem pairing_formats_canonical :
    ((∀ kind role sequence payload max frame, ValidRole role → payload ≠ [] →
        payload.length ≤ 65535 →
        encodeFrameWithSequence kind role sequence payload max = .ok frame →
        decodeFrameWithSequence frame max = .ok (kind, role, sequence, payload)) ∧
      (∀ frame max kind role sequence payload,
        decodeFrameWithSequence frame max = .ok (kind, role, sequence, payload) →
        encodeFrameWithSequence kind role sequence payload max = .ok frame)) ∧
    ((∀ mode pairId payload max frame, ValidMode mode → HexId pairId →
        encodeStartFrame kindHandshake roleInitiator mode pairId payload max = .ok frame →
        decodeStartFrame frame max = .ok (mode, pairId, payload)) ∧
      (∀ frame max mode pairId payload, ValidMode mode →
        decodeStartFrame frame max = .ok (mode, pairId, payload) →
        encodeStartFrame kindHandshake roleInitiator mode pairId payload max = .ok frame)) ∧
    ((∀ c : DeviceCertificate, c.validateShape = .ok () → ∃ hello, authHello c = .ok hello ∧
        parseAuth hello = .ok ⟨c, c.publicKey, c.deviceId, none⟩ ∧
        ∀ signature : Array8 64, parseAuth (hello ++ signature.toList) =
          .ok ⟨c, c.publicKey, c.deviceId, some signature⟩) ∧
      (∀ payload fields, parseAuth payload = .ok fields → ∃ certificate,
        fields.certificate.toBytes = .ok certificate ∧ fields.deviceId.bytes.length = 32 ∧
          ((fields.signature = none ∧
              payload = authLayout fields.deviceId fields.publicKey certificate []) ∨
            ∃ signature, fields.signature = some signature ∧
              payload = authLayout fields.deviceId fields.publicKey certificate
                signature.toList)) ∧
      (∀ payload, AcceptedAsHello payload → ¬AcceptedAsProof payload) ∧
      (∀ c hello, authHello c = .ok hello → ¬AcceptedAsProof hello) ∧
      (∀ c identity transcript role proof, authProof c identity transcript role = .ok proof →
        ¬AcceptedAsHello proof)) := by
  refine ⟨⟨?_, ?_⟩, ⟨?_, ?_⟩, ?_, ?_, ?_, ?_, ?_⟩
  · intro kind role sequence payload max frame hrole hne _ hencode
    exact decodeFrameWithSequence_encode hencode hrole hne
  · intro frame max kind role sequence payload hdecode
    obtain ⟨hmax, hpayload, -, rfl⟩ := (decodeFrameWithSequence_eq_ok ..).mp hdecode
    rw [frameLayout_length] at hmax
    exact (encodeFrameWithSequence_eq_ok ..).mpr ⟨hpayload.2.1, hmax, rfl⟩
  · intro mode pairId payload max frame _ _ hencode
    obtain ⟨hid, -, hlength, hmax, hframe⟩ := (encodeStartFrame_eq_ok ..).mp hencode
    exact (decodeStartFrame_eq_ok ..).mpr ⟨hid, hlength, hmax, hframe⟩
  · intro frame max mode pairId payload hmode hdecode
    obtain ⟨hid, hlength, hmax, hframe⟩ := (decodeStartFrame_eq_ok ..).mp hdecode
    exact (encodeStartFrame_eq_ok ..).mpr ⟨hid, hmode, hlength, hmax, hframe⟩
  · intro c hc
    exact parseAuth_authHello hc
  · intro payload fields hparse
    exact parseAuth_layout hparse
  · intro payload hhello
    obtain ⟨fields, hparse, hnone⟩ := hhello.fields
    exact (not_accepted_of_fields hparse).1 hnone
  · intro c hello hhello
    obtain ⟨bytes, hbytes, rfl⟩ := (authHello_eq_ok ..).mp hhello
    have hid := ((DeviceCertificate.toBytes_eq_ok ..).mp hbytes).1.deviceId.1
    have hparse := (parseAuth_eq_ok _ ⟨c, c.publicKey, c.deviceId, none⟩).mpr
      ⟨hid, bytes, hbytes, rfl⟩
    exact (not_accepted_of_fields hparse).1 rfl
  · intro c identity transcript role proof hproof
    obtain ⟨bytes, hbytes, rfl⟩ := (authProof_eq_ok ..).mp hproof
    have hid := ((DeviceCertificate.toBytes_eq_ok ..).mp hbytes).1.deviceId.1
    have hparse := (parseAuth_eq_ok _ ⟨c, c.publicKey, c.deviceId,
      some (identity.sign (signedMessage transcript role))⟩).mpr ⟨hid, bytes, hbytes, rfl⟩
    exact (not_accepted_of_fields hparse).2 rfl

end Canonical

namespace Loopback

attribute [local instance] crypto

/-- A start frame at the limit of its length field. -/
theorem pairing_formats_canonical_longest :
    decodeStartFrame (frameLayout kindHandshake roleInitiator 0
      (modeReconnect :: ((hexText (List.replicate 16 7)).bytes ++ List.replicate 65502 0))) 65556 =
      .ok (modeReconnect, hexText (List.replicate 16 7), List.replicate 65502 0) := by
  have hid : HexId (hexText (List.replicate 16 7)) := hexId_hexText _ (by simp)
  apply pairing_formats_canonical.2.1.1 _ _ _ _ _ (.inr rfl) hid
  rw [encodeStartFrame_eq_ok, List.length_replicate]
  exact ⟨hid, .inr rfl, by omega, by omega, rfl⟩

end Loopback

end OmarchySync
