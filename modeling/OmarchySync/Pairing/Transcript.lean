import OmarchySync.Session
import OmarchySync.Signing

/-!
# Transcripts and authentication payloads

What the two ends of a handshake sign, and the encrypted messages in which they present their
certificates. The transcript determines every field it is made of.
-/

namespace OmarchySync

open Logic Wire

def transcriptMagic : Bytes := ascii "OMARCHY-SYNC-V3-PAIRING-TRANSCRIPT"
def authMagic : Bytes := ascii "OMARCHY-AUTH-V3"
def ackMagic : Bytes := ascii "OMARCHY-AUTH-ACK-V3"

def makeTranscript (hash : Array8 32) (mode : UInt8) (pairId : Text)
    (initiatorCert responderCert : DeviceCertificate)
    (initiatorStatic responderStatic : Array8 32) : Result Bytes := do
  let initiatorCertBytes ← initiatorCert.toBytes
  let responderCertBytes ← responderCert.toBytes
  let pairId ← putBytes boundedField 32 pairId.bytes
  let hash ← putBytes boundedField 32 hash.toList
  let initiatorField ← putBytes boundedField maxCertificateBytes initiatorCertBytes
  let responderField ← putBytes boundedField maxCertificateBytes responderCertBytes
  return transcriptMagic ++ protocolVersion :: mode :: (pairId ++ (hash ++
    roleInitiator :: roleResponder :: (initiatorCert.deviceId.bytes ++
      (responderCert.deviceId.bytes ++ (initiatorField ++ (responderField ++
        (initiatorStatic.toList ++ responderStatic.toList)))))))

theorem makeTranscript_eq_ok (hash : Array8 32) (mode : UInt8) (pairId : Text)
    (initiatorCert responderCert : DeviceCertificate)
    (initiatorStatic responderStatic : Array8 32) (out : Bytes) :
    makeTranscript hash mode pairId initiatorCert responderCert initiatorStatic
        responderStatic = .ok out ↔
      ∃ initiatorBytes responderBytes, initiatorCert.toBytes = .ok initiatorBytes ∧
        responderCert.toBytes = .ok responderBytes ∧ Reader.Bounded 32 pairId.bytes ∧
        out = transcriptMagic ++ protocolVersion :: mode ::
          (beBytes 2 pairId.bytes.length ++ (pairId.bytes ++ (beBytes 2 32 ++ (hash.toList ++
            roleInitiator :: roleResponder :: (initiatorCert.deviceId.bytes ++
              (responderCert.deviceId.bytes ++ (beBytes 2 initiatorBytes.length ++
                (initiatorBytes ++ (beBytes 2 responderBytes.length ++ (responderBytes ++
                  (initiatorStatic.toList ++ responderStatic.toList))))))))))) := by
  have hhash : Reader.Bounded 32 hash.toList := by
    have hlen : hash.toList.length = 32 := hash.toList_length
    refine ⟨?_, hlen.le, by omega⟩
    intro hnil
    simp [hnil] at hlen
  simp only [makeTranscript, bind_eq_ok, putBytes_eq_ok, pure_eq_ok]
  constructor
  · intro h
    obtain ⟨_, hi, _, hr, _, ⟨hpair, rfl⟩, _, ⟨-, rfl⟩, _, ⟨-, rfl⟩, _, ⟨-, rfl⟩, rfl⟩ := h
    exact ⟨_, _, hi, hr, hpair, by simp⟩
  · intro h
    obtain ⟨_, _, hi, hr, hpair, rfl⟩ := h
    exact ⟨_, hi, _, hr, _, ⟨hpair, rfl⟩, _, ⟨hhash, rfl⟩, _,
      ⟨DeviceCertificate.toBytes_bounded hi, rfl⟩, _,
      ⟨DeviceCertificate.toBytes_bounded hr, rfl⟩, by simp⟩

/-- A transcript determines what it was made of. -/
theorem makeTranscript_inj {hash hash' : Array8 32} {mode mode' : UInt8} {pairId pairId' : Text}
    {initiatorCert responderCert initiatorCert' responderCert' : DeviceCertificate}
    {initiatorStatic responderStatic initiatorStatic' responderStatic' : Array8 32} {out : Bytes}
    (h : makeTranscript hash mode pairId initiatorCert responderCert initiatorStatic
      responderStatic = .ok out)
    (h' : makeTranscript hash' mode' pairId' initiatorCert' responderCert' initiatorStatic'
      responderStatic' = .ok out) :
    (hash = hash' ∧ mode = mode' ∧ pairId = pairId' ∧ initiatorCert = initiatorCert' ∧
      responderCert = responderCert') ∧
      initiatorStatic = initiatorStatic' ∧ responderStatic = responderStatic' := by
  obtain ⟨ib, rb, hi, hr, hpair, rfl⟩ := (makeTranscript_eq_ok ..).mp h
  obtain ⟨ib', rb', hi', hr', hpair', heq⟩ := (makeTranscript_eq_ok ..).mp h'
  have hid : ∀ {c : DeviceCertificate} {b}, c.toBytes = .ok b → c.deviceId.bytes.length = 32 :=
    fun hb => ((DeviceCertificate.toBytes_eq_ok ..).mp hb).1.deviceId.1
  have hi₁ := hid hi
  have hi₂ := hid hi'
  have hr₁ := hid hr
  have hr₂ := hid hr'
  simp only [List.append_cancel_left_eq, List.cons.injEq, true_and] at heq
  obtain ⟨hmode, heq⟩ := heq
  obtain ⟨hid, heq⟩ := lengthPrefixed_inj hpair.2.2 hpair'.2.2 heq
  simp only [List.append_cancel_left_eq] at heq
  obtain ⟨hhash, heq⟩ := List.append_inj heq (by simp)
  simp only [List.cons.injEq, true_and] at heq
  obtain ⟨-, heq⟩ := List.append_inj heq (by omega)
  obtain ⟨-, heq⟩ := List.append_inj heq (by omega)
  have hlen : ∀ {c : DeviceCertificate} {b}, c.toBytes = .ok b → b.length < 65536 :=
    fun hb => (DeviceCertificate.toBytes_bounded hb).2.2
  obtain ⟨hib, heq⟩ := lengthPrefixed_inj (hlen hi) (hlen hi') heq
  obtain ⟨hrb, heq⟩ := lengthPrefixed_inj (hlen hr) (hlen hr') heq
  obtain ⟨hstatic, hstatic'⟩ := List.append_inj heq (by simp)
  subst hib hrb
  exact ⟨⟨List.Vector.toList_injective hhash, hmode, Text.ext hid,
    DeviceCertificate.toBytes_injective hi hi', DeviceCertificate.toBytes_injective hr hr'⟩,
    List.Vector.toList_injective hstatic, List.Vector.toList_injective hstatic'⟩

/-- The claims of an authentication payload: certificate, key, DeviceID and signature. -/
structure AuthFields where
  certificate : DeviceCertificate
  publicKey : Array8 32
  deviceId : Text
  signature : Option (Array8 64)

/-- The signature, when exactly as many bytes are left as it takes. -/
def authSignature : Reader (Option (Array8 64)) := do
  if (← Reader.remaining) = 64 then
    return some (← Reader.takeArray pairingCursor 64)
  else
    return none

private def authFields : Reader AuthFields := do
  let magic ← Reader.take pairingCursor authMagic.length
  bailIf (magic ≠ authMagic) "invalid authentication payload"
  let version ← Reader.u8 pairingCursor
  bailIf (version ≠ protocolVersion) "invalid authentication payload"
  let deviceId ← Reader.take pairingCursor 32
  let deviceId ← someOr "invalid peer DeviceID" (Text.ofBytes? deviceId)
  let publicKey ← Reader.takeArray pairingCursor 32
  let certificate ← Reader.bytes pairingCursor maxCertificateBytes
  let certificate ← DeviceCertificate.fromBytes certificate
  let signature ← authSignature
  Reader.finish pairingCursor
  return { certificate, publicKey, deviceId, signature }

def parseAuth (payload : Bytes) : Result AuthFields := Reader.run authFields payload

/-- The bytes of a payload, up to its signature. -/
def authLayout (deviceId : Text) (publicKey : Array8 32) (certificate rest : Bytes) : Bytes :=
  authMagic ++ protocolVersion :: (deviceId.bytes ++ (publicKey.toList ++
    (beBytes 2 certificate.length ++ (certificate ++ rest))))

/-- The bytes of the signature field. -/
def signatureBytes (signature : Option (Array8 64)) : Bytes :=
  (signature.map List.Vector.toList).getD []

private theorem authSignature_eq_ok (bytes : Bytes) (signature : Option (Array8 64)) :
    authSignature bytes = .ok (signature, []) ↔ bytes = signatureBytes signature := by
  simp only [authSignature, Reader.bind_eq_ok, Reader.remaining_eq_ok]
  constructor
  · intro h
    obtain ⟨_, _, ⟨rfl, rfl⟩, h⟩ := h
    split at h
    · simp only [Reader.bind_eq_ok, Reader.takeArray_eq_ok, Reader.pure_eq_ok] at h
      obtain ⟨s, _, rfl, rfl, rfl⟩ := h
      simp [signatureBytes]
    · obtain ⟨rfl, rfl⟩ := (Reader.pure_eq_ok ..).mp h
      rfl
  · intro h
    subst h
    refine ⟨_, _, ⟨rfl, rfl⟩, ?_⟩
    cases signature with
    | none => rfl
    | some s =>
        simp only [signatureBytes, Option.map_some, Option.getD_some, List.Vector.toList_length,
          if_true, Reader.bind_eq_ok, Reader.takeArray_eq_ok, Reader.pure_eq_ok]
        exact ⟨s, [], by simp, rfl, rfl⟩

/-- The parser accepts exactly the layouts. -/
theorem parseAuth_eq_ok (payload : Bytes) (a : AuthFields) :
    parseAuth payload = .ok a ↔ a.deviceId.len = 32 ∧ ∃ certificate,
      a.certificate.toBytes = .ok certificate ∧
        payload = authLayout a.deviceId a.publicKey certificate
          (signatureBytes a.signature) := by
  simp only [parseAuth, Reader.run_eq_ok, authFields, Reader.bind_eq_ok, Reader.lift_eq_ok,
    Reader.take_eq_ok, Reader.u8_eq_ok, Reader.takeArray_eq_ok, Reader.bytes_eq_ok,
    Reader.finish_eq_ok, Reader.pure_eq_ok, bailIf_eq_ok, someOr_eq_ok, not_not,
    DeviceCertificate.fromBytes_eq_ok]
  constructor
  · intro h
    obtain ⟨rest, _, _, ⟨_, rfl⟩, _, _, ⟨rfl, rfl⟩, _, _, rfl, _, _, ⟨rfl, rfl⟩, id, _, ⟨hlen, rfl⟩,
      deviceId, _, ⟨hid, rfl⟩, key, _, rfl, bytes, _, ⟨-, rfl⟩, cert, _, ⟨hcert, rfl⟩, s, _, hsig,
      _, _, ⟨rfl, rfl⟩, rfl, rfl⟩ := h
    rw [authSignature_eq_ok] at hsig
    have hbytes := Text.bytes_of_ofBytes? hid
    refine ⟨?_, bytes, hcert, ?_⟩
    · rw [Text.len, hbytes, hlen]
    · simp [authLayout, hbytes, hsig]
  · intro h
    obtain ⟨hlen, bytes, hcert, rfl⟩ := h
    exact ⟨[], _, _, ⟨rfl, rfl⟩, (), _, ⟨rfl, rfl⟩, _, _, rfl, (), _, ⟨rfl, rfl⟩, _, _, ⟨hlen, rfl⟩,
      _, _, ⟨Text.ofBytes?_bytes _, rfl⟩, _, _, rfl, _, _,
      ⟨DeviceCertificate.toBytes_bounded hcert, rfl⟩, _, _, ⟨hcert, rfl⟩, _, [],
      (authSignature_eq_ok ..).mpr rfl, (), [], ⟨rfl, rfl⟩, rfl, rfl⟩

def authHello (cert : DeviceCertificate) : Result Bytes := do
  let bytes ← cert.toBytes
  let parsed ← DeviceCertificate.fromBytes bytes
  let field ← putBytes boundedField maxCertificateBytes bytes
  return authMagic ++ protocolVersion :: (parsed.deviceId.bytes ++
    (parsed.publicKey.toList ++ field))

theorem authHello_eq_ok (cert : DeviceCertificate) (out : Bytes) :
    authHello cert = .ok out ↔ ∃ bytes, cert.toBytes = .ok bytes ∧
      out = authLayout cert.deviceId cert.publicKey bytes [] := by
  simp only [authHello, bind_eq_ok, putBytes_eq_ok, pure_eq_ok]
  constructor
  · intro h
    obtain ⟨bytes, hbytes, parsed, hparsed, _, ⟨-, rfl⟩, rfl⟩ := h
    rw [DeviceCertificate.fromBytes_eq_ok] at hparsed
    obtain rfl := DeviceCertificate.toBytes_injective hparsed hbytes
    exact ⟨bytes, hbytes, by simp [authLayout]⟩
  · intro h
    obtain ⟨bytes, hbytes, rfl⟩ := h
    exact ⟨bytes, hbytes, cert, (DeviceCertificate.fromBytes_eq_ok ..).mpr hbytes, _,
      ⟨DeviceCertificate.toBytes_bounded hbytes, rfl⟩, by simp [authLayout]⟩

end OmarchySync
