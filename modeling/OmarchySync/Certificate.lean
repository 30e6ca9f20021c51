import OmarchySync.Identity

/-!
# Device certificates and announcements

The signed records of the enrollment layer. A certificate has one accepted wire form: the
decoder accepts exactly the bytes the encoder produces.
-/

namespace OmarchySync

open Logic Wire

def protocolVersion : UInt8 := 3
def maxCertificateBytes : Nat := 512
def maxDeviceNameBytes : Nat := 64
def maxIssuerKeyIdBytes : Nat := 64

def certMagic : Bytes := ascii "OMARCHY-CERT-V3"
def discoveryMagic : Bytes := ascii "OMARCHY-DISCOVERY-V3"
def certSchema : UInt8 := 1

/-- The cursor of the protocol-v3 records. -/
def protocolCursor : Dialect where
  truncated := "truncated protocol-v3 message"
  overLimit := "bounded field exceeds limit"
  trailing := "trailing protocol-v3 bytes"
  notUtf8 := "bounded field is not UTF-8"

def boundedField : String := "bounded field has invalid length"

/-- The bytes an issuer key id may contain. -/
def isKeyIdByte (b : UInt8) : Bool :=
  (48 ≤ b && b ≤ 57) || (65 ≤ b && b ≤ 90) || (97 ≤ b && b ≤ 122) || b == 45 || b == 95

/-- A certificate issued by the external Omarchy enrollment authority. -/
structure DeviceCertificate where
  deviceId : Text
  publicKey : Array8 32
  deviceName : Text
  notBefore : UInt64
  notAfter : UInt64
  issuerKeyId : Text
  signature : Array8 64
  deriving DecidableEq

namespace DeviceCertificate

def validateShape (c : DeviceCertificate) : Result Unit := do
  bailIf (badHexId c.deviceId) "invalid certificate DeviceID"
  bailIf (c.deviceName.bytes = [] ∨ c.deviceName.len > maxDeviceNameBytes)
    "invalid certified device name"
  bailIf (c.notAfter ≤ c.notBefore) "invalid certificate validity window"
  bailIf (c.issuerKeyId.bytes = [] ∨ c.issuerKeyId.len > maxIssuerKeyIdBytes ∨
    ¬c.issuerKeyId.bytes.all isKeyIdByte) "invalid issuer key id"

/-- The certificates `validateShape` lets through. -/
structure Shaped (c : DeviceCertificate) : Prop where
  deviceId : HexId c.deviceId
  deviceName : c.deviceName.bytes ≠ [] ∧ c.deviceName.len ≤ maxDeviceNameBytes
  window : c.notBefore < c.notAfter
  issuerKeyId : c.issuerKeyId.bytes ≠ [] ∧ c.issuerKeyId.len ≤ maxIssuerKeyIdBytes ∧
    c.issuerKeyId.bytes.all isKeyIdByte = true

theorem validateShape_eq_ok (c : DeviceCertificate) (u : Unit) :
    c.validateShape = .ok u ↔ c.Shaped := by
  simp only [validateShape, bind_eq_ok, bailIf_eq_ok, not_badHexId_iff, exists_const, not_or,
    not_lt, gt_iff_lt, not_not]
  constructor
  · rintro ⟨hid, hname, hwindow, hissuer⟩
    exact ⟨hid, hname, UInt64.not_le.mp hwindow, hissuer⟩
  · rintro ⟨hid, hname, hwindow, hissuer⟩
    exact ⟨hid, hname, UInt64.not_le.mpr hwindow, hissuer⟩

/-- Canonical bytes covered by the issuer signature. -/
def signingBytes (c : DeviceCertificate) : Result Bytes := do
  c.validateShape
  let name ← putBytes boundedField maxDeviceNameBytes c.deviceName.bytes
  let issuer ← putBytes boundedField maxIssuerKeyIdBytes c.issuerKeyId.bytes
  return certMagic ++ certSchema :: (c.deviceId.bytes ++ (c.publicKey.toList ++ (name ++
    (beBytes 8 c.notBefore.toNat ++ (beBytes 8 c.notAfter.toNat ++ issuer)))))

def toBytes (c : DeviceCertificate) : Result Bytes := do
  let out := (← c.signingBytes) ++ c.signature.toList
  bailIf (out.length > maxCertificateBytes) "certificate exceeds size limit"
  return out

/-- The signed fields, in wire order, in front of `rest`. -/
def layout (c : DeviceCertificate) (rest : Bytes) : Bytes :=
  certMagic ++ certSchema :: (c.deviceId.bytes ++ (c.publicKey.toList ++
    (beBytes 2 c.deviceName.len ++ (c.deviceName.bytes ++ (beBytes 8 c.notBefore.toNat ++
      (beBytes 8 c.notAfter.toNat ++ (beBytes 2 c.issuerKeyId.len ++
        (c.issuerKeyId.bytes ++ rest))))))))

theorem Shaped.nameBounded {c : DeviceCertificate} (h : c.Shaped) :
    Reader.Bounded maxDeviceNameBytes c.deviceName.bytes := by
  refine ⟨h.deviceName.1, h.deviceName.2, ?_⟩
  have hlen : c.deviceName.bytes.length ≤ 64 := h.deviceName.2
  omega

theorem Shaped.issuerBounded {c : DeviceCertificate} (h : c.Shaped) :
    Reader.Bounded maxIssuerKeyIdBytes c.issuerKeyId.bytes := by
  refine ⟨h.issuerKeyId.1, h.issuerKeyId.2.1, ?_⟩
  have hlen : c.issuerKeyId.bytes.length ≤ 64 := h.issuerKeyId.2.1
  omega

theorem signingBytes_eq_ok (c : DeviceCertificate) (out : Bytes) :
    c.signingBytes = .ok out ↔ c.Shaped ∧ out = c.layout [] := by
  simp only [signingBytes, bind_eq_ok, validateShape_eq_ok, putBytes_eq_ok, pure_eq_ok,
    exists_const]
  constructor
  · rintro ⟨h, name, ⟨hname, rfl⟩, issuer, ⟨hissuer, rfl⟩, rfl⟩
    exact ⟨h, by simp [layout, Text.len]⟩
  · rintro ⟨h, rfl⟩
    refine ⟨h, _, ⟨h.nameBounded, rfl⟩, _, ⟨h.issuerBounded, rfl⟩, ?_⟩
    simp [layout, Text.len]

private theorem layout_append (c : DeviceCertificate) (rest : Bytes) :
    c.layout [] ++ rest = c.layout rest := by
  simp [layout]

theorem layout_length_le {c : DeviceCertificate} (h : c.Shaped) (rest : Bytes) :
    (c.layout rest).length ≤ 228 + rest.length := by
  have hid : c.deviceId.bytes.length = 32 := h.deviceId.1
  have hname : c.deviceName.bytes.length ≤ 64 := h.deviceName.2
  have hissuer : c.issuerKeyId.bytes.length ≤ 64 := h.issuerKeyId.2.1
  have hmagic : certMagic.length = 15 := rfl
  simp only [layout, List.length_append, List.length_cons, beBytes_length, hid, hmagic,
    List.Vector.toList_length]
  omega

theorem toBytes_eq_ok (c : DeviceCertificate) (out : Bytes) :
    c.toBytes = .ok out ↔ c.Shaped ∧ out = c.layout c.signature.toList := by
  simp only [toBytes, bind_eq_ok, signingBytes_eq_ok, bailIf_eq_ok, pure_eq_ok, exists_const]
  constructor
  · rintro ⟨signed, ⟨h, rfl⟩, _, rfl⟩
    exact ⟨h, layout_append c _⟩
  · rintro ⟨h, rfl⟩
    have hlen := layout_length_le h c.signature.toList
    refine ⟨_, ⟨h, rfl⟩, ?_, layout_append c _⟩
    rw [layout_append]
    simp only [List.Vector.toList_length] at hlen
    simp only [maxCertificateBytes]
    omega

theorem toBytes_bounded {c : DeviceCertificate} {bytes : Bytes}
    (h : c.toBytes = .ok bytes) : Reader.Bounded maxCertificateBytes bytes := by
  obtain ⟨hshape, rfl⟩ := (toBytes_eq_ok c bytes).mp h
  have hlen := layout_length_le hshape c.signature.toList
  rw [List.Vector.toList_length] at hlen
  have hmax : maxCertificateBytes = 512 := rfl
  refine ⟨?_, by omega, by omega⟩
  intro hnil
  have hmagic := congrArg List.length hnil
  simp [layout] at hmagic

private def fields : Reader DeviceCertificate := do
  let magic ← Reader.take protocolCursor certMagic.length
  bailIf (magic ≠ certMagic) "invalid certificate magic"
  let schema ← Reader.u8 protocolCursor
  bailIf (schema ≠ certSchema) "unsupported certificate schema"
  let deviceId ← Reader.take protocolCursor 32
  let deviceId ← someOr "invalid certificate DeviceID" (Text.ofBytes? deviceId)
  let publicKey ← Reader.takeArray protocolCursor 32
  let deviceName ← Reader.string protocolCursor maxDeviceNameBytes
  let notBefore ← Reader.u64 protocolCursor
  let notAfter ← Reader.u64 protocolCursor
  let issuerKeyId ← Reader.string protocolCursor maxIssuerKeyIdBytes
  let signature ← Reader.takeArray protocolCursor 64
  Reader.finish protocolCursor
  return { deviceId, publicKey, deviceName, notBefore, notAfter, issuerKeyId, signature }

def fromBytes (bytes : Bytes) : Result DeviceCertificate := do
  bailIf (bytes.length > maxCertificateBytes) "certificate exceeds size limit"
  let cert ← Reader.run fields bytes
  cert.validateShape
  return cert

private theorem fields_eq_ok (bytes rest : Bytes) (c : DeviceCertificate)
    (h : fields bytes = .ok (c, rest)) : bytes = c.layout c.signature.toList := by
  simp only [fields, Reader.bind_eq_ok, Reader.lift_eq_ok, Reader.take_eq_ok, Reader.u8_eq_ok,
    Reader.takeArray_eq_ok, Reader.string_eq_ok, Reader.u64_eq_ok, Reader.finish_eq_ok,
    Reader.pure_eq_ok, bailIf_eq_ok, someOr_eq_ok, not_not] at h
  obtain ⟨_, _, ⟨_, rfl⟩, _, _, ⟨rfl, rfl⟩, _, _, rfl, _, _, ⟨rfl, rfl⟩, id, _, ⟨_, rfl⟩, _, _,
    ⟨hid, rfl⟩, key, _, rfl, name, _, ⟨_, rfl⟩, nb, _, rfl, na, _, rfl, issuer, _, ⟨_, rfl⟩, sig,
    _, rfl, _, _, ⟨rfl, rfl⟩, rfl, _⟩ := h
  rw [← Text.bytes_of_ofBytes? hid]
  simp [layout, Text.len]

private theorem fields_layout {c : DeviceCertificate} (h : c.Shaped) :
    fields (c.layout c.signature.toList) = .ok (c, []) := by
  simp only [fields, Reader.bind_eq_ok, Reader.lift_eq_ok, Reader.take_eq_ok, Reader.u8_eq_ok,
    Reader.takeArray_eq_ok, Reader.string_eq_ok, Reader.u64_eq_ok, Reader.finish_eq_ok,
    Reader.pure_eq_ok, bailIf_eq_ok, someOr_eq_ok, not_not]
  exact ⟨_, _, ⟨rfl, rfl⟩, (), _, ⟨rfl, rfl⟩, _, _, rfl, (), _, ⟨rfl, rfl⟩, _, _,
    ⟨h.deviceId.1, rfl⟩, _, _, ⟨Text.ofBytes?_bytes _, rfl⟩, _, _, rfl, _, _,
    ⟨h.nameBounded, rfl⟩, _, _, rfl, _, _, rfl, _, _, ⟨h.issuerBounded, rfl⟩, _, [],
    (List.append_nil _).symm, (), [], ⟨rfl, rfl⟩, rfl, rfl⟩

theorem fromBytes_eq_ok (bytes : Bytes) (c : DeviceCertificate) :
    fromBytes bytes = .ok c ↔ c.toBytes = .ok bytes := by
  simp only [fromBytes, bind_eq_ok, bailIf_eq_ok, Reader.run_eq_ok, validateShape_eq_ok,
    pure_eq_ok, toBytes_eq_ok, exists_const]
  constructor
  · rintro ⟨_, c', ⟨rest, hfields⟩, hshape, rfl⟩
    exact ⟨hshape, fields_eq_ok _ _ _ hfields⟩
  · rintro ⟨h, rfl⟩
    have hlen := layout_length_le h c.signature.toList
    simp only [List.Vector.toList_length] at hlen
    refine ⟨?_, c, ⟨[], fields_layout h⟩, h, rfl⟩
    simp only [maxCertificateBytes]
    omega

theorem toBytes_injective {c c' : DeviceCertificate} {bytes : Bytes}
    (h : c.toBytes = .ok bytes) (h' : c'.toBytes = .ok bytes) : c = c' := by
  rw [← fromBytes_eq_ok] at h h'
  exact Except.ok.inj (h.symm.trans h')

end DeviceCertificate

variable [Crypto]

def keyIdForPublicKey (key : Array8 32) : Text :=
  hexText ((Crypto.sha256 key.toList).toList.take 16)

/-- A public key explicitly pinned by the Omarchy installation. The constructor parses the
key, so a malformed pin fails before it can be used. -/
structure PinnedOmarchyRoot where
  publicKey : Array8 32
  valid : Crypto.validKey publicKey = true

namespace PinnedOmarchyRoot

/-- `PinnedOmarchyRoot::from_bytes` on a raw 32-byte key. -/
def fromBytes (key : Array8 32) : Result PinnedOmarchyRoot :=
  if h : Crypto.validKey key = true then .ok ⟨key, h⟩
  else .error "invalid Omarchy root Ed25519 key"

def keyId (root : PinnedOmarchyRoot) : Text := keyIdForPublicKey root.publicKey

end PinnedOmarchyRoot

namespace DeviceCertificate

/-- Verify the issuer signature, pinned issuer id, device binding and validity window. -/
def verify (c : DeviceCertificate) (root : PinnedOmarchyRoot) (now : UInt64) : Result Unit := do
  bailIf (Crypto.validKey root.publicKey = false) "Cannot decompress Edwards point"
  let signed ← c.signingBytes
  bailIf (Crypto.verifyStrict root.publicKey signed c.signature = false)
    "invalid Omarchy certificate issuer signature"
  bailIf (c.issuerKeyId ≠ root.keyId) "certificate issuer key id is not pinned"
  bailIf (c.deviceId ≠ deviceIdForPublicKey c.publicKey)
    "certificate DeviceID does not match public key"
  bailIf (now < c.notBefore) "certificate is not yet valid"
  bailIf (now ≥ c.notAfter) "certificate has expired"

/-- A certificate of the pinned root, whatever the time. -/
structure IssuedBy (c : DeviceCertificate) (root : PinnedOmarchyRoot) : Prop where
  shaped : c.Shaped
  signed : Crypto.verifyStrict root.publicKey (c.layout []) c.signature = true
  issuerKeyId : c.issuerKeyId = root.keyId
  deviceId : c.deviceId = deviceIdForPublicKey c.publicKey

/-- The validity window, closed below and open above. -/
def ValidAt (c : DeviceCertificate) (now : UInt64) : Prop := c.notBefore ≤ now ∧ now < c.notAfter

instance (c : DeviceCertificate) (now : UInt64) : Decidable (c.ValidAt now) :=
  inferInstanceAs (Decidable (_ ∧ _))

theorem verify_eq_ok (c : DeviceCertificate) (root : PinnedOmarchyRoot) (now : UInt64) (u : Unit) :
    c.verify root now = .ok u ↔ c.IssuedBy root ∧ c.ValidAt now := by
  simp only [verify, bind_eq_ok, bailIf_eq_ok, signingBytes_eq_ok, exists_const, root.valid,
    Bool.true_eq_false, not_false_eq_true, true_and, not_not, Bool.not_eq_false, ValidAt]
  constructor
  · rintro ⟨_, ⟨hshape, rfl⟩, hsig, hissuer, hid, hlow, hhigh⟩
    exact ⟨⟨hshape, hsig, hissuer, hid⟩, UInt64.not_lt.mp hlow, UInt64.not_le.mp hhigh⟩
  · rintro ⟨⟨hshape, hsig, hissuer, hid⟩, hlow, hhigh⟩
    exact ⟨_, ⟨hshape, rfl⟩, hsig, hissuer, hid, UInt64.not_lt.mpr hlow, UInt64.not_le.mpr hhigh⟩

end DeviceCertificate

/-- An authenticated LAN announcement. -/
structure DiscoveryAnnouncement where
  protocolVersion : UInt8
  certificate : DeviceCertificate
  nonce : Array8 32
  timestamp : UInt64
  port : UInt16
  signature : Array8 64
  deriving DecidableEq

/-- The bytes an announcement's device signature covers. -/
def DiscoveryAnnouncement.signingBytes (a : DiscoveryAnnouncement) : Result Bytes := do
  bailIf (a.protocolVersion ≠ OmarchySync.protocolVersion) "unsupported protocol version"
  let cert ← a.certificate.toBytes
  let cert ← putBytes boundedField maxCertificateBytes cert
  return discoveryMagic ++ a.protocolVersion :: (cert ++ (a.nonce.toList ++
    (beBytes 8 a.timestamp.toNat ++ beBytes 2 a.port.toNat)))

/-- Announce `certificate` under the local identity. -/
def DiscoveryAnnouncement.sign (identity : DeviceIdentity) (certificate : DeviceCertificate)
    (nonce : Array8 32) (timestamp : UInt64) (port : UInt16) : Result DiscoveryAnnouncement := do
  bailIf (certificate.publicKey ≠ identity.publicKey ∨ certificate.deviceId ≠ identity.deviceId)
    "certificate does not belong to discovery identity"
  bailIf (port = 0) "discovery TCP port must not be zero"
  let unsigned : DiscoveryAnnouncement :=
    { protocolVersion := OmarchySync.protocolVersion, certificate, nonce, timestamp, port,
      signature := List.Vector.replicate 64 0 }
  let message ← unsigned.signingBytes
  return { unsigned with signature := identity.sign message }

end OmarchySync
