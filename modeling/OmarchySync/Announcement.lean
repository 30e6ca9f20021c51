import OmarchySync.Loopback

/-!
# The announcement codec

Certificates and announcements have one accepted wire form each: the decoders accept exactly
what the encoders produce, and no accepted input continues another one.
-/

namespace OmarchySync

open Logic Wire

def maxDiscoveryBytes : Nat := 2048

namespace DeviceCertificate

/-- The fields that the issuer signs. -/
def unsigned (c : DeviceCertificate) : DeviceCertificate :=
  { c with signature := List.Vector.replicate 64 0 }

/-- The signed bytes determine the signed fields and end where the rest begins. -/
theorem layout_inj {c c' : DeviceCertificate} (hc : c.Shaped) (hc' : c'.Shaped) {x y : Bytes}
    (h : c.layout x = c'.layout y) : c.unsigned = c'.unsigned ∧ x = y := by
  have hid : c.deviceId.bytes.length = 32 := hc.deviceId.1
  have hid' : c'.deviceId.bytes.length = 32 := hc'.deviceId.1
  have hname := hc.nameBounded.2.2
  have hname' := hc'.nameBounded.2.2
  have hissuer := hc.issuerBounded.2.2
  have hissuer' := hc'.issuerBounded.2.2
  simp only [layout, List.append_cancel_left_eq, List.cons.injEq, true_and, Text.len] at h
  obtain ⟨hdevice, h⟩ := List.append_inj h (by omega)
  obtain ⟨hkey, h⟩ := List.append_inj h (by simp)
  obtain ⟨hdeviceName, h⟩ := lengthPrefixed_inj hname hname' h
  obtain ⟨hbefore, h⟩ := List.append_inj h (by simp)
  obtain ⟨hafter, h⟩ := List.append_inj h (by simp)
  obtain ⟨hissuerKeyId, hrest⟩ := lengthPrefixed_inj hissuer hissuer' h
  have hnotBefore : c.notBefore = c'.notBefore :=
    UInt64.toNat_inj.mp (beBytes_injective 8 _ _ c.notBefore.toNat_lt c'.notBefore.toNat_lt hbefore)
  have hnotAfter : c.notAfter = c'.notAfter :=
    UInt64.toNat_inj.mp (beBytes_injective 8 _ _ c.notAfter.toNat_lt c'.notAfter.toNat_lt hafter)
  refine ⟨?_, hrest⟩
  simp only [unsigned, mk.injEq, and_true]
  exact ⟨Text.ext hdevice, List.Vector.toList_injective hkey, Text.ext hdeviceName, hnotBefore,
    hnotAfter, Text.ext hissuerKeyId⟩

private theorem toBytes_prefix_free {c c' : DeviceCertificate} {bytes more : Bytes}
    (h : c.toBytes = .ok bytes) (h' : c'.toBytes = .ok (bytes ++ more)) : more = [] := by
  obtain ⟨hc, rfl⟩ := (toBytes_eq_ok ..).mp h
  obtain ⟨hc', heq⟩ := (toBytes_eq_ok ..).mp h'
  have happend : c.layout c.signature.toList ++ more = c.layout (c.signature.toList ++ more) := by
    simp [layout]
  obtain ⟨-, hrest⟩ := layout_inj hc hc' (happend ▸ heq)
  have hlength := congrArg List.length hrest
  simp only [List.length_append, List.Vector.toList_length] at hlength
  exact List.length_eq_zero_iff.mp (by omega)

end DeviceCertificate

namespace DiscoveryAnnouncement

/-- The signed fields, in wire order, in front of `rest`. -/
def layout (a : DiscoveryAnnouncement) (certificate rest : Bytes) : Bytes :=
  discoveryMagic ++ a.protocolVersion :: (beBytes 2 certificate.length ++ (certificate ++
    (a.nonce.toList ++ (beBytes 8 a.timestamp.toNat ++ (beBytes 2 a.port.toNat ++ rest)))))

def toBytes (a : DiscoveryAnnouncement) : Result Bytes := do
  let out := (← a.signingBytes) ++ a.signature.toList
  bailIf (out.length > maxDiscoveryBytes) "discovery announcement exceeds size limit"
  return out

theorem signingBytes_eq_ok (a : DiscoveryAnnouncement) (out : Bytes) :
    a.signingBytes = .ok out ↔ a.protocolVersion = OmarchySync.protocolVersion ∧
      ∃ certificate, a.certificate.toBytes = .ok certificate ∧ out = a.layout certificate [] := by
  simp only [signingBytes, bind_eq_ok, bailIf_eq_ok, putBytes_eq_ok, pure_eq_ok, exists_const,
    not_not]
  constructor
  · intro h
    obtain ⟨hversion, certificate, hcert, _, ⟨-, rfl⟩, rfl⟩ := h
    exact ⟨hversion, certificate, hcert, by simp [layout]⟩
  · intro h
    obtain ⟨hversion, certificate, hcert, rfl⟩ := h
    exact ⟨hversion, certificate, hcert, _, ⟨DeviceCertificate.toBytes_bounded hcert, rfl⟩,
      by simp [layout]⟩

private theorem layout_append (a : DiscoveryAnnouncement) (certificate rest more : Bytes) :
    a.layout certificate rest ++ more = a.layout certificate (rest ++ more) := by
  simp [layout]

private theorem layout_length (a : DiscoveryAnnouncement) (certificate rest : Bytes) :
    (a.layout certificate rest).length = 65 + certificate.length + rest.length := by
  have hmagic : discoveryMagic.length = 20 := rfl
  simp only [layout, List.length_append, List.length_cons, beBytes_length, hmagic,
    List.Vector.toList_length]
  omega

theorem toBytes_eq_ok (a : DiscoveryAnnouncement) (out : Bytes) :
    a.toBytes = .ok out ↔ a.protocolVersion = OmarchySync.protocolVersion ∧
      ∃ certificate, a.certificate.toBytes = .ok certificate ∧
        out = a.layout certificate a.signature.toList := by
  simp only [toBytes, bind_eq_ok, signingBytes_eq_ok, bailIf_eq_ok, pure_eq_ok, exists_const]
  constructor
  · intro h
    obtain ⟨_, ⟨hversion, certificate, hcert, rfl⟩, _, rfl⟩ := h
    exact ⟨hversion, certificate, hcert, layout_append ..⟩
  · intro h
    obtain ⟨hversion, certificate, hcert, rfl⟩ := h
    have hlength : certificate.length ≤ 512 := (DeviceCertificate.toBytes_bounded hcert).2.1
    refine ⟨_, ⟨hversion, certificate, hcert, rfl⟩, ?_, layout_append ..⟩
    rw [layout_append, layout_length, List.nil_append, List.Vector.toList_length, maxDiscoveryBytes]
    omega

private def fields : Reader DiscoveryAnnouncement := do
  let magic ← Reader.take protocolCursor discoveryMagic.length
  bailIf (magic ≠ discoveryMagic) "invalid discovery magic"
  let protocolVersion ← Reader.u8 protocolCursor
  let certificate ← Reader.bytes protocolCursor maxCertificateBytes
  let certificate ← DeviceCertificate.fromBytes certificate
  let nonce ← Reader.takeArray protocolCursor 32
  let timestamp ← Reader.u64 protocolCursor
  let port ← Reader.u16 protocolCursor
  bailIf (port = 0) "discovery TCP port must not be zero"
  let signature ← Reader.takeArray protocolCursor 64
  Reader.finish protocolCursor
  return { protocolVersion, certificate, nonce, timestamp, port, signature }

def fromBytes (bytes : Bytes) : Result DiscoveryAnnouncement := do
  bailIf (bytes.length > maxDiscoveryBytes) "discovery announcement exceeds size limit"
  Reader.run fields bytes

/-- The decoder accepts exactly the layouts under a nonzero port; it leaves the version to its
callers. -/
theorem fromBytes_eq_ok (bytes : Bytes) (a : DiscoveryAnnouncement) :
    fromBytes bytes = .ok a ↔ a.port ≠ 0 ∧ ∃ certificate,
      a.certificate.toBytes = .ok certificate ∧
        bytes = a.layout certificate a.signature.toList := by
  simp only [fromBytes, Reader.run_eq_ok, fields, Reader.bind_eq_ok, Reader.lift_eq_ok,
    Reader.take_eq_ok, Reader.u8_eq_ok, Reader.takeArray_eq_ok, Reader.bytes_eq_ok,
    Reader.u64_eq_ok, Reader.u16_eq_ok, Reader.finish_eq_ok, Reader.pure_eq_ok, bind_eq_ok,
    bailIf_eq_ok, not_not, DeviceCertificate.fromBytes_eq_ok]
  constructor
  · intro h
    obtain ⟨_, -, rest, _, _, ⟨_, rfl⟩, _, _, ⟨rfl, rfl⟩, version, _, rfl, bytes, _, ⟨-, rfl⟩, cert, _,
      ⟨hcert, rfl⟩, nonce, _, rfl, timestamp, _, rfl, port, _, rfl, _, _, ⟨hport, rfl⟩, signature, _,
      rfl, _, _, ⟨rfl, rfl⟩, rfl, rfl⟩ := h
    exact ⟨hport, bytes, hcert, by simp [layout]⟩
  · intro h
    obtain ⟨hport, certificate, hcert, rfl⟩ := h
    have hbounded := DeviceCertificate.toBytes_bounded hcert
    have hlength : certificate.length ≤ 512 := hbounded.2.1
    have hfits : ¬(a.layout certificate a.signature.toList).length > maxDiscoveryBytes := by
      rw [layout_length, List.Vector.toList_length, maxDiscoveryBytes]
      omega
    exact ⟨(), hfits, [], _, _, ⟨rfl, rfl⟩, (), _, ⟨rfl, rfl⟩, _, _, rfl, _, _, ⟨hbounded, rfl⟩, _, _,
      ⟨hcert, rfl⟩, _, _, rfl, _, _, rfl, _, _, rfl, (), _, ⟨hport, rfl⟩, _, [],
      (List.append_nil _).symm, (), [], ⟨rfl, rfl⟩, rfl, rfl⟩

/-- The fields that the device signs. -/
def unsigned (a : DiscoveryAnnouncement) : DiscoveryAnnouncement :=
  { a with signature := List.Vector.replicate 64 0 }

theorem layout_inj {a a' : DiscoveryAnnouncement} {certificate certificate' x y : Bytes}
    (ha : a.certificate.toBytes = .ok certificate)
    (ha' : a'.certificate.toBytes = .ok certificate')
    (h : a.layout certificate x = a'.layout certificate' y) : a.unsigned = a'.unsigned ∧ x = y := by
  have hlen := (DeviceCertificate.toBytes_bounded ha).2.2
  have hlen' := (DeviceCertificate.toBytes_bounded ha').2.2
  simp only [layout, List.append_cancel_left_eq, List.cons.injEq] at h
  obtain ⟨hversion, h⟩ := h
  obtain ⟨hcert, h⟩ := lengthPrefixed_inj hlen hlen' h
  obtain ⟨hnonce, h⟩ := List.append_inj h (by simp)
  obtain ⟨htime, h⟩ := List.append_inj h (by simp)
  obtain ⟨hport, hrest⟩ := List.append_inj h (by simp)
  have htimestamp : a.timestamp = a'.timestamp :=
    UInt64.toNat_inj.mp (beBytes_injective 8 _ _ a.timestamp.toNat_lt a'.timestamp.toNat_lt htime)
  have hportEq : a.port = a'.port :=
    UInt16.toNat_inj.mp (beBytes_injective 2 _ _ a.port.toNat_lt a'.port.toNat_lt hport)
  refine ⟨?_, hrest⟩
  simp only [unsigned, mk.injEq, and_true]
  exact ⟨hversion, DeviceCertificate.toBytes_injective ha (hcert ▸ ha'),
    List.Vector.toList_injective hnonce, htimestamp, hportEq⟩

private theorem fromBytes_prefix_free {a a' : DiscoveryAnnouncement} {bytes more : Bytes}
    (h : fromBytes bytes = .ok a) (h' : fromBytes (bytes ++ more) = .ok a') : more = [] := by
  obtain ⟨-, certificate, hcert, rfl⟩ := (fromBytes_eq_ok ..).mp h
  obtain ⟨-, certificate', hcert', heq⟩ := (fromBytes_eq_ok ..).mp h'
  rw [layout_append] at heq
  obtain ⟨-, hrest⟩ := layout_inj hcert hcert' heq
  have hlength := congrArg List.length hrest
  simp only [List.length_append, List.Vector.toList_length] at hlength
  exact List.length_eq_zero_iff.mp (by omega)

end DiscoveryAnnouncement

private theorem DeviceCertificate.fromBytes_canonical :
    Canonical DeviceCertificate.fromBytes maxCertificateBytes := by
  constructor
  · intro bytes bytes' c h h'
    rw [DeviceCertificate.fromBytes_eq_ok] at h h'
    exact Except.ok.inj (h.symm.trans h')
  · intro bytes more c c' h h'
    rw [DeviceCertificate.fromBytes_eq_ok] at h h'
    exact DeviceCertificate.toBytes_prefix_free h h'
  · intro bytes c h
    rw [DeviceCertificate.fromBytes_eq_ok] at h
    exact (DeviceCertificate.toBytes_bounded h).2.1

theorem DiscoveryAnnouncement.fromBytes_canonical :
    Canonical DiscoveryAnnouncement.fromBytes maxDiscoveryBytes := by
  constructor
  · intro bytes bytes' a h h'
    obtain ⟨-, certificate, hcert, rfl⟩ := (fromBytes_eq_ok ..).mp h
    obtain ⟨-, certificate', hcert', rfl⟩ := (fromBytes_eq_ok ..).mp h'
    rw [Except.ok.inj (hcert.symm.trans hcert')]
  · intro bytes more a a' h h'
    exact fromBytes_prefix_free h h'
  · intro bytes a h
    simp only [fromBytes, bind_eq_ok, bailIf_eq_ok, not_lt, gt_iff_lt] at h
    obtain ⟨_, hlength, -⟩ := h
    exact hlength

/-- Encoding and decoding invert each other on certificates and on announcements. -/
theorem canonical_encodings :
    ((∀ c : DeviceCertificate, c.validateShape = .ok () → ∃ bytes, c.toBytes = .ok bytes ∧
        bytes.length ≤ maxCertificateBytes ∧ DeviceCertificate.fromBytes bytes = .ok c) ∧
      (∀ bytes c, DeviceCertificate.fromBytes bytes = .ok c → c.toBytes = .ok bytes) ∧
      Canonical DeviceCertificate.fromBytes maxCertificateBytes) ∧
    ((∀ a : DiscoveryAnnouncement, a.protocolVersion = protocolVersion → a.port ≠ 0 →
        a.certificate.validateShape = .ok () → ∃ bytes, a.toBytes = .ok bytes ∧
          bytes.length ≤ maxDiscoveryBytes ∧ DiscoveryAnnouncement.fromBytes bytes = .ok a) ∧
      (∀ bytes a, DiscoveryAnnouncement.fromBytes bytes = .ok a →
        a.protocolVersion = protocolVersion → a.toBytes = .ok bytes) ∧
      Canonical DiscoveryAnnouncement.fromBytes maxDiscoveryBytes) := by
  have hencodes : ∀ c : DeviceCertificate, c.validateShape = .ok () →
      ∃ bytes, c.toBytes = .ok bytes := by
    intro c hc
    exact ⟨_, (DeviceCertificate.toBytes_eq_ok ..).mpr
      ⟨(DeviceCertificate.validateShape_eq_ok ..).mp hc, rfl⟩⟩
  constructor
  · refine ⟨?_, ?_, DeviceCertificate.fromBytes_canonical⟩
    · intro c hc
      obtain ⟨bytes, hbytes⟩ := hencodes c hc
      exact ⟨bytes, hbytes, (DeviceCertificate.toBytes_bounded hbytes).2.1,
        (DeviceCertificate.fromBytes_eq_ok ..).mpr hbytes⟩
    · intro bytes c h
      exact (DeviceCertificate.fromBytes_eq_ok ..).mp h
  · refine ⟨?_, ?_, DiscoveryAnnouncement.fromBytes_canonical⟩
    · intro a hversion hport hc
      obtain ⟨certificate, hcert⟩ := hencodes _ hc
      have hdecode : DiscoveryAnnouncement.fromBytes (a.layout certificate a.signature.toList) =
          .ok a := (DiscoveryAnnouncement.fromBytes_eq_ok ..).mpr ⟨hport, certificate, hcert, rfl⟩
      exact ⟨_, (DiscoveryAnnouncement.toBytes_eq_ok ..).mpr ⟨hversion, certificate, hcert, rfl⟩,
        DiscoveryAnnouncement.fromBytes_canonical.bounded _ _ hdecode, hdecode⟩
    · intro bytes a h hversion
      obtain ⟨-, certificate, hcert, rfl⟩ := (DiscoveryAnnouncement.fromBytes_eq_ok ..).mp h
      exact (DiscoveryAnnouncement.toBytes_eq_ok ..).mpr ⟨hversion, certificate, hcert, rfl⟩

namespace Loopback

attribute [local instance] crypto

def announcement (holder : Array8 32) (nonce : UInt8) (timestamp : UInt64) :
    DiscoveryAnnouncement :=
  let unsigned : DiscoveryAnnouncement :=
    { protocolVersion := protocolVersion
      certificate := certificate holder
      nonce := keyOf nonce
      timestamp := timestamp
      port := 4000
      signature := List.Vector.replicate 64 0 }
  { unsigned with
    signature := signature holder ((unsigned.signingBytes.toOption).getD []) }

theorem canonical_encodings_announcement :
    ∃ bytes, (announcement (keyOf 1) 3 100).toBytes = .ok bytes ∧
      bytes.length ≤ maxDiscoveryBytes ∧
      DiscoveryAnnouncement.fromBytes bytes = .ok (announcement (keyOf 1) 3 100) := by
  have hshape : (certificate (keyOf 1)).validateShape = .ok () := by decide +kernel
  exact canonical_encodings.2.1 _ rfl (by decide) hshape

end Loopback

end OmarchySync
