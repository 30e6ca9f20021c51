import OmarchySync.Runtime.PeerCache
import OmarchySync.Signing

/-!
# The routing preface

The first frame of a connection names the caller, under the caller's signature. The listener
reads the name to find the announcement of the caller, and then checks the frame against it.
-/

namespace OmarchySync

open Logic Wire

variable [Crypto]

/-- The bytes of a preface in front of its signature. -/
def routeSigned (deviceId : Text) : Bytes := routeMagic ++ deviceId.bytes

def routePreface (identity : DeviceIdentity) : Bytes :=
  let signed := routeSigned identity.deviceId
  signed ++ (identity.sign signed).toList

def verifyRoutePreface (bytes : Bytes) (peer : CachedPeer) : Result Unit := do
  bailIf (bytes.length ≠ routeMagic.length + 32 + 64 ∨ ¬routeMagic <+: bytes)
    "invalid protocol-v3 routing preface"
  let idStart := routeMagic.length
  let idEnd := idStart + 32
  let deviceId ← someOr "invalid utf-8 sequence" (Text.ofBytes? ((bytes.take idEnd).drop idStart))
  bailIf (deviceId ≠ peer.discovery.deviceId) "routing preface DeviceID differs from discovery"
  let signature ← exactly 64 "called `Result::unwrap()` on an `Err` value" (bytes.drop idEnd)
  verifyWithKey "invalid routing preface signature" peer.discovery.publicKey (bytes.take idEnd)
    signature

def routeDeviceId (bytes : Bytes) : Option Text :=
  let start := routeMagic.length
  let fin := start + 32
  if bytes.length = fin + 64 ∧ routeMagic <+: bytes then
    Text.ofBytes? ((bytes.take fin).drop start)
  else none

/-- A preface of the given device under the given key. -/
structure Routes (bytes : Bytes) (deviceId : Text) (publicKey : Array8 32) : Prop where
  len : deviceId.len = 32
  validKey : Crypto.validKey publicKey = true
  signed : ∃ signature : Array8 64, bytes = routeSigned deviceId ++ signature.toList ∧
    Crypto.verifyStrict publicKey (routeSigned deviceId) signature = true

section Layout

variable {deviceId : Text} {signature : Array8 64}

omit [Crypto]

private theorem routeSigned_length (hlen : deviceId.len = 32) :
    (routeSigned deviceId).length = routeMagic.length + 32 := by
  rw [routeSigned, List.length_append]
  exact congrArg _ hlen

private theorem preface_length (hlen : deviceId.len = 32) :
    (routeSigned deviceId ++ signature.toList).length = routeMagic.length + 32 + 64 := by
  rw [List.length_append, routeSigned_length hlen, List.Vector.toList_length]

private theorem preface_take (hlen : deviceId.len = 32) :
    (routeSigned deviceId ++ signature.toList).take (routeMagic.length + 32) =
      routeSigned deviceId :=
  List.take_left' (routeSigned_length hlen)

private theorem preface_drop (hlen : deviceId.len = 32) :
    (routeSigned deviceId ++ signature.toList).drop (routeMagic.length + 32) = signature.toList :=
  List.drop_left' (routeSigned_length hlen)

private theorem preface_magic :
    routeMagic <+: routeSigned deviceId ++ signature.toList :=
  ⟨deviceId.bytes ++ signature.toList, (List.append_assoc ..).symm⟩

private theorem routeSigned_drop : (routeSigned deviceId).drop routeMagic.length = deviceId.bytes :=
  List.drop_left

private theorem routeDeviceId_preface (hlen : deviceId.len = 32) :
    routeDeviceId (routeSigned deviceId ++ signature.toList) = some deviceId := by
  simp only [routeDeviceId]
  rw [if_pos ⟨preface_length hlen, preface_magic⟩, preface_take hlen, routeSigned_drop,
    Text.ofBytes?_bytes]

end Layout

variable {bytes : Bytes} {peer : CachedPeer}

theorem verifyRoutePreface_eq_ok :
    verifyRoutePreface bytes peer = .ok () ↔
      Routes bytes peer.discovery.deviceId peer.discovery.publicKey := by
  simp only [verifyRoutePreface, bind_eq_ok, bailIf_eq_ok, someOr_eq_ok, exactly_eq_ok,
    verifyWithKey_eq_ok, exists_const, not_or, not_not]
  constructor
  · intro h
    obtain ⟨⟨hlength, rest, rfl⟩, deviceId, hid, rfl, signature, hsignature, hvalid, hverify⟩ := h
    have hbytes := Text.bytes_of_ofBytes? hid
    rw [List.length_append] at hlength
    have htake : (routeMagic ++ rest).take (routeMagic.length + 32) =
        routeSigned peer.discovery.deviceId := by
      rw [List.take_length_add_append, routeSigned, hbytes, List.take_length_add_append,
        List.drop_left]
    refine ⟨?_, hvalid, signature, ?_, htake ▸ hverify⟩
    · rw [Text.len, hbytes, List.take_length_add_append, List.drop_left, List.length_take]
      omega
    · rw [← htake, ← hsignature, List.take_append_drop]
  · intro h
    obtain ⟨hlen, hvalid, signature, rfl, hverify⟩ := h
    refine ⟨⟨preface_length hlen, preface_magic⟩, peer.discovery.deviceId, ?_, rfl, signature,
      preface_drop hlen, hvalid, ?_⟩
    · rw [preface_take hlen, routeSigned_drop, Text.ofBytes?_bytes]
    · rw [preface_take hlen]
      exact hverify

/-- The name that the listener looks up is the one that is signed. -/
theorem Routes.routeDeviceId {deviceId : Text} {publicKey : Array8 32}
    (h : Routes bytes deviceId publicKey) : OmarchySync.routeDeviceId bytes = some deviceId := by
  obtain ⟨signature, rfl, -⟩ := h.signed
  exact routeDeviceId_preface h.len

theorem routePreface_routes [LawfulCrypto] (identity : DeviceIdentity) :
    Routes (routePreface identity) identity.deviceId identity.publicKey :=
  ⟨(deviceIdForPublicKey_hexId _).1, LawfulCrypto.validKey_verifyingKey _, _, rfl,
    LawfulCrypto.verifyStrict_sign _ _⟩

end OmarchySync
