import OmarchySync.Trust.Record

/-!
# What an identity key signs

The four kinds of message a device signs with its identity key. Each begins with its own
magic, so a signature made for one kind never counts for another, and the record kind
determines every signed field and the role.
-/

namespace OmarchySync

open Logic Wire

def signatureMagic : Bytes := ascii "OMARCHY-SYNC-V3-PAIRING-SIGNATURE"
def routeMagic : Bytes := ascii "OMARCHY-ROUTE-V3"

namespace PairingRecord

/-- The canonical bytes determine every field but the signatures. -/
theorem layout_inj {r r' : PairingRecord} (hr : r.Signable) (hr' : r'.Signable) {x y : Bytes}
    (h : r.layout x = r'.layout y) : r.unsigned = r'.unsigned ∧ x = y := by
  have hdomain : r.domain.bytes.length ≤ 64 := hr.shaped.domain.2
  have hdomain' : r'.domain.bytes.length ≤ 64 := hr'.shaped.domain.2
  have hpair : r.pairId.bytes.length = 32 := hr.shaped.pairId.1
  have hpair' : r'.pairId.bytes.length = 32 := hr'.shaped.pairId.1
  have hinit : r.initiatorDeviceId.bytes.length = 32 := hr.shaped.initiatorDeviceId.1
  have hinit' : r'.initiatorDeviceId.bytes.length = 32 := hr'.shaped.initiatorDeviceId.1
  have hresp : r.responderDeviceId.bytes.length = 32 := hr.shaped.responderDeviceId.1
  have hresp' : r'.responderDeviceId.bytes.length = 32 := hr'.shaped.responderDeviceId.1
  have hauth : r.authorizingDeviceId.bytes.length = 32 := hr.shaped.authorizingDeviceId.1
  have hauth' : r'.authorizingDeviceId.bytes.length = 32 := hr'.shaped.authorizingDeviceId.1
  have hpres : r.userPresence.bytes.length ≤ 128 := hr.shaped.userPresence.2
  have hpres' : r'.userPresence.bytes.length ≤ 128 := hr'.shaped.userPresence.2
  have hcerts := And.intro hr.initiatorCertificate hr.responderCertificate
  have hcerts' := And.intro hr'.initiatorCertificate hr'.responderCertificate
  simp only [layout, List.append_cancel_left_eq, List.cons.injEq, true_and, Text.len] at h
  obtain ⟨hversion, h⟩ := h
  obtain ⟨hdom, h⟩ := lengthPrefixed_inj (by omega) (by omega) h
  obtain ⟨hpid, h⟩ := lengthPrefixed_inj (by omega) (by omega) h
  obtain ⟨hiid, h⟩ := List.append_inj h (by omega)
  obtain ⟨hrid, h⟩ := List.append_inj h (by omega)
  obtain ⟨hikey, h⟩ := List.append_inj h (by simp)
  obtain ⟨hrkey, h⟩ := List.append_inj h (by simp)
  obtain ⟨hicert, h⟩ := lengthPrefixed_inj (by omega) (by omega) h
  obtain ⟨hrcert, h⟩ := lengthPrefixed_inj (by omega) (by omega) h
  obtain ⟨hbind, h⟩ := List.append_inj h (by simp)
  obtain ⟨haid, h⟩ := List.append_inj h (by omega)
  obtain ⟨hmark, h⟩ := lengthPrefixed_inj (by omega) (by omega) h
  obtain ⟨htime, hrest⟩ := List.append_inj h (by simp)
  have htime' : r.authorizedAt = r'.authorizedAt :=
    UInt64.toNat_inj.mp (beBytes_injective 8 _ _ r.authorizedAt.toNat_lt
      r'.authorizedAt.toNat_lt htime)
  refine ⟨?_, hrest⟩
  simp only [unsigned, mk.injEq, and_self, and_true]
  exact ⟨hversion, Text.ext hdom, Text.ext hpid, Text.ext hiid, Text.ext hrid,
    List.Vector.toList_injective hikey, List.Vector.toList_injective hrkey, hicert, hrcert,
    List.Vector.toList_injective hbind, Text.ext haid, Text.ext hmark, htime'⟩

end PairingRecord

/-- The uses of a device's identity key. -/
inductive Signing where
  | record (r : PairingRecord) (role : UInt8)
  | discovery (announcement : DiscoveryAnnouncement)
  | route (deviceId : Text)
  | transcript (transcript : Bytes) (role : UInt8)
  deriving DecidableEq

namespace Signing

/-- The bytes that are signed. -/
def message : Signing → Result Bytes
  | record r role => do return (← r.signingBytes) ++ [role]
  | discovery announcement => announcement.signingBytes
  | route deviceId => .ok (routeMagic ++ deviceId.bytes)
  | transcript t role => .ok (signatureMagic ++ (t ++ [role]))

private theorem message_record (r : PairingRecord) (role : UInt8) (m : Bytes) :
    (record r role).message = .ok m ↔ r.Signable ∧ m = r.layout [role] := by
  simp only [message, bind_eq_ok, PairingRecord.signingBytes_eq_ok, pure_eq_ok]
  constructor
  · intro h
    obtain ⟨_, ⟨hsign, rfl⟩, rfl⟩ := h
    exact ⟨hsign, PairingRecord.layout_append r _⟩
  · intro h
    exact ⟨_, ⟨h.1, rfl⟩, (PairingRecord.layout_append r _).trans h.2.symm⟩

/-- A message of the record kind was signed for exactly that content and role. -/
theorem eq_record_of_message {r : PairingRecord} {role : UInt8} {s : Signing}
    (hr : r.Signable) (h : s.message = .ok (r.layout [role])) :
    ∃ r', s = record r' role ∧ r'.unsigned = r.unsigned := by
  cases s with
  | record r' role' =>
      obtain ⟨hr', hm⟩ := (message_record r' role' _).mp h
      obtain ⟨hunsigned, hrole⟩ := PairingRecord.layout_inj hr' hr hm.symm
      exact ⟨r', by simpa using hrole, hunsigned⟩
  | discovery a =>
      simp only [message, DiscoveryAnnouncement.signingBytes, bind_eq_ok, pure_eq_ok] at h
      obtain ⟨_, _, _, _, _, _, hm⟩ := h
      exact absurd hm (append_ne_of_getElem? 8 rfl rfl (by decide))
  | route deviceId =>
      exact absurd (Except.ok.inj h) (append_ne_of_getElem? 8 rfl rfl (by decide))
  | transcript t role' =>
      exact absurd (Except.ok.inj h) (append_ne_of_getElem? 24 rfl rfl (by decide))

/-- A transcript signature was made for exactly that transcript and role. -/
theorem eq_transcript_of_message {t : Bytes} {role : UInt8} {s : Signing}
    (h : s.message = .ok (signatureMagic ++ (t ++ [role]))) : s = transcript t role := by
  cases s with
  | record r role' =>
      obtain ⟨-, hm⟩ := (message_record r role' _).mp h
      exact absurd hm (append_ne_of_getElem? 24 rfl rfl (by decide))
  | discovery a =>
      simp only [message, DiscoveryAnnouncement.signingBytes, bind_eq_ok, pure_eq_ok] at h
      obtain ⟨_, _, _, _, _, _, hm⟩ := h
      exact absurd hm (append_ne_of_getElem? 8 rfl rfl (by decide))
  | route deviceId =>
      exact absurd (Except.ok.inj h) (append_ne_of_getElem? 8 rfl rfl (by decide))
  | transcript t' role' =>
      have heq := List.append_cancel_left (Except.ok.inj h)
      obtain ⟨rfl, hrole⟩ := List.append_inj' heq rfl
      rw [List.singleton_inj] at hrole
      rw [hrole]

end Signing

end OmarchySync
