import OmarchySync.Certificate

/-!
# Pairing frames

Every message of the pairing transport travels in a frame that names its kind, the role of
its sender and its sequence number.
-/

namespace OmarchySync

open Logic Wire

def frameMagic : Bytes := ascii "OMARCHY-PAIR-V3"

def roleInitiator : UInt8 := 1
def roleResponder : UInt8 := 2
def modeFirstContact : UInt8 := 1
def modeReconnect : UInt8 := 2
def kindHandshake : UInt8 := 1
def kindAuth : UInt8 := 2
def kindTransport : UInt8 := 3

def maxHandshakeFrame : Nat := 2048
def maxAuthFrame : Nat := 4096
def maxAuthPlaintext : Nat := 2048
def maxTransportPlaintext : Nat := 48 * 1024
def maxTransportFrame : Nat := maxTransportPlaintext + 16 + 8

/-- The cursor of the pairing frames. -/
def pairingCursor : Dialect where
  truncated := "truncated pairing frame"
  overLimit := "bounded field exceeds limit"
  trailing := "trailing pairing frame bytes"
  notUtf8 := "invalid peer DeviceID"

/-- The bytes of a frame. -/
def frameLayout (kind role sequence : UInt8) (payload : Bytes) : Bytes :=
  frameMagic ++ protocolVersion :: kind :: role :: sequence ::
    (beBytes 2 payload.length ++ payload)

theorem frameLayout_length (kind role sequence : UInt8) (payload : Bytes) :
    (frameLayout kind role sequence payload).length = 21 + payload.length := by
  have hmagic : frameMagic.length = 15 := rfl
  simp only [frameLayout, List.length_append, List.length_cons, beBytes_length, hmagic]
  omega

def encodeFrameWithSequence (kind role sequence : UInt8) (payload : Bytes) (max : Nat) :
    Result Bytes := do
  bailIf (payload.length > 65535) "frame payload too large"
  let out := frameLayout kind role sequence payload
  bailIf (out.length > max) "frame exceeds size limit"
  return out

def encodeFrame (kind role : UInt8) (payload : Bytes) (max : Nat) : Result Bytes :=
  encodeFrameWithSequence kind role 0 payload max

private def frameFields : Reader (UInt8 × UInt8 × UInt8 × Bytes) := do
  let magic ← Reader.take pairingCursor frameMagic.length
  bailIf (magic ≠ frameMagic) "invalid or downgraded protocol frame"
  let version ← Reader.u8 pairingCursor
  bailIf (version ≠ protocolVersion) "invalid or downgraded protocol frame"
  let kind ← Reader.u8 pairingCursor
  let role ← Reader.u8 pairingCursor
  let sequence ← Reader.u8 pairingCursor
  let payload ← Reader.bytes pairingCursor 65535
  Reader.finish pairingCursor
  return (kind, role, sequence, payload)

def decodeFrameWithSequence (frame : Bytes) (max : Nat) :
    Result (UInt8 × UInt8 × UInt8 × Bytes) := do
  bailIf (frame.length > max) "frame exceeds size limit"
  let (kind, role, sequence, payload) ← Reader.run frameFields frame
  bailIf (role ≠ roleInitiator ∧ role ≠ roleResponder) "invalid pairing role"
  return (kind, role, sequence, payload)

def decodeFrame (frame : Bytes) (max : Nat) : Result (UInt8 × UInt8 × Bytes) := do
  let (kind, role, sequence, payload) ← decodeFrameWithSequence frame max
  bailIf (sequence ≠ 0) "unexpected handshake or transport sequence"
  return (kind, role, payload)

/-- The roles a frame may name. -/
def ValidRole (role : UInt8) : Prop := role = roleInitiator ∨ role = roleResponder

instance (role : UInt8) : Decidable (ValidRole role) := inferInstanceAs (Decidable (_ ∨ _))

theorem encodeFrameWithSequence_eq_ok (kind role sequence : UInt8) (payload out : Bytes)
    (max : Nat) :
    encodeFrameWithSequence kind role sequence payload max = .ok out ↔
      payload.length ≤ 65535 ∧ 21 + payload.length ≤ max ∧
        out = frameLayout kind role sequence payload := by
  simp only [encodeFrameWithSequence, bind_eq_ok, bailIf_eq_ok, pure_eq_ok, frameLayout_length,
    exists_const, not_lt, gt_iff_lt, @eq_comm _ _ out]

private theorem frameFields_eq_ok (frame rest : Bytes) (kind role sequence : UInt8)
    (payload : Bytes) :
    frameFields frame = .ok ((kind, role, sequence, payload), rest) ↔
      Reader.Bounded 65535 payload ∧ frame = frameLayout kind role sequence payload ∧
        rest = [] := by
  simp only [frameFields, Reader.bind_eq_ok, Reader.lift_eq_ok, Reader.take_eq_ok,
    Reader.u8_eq_ok, Reader.bytes_eq_ok, Reader.finish_eq_ok, Reader.pure_eq_ok, bailIf_eq_ok,
    not_not]
  constructor
  · rintro ⟨_, _, ⟨_, rfl⟩, _, _, ⟨rfl, rfl⟩, _, _, rfl, _, _, ⟨rfl, rfl⟩, k, _, rfl, r, _, rfl,
      s, _, rfl, p, _, ⟨hp, rfl⟩, _, _, ⟨rfl, rfl⟩, heq, rfl⟩
    obtain ⟨rfl, rfl, rfl, rfl⟩ : k = kind ∧ r = role ∧ s = sequence ∧ p = payload := by
      simpa using heq
    exact ⟨hp, by simp [frameLayout], rfl⟩
  · rintro ⟨hp, rfl, rfl⟩
    exact ⟨_, _, ⟨rfl, rfl⟩, (), _, ⟨rfl, rfl⟩, _, _, rfl, (), _, ⟨rfl, rfl⟩, _, _, rfl, _, _, rfl,
      _, _, rfl, _, [], ⟨hp, by simp⟩, (), [], ⟨rfl, rfl⟩, rfl, rfl⟩

theorem decodeFrameWithSequence_eq_ok (frame : Bytes) (max : Nat) (kind role sequence : UInt8)
    (payload : Bytes) :
    decodeFrameWithSequence frame max = .ok (kind, role, sequence, payload) ↔
      frame.length ≤ max ∧ Reader.Bounded 65535 payload ∧ ValidRole role ∧
        frame = frameLayout kind role sequence payload := by
  simp only [decodeFrameWithSequence, bind_eq_ok, bailIf_eq_ok, Reader.run_eq_ok, pure_eq_ok,
    exists_const, not_lt, gt_iff_lt, Prod.exists, frameFields_eq_ok, ValidRole]
  constructor
  · rintro ⟨hlen, k, r, s, p, ⟨_, hp, rfl, rfl⟩, hrole, heq⟩
    cases heq
    exact ⟨hlen, hp, by tauto, rfl⟩
  · rintro ⟨hlen, hp, hrole, rfl⟩
    exact ⟨hlen, kind, role, sequence, payload, ⟨[], hp, rfl, rfl⟩, by tauto, rfl⟩

theorem decodeFrame_eq_ok (frame : Bytes) (max : Nat) (kind role : UInt8) (payload : Bytes) :
    decodeFrame frame max = .ok (kind, role, payload) ↔
      frame.length ≤ max ∧ Reader.Bounded 65535 payload ∧ ValidRole role ∧
        frame = frameLayout kind role 0 payload := by
  simp only [decodeFrame, bind_eq_ok, bailIf_eq_ok, pure_eq_ok, exists_const, not_not, Prod.exists,
    decodeFrameWithSequence_eq_ok]
  constructor
  · rintro ⟨k, r, s, p, ⟨hlen, hp, hrole, rfl⟩, rfl, heq⟩
    cases heq
    exact ⟨hlen, hp, hrole, rfl⟩
  · rintro ⟨hlen, hp, hrole, rfl⟩
    exact ⟨kind, role, 0, payload, ⟨hlen, hp, hrole, rfl⟩, rfl, rfl⟩

theorem decodeFrameWithSequence_encode {kind role sequence : UInt8} {payload frame : Bytes}
    {max : Nat} (h : encodeFrameWithSequence kind role sequence payload max = .ok frame)
    (hrole : ValidRole role) (hne : payload ≠ []) :
    decodeFrameWithSequence frame max = .ok (kind, role, sequence, payload) := by
  obtain ⟨hlen, hmax, rfl⟩ := (encodeFrameWithSequence_eq_ok ..).mp h
  rw [decodeFrameWithSequence_eq_ok, frameLayout_length]
  exact ⟨hmax, ⟨hne, hlen, by omega⟩, hrole, rfl⟩

end OmarchySync
