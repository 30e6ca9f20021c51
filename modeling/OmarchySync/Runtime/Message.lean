import OmarchySync.Channel
import OmarchySync.Trust.Record

/-!
# Messages of the record exchange

The four messages, their application and wire framing, and the stream from one end of a
session to the other: what the sender has sealed and the receiver has not read yet.
-/

namespace OmarchySync

open Logic Wire

def appMagic : Bytes := ascii "OMARCHY-PAIR-RECORD-V3"
def appFrameLimit : Nat := 48 * 1024
def maxWireFrame : Nat := 64 * 1024

inductive PairMessage where
  | request
  | prepared (record : Bytes)
  | complete (record : Bytes)
  | finalized
  deriving DecidableEq

namespace PairMessage

private def preparedFormat : Format Bytes :=
  Format.braces "\x7b\"type\":\"prepared\",\"record\":" Format.bytes

private def completeFormat : Format Bytes :=
  Format.braces "\x7b\"type\":\"complete\",\"record\":" Format.bytes

/-- `serde_json::to_vec`: the tag, and the content where there is one. -/
def toVec : PairMessage → Bytes
  | request => ascii "\x7b\"type\":\"request\"\x7d"
  | prepared record => preparedFormat.print record
  | complete record => completeFormat.print record
  | finalized => ascii "\x7b\"type\":\"finalized\"\x7d"

/-- The reader of exactly the compact form. -/
def ofVec (bytes : Bytes) : Result PairMessage :=
  if bytes = request.toVec then .ok request
  else if bytes = finalized.toVec then .ok finalized
  else
    match preparedFormat.parseAll bytes with
    | some record => .ok (prepared record)
    | none => someOr "unknown variant" ((completeFormat.parseAll bytes).map complete)

private theorem ofVec_toVec (m : PairMessage) : ofVec m.toVec = .ok m := by
  have hne : ∀ (opening tag : String) (k : Nat) (a b : UInt8), (ascii opening)[k]? = some a →
      (ascii tag)[k]? = some b → a ≠ b → ∀ record,
      (Format.braces opening Format.bytes).print record ≠ ascii tag := by
    intro opening tag k a b ha hb hab record h
    have hdiffer := append_ne_of_getElem? (x := jsonArray record ++ [125]) (y := []) k ha hb hab
    rw [List.append_nil] at hdiffer
    exact hdiffer h
  cases m with
  | request => rfl
  | finalized => rfl
  | prepared record =>
      have hrequest : (prepared record).toVec ≠ request.toVec := hne _ _ 9 _ _ rfl rfl (by decide) _
      have hfinal : (prepared record).toVec ≠ finalized.toVec := hne _ _ 9 _ _ rfl rfl (by decide) _
      have hparse : preparedFormat.parseAll (prepared record).toVec = some record :=
        preparedFormat.parseAll_print record
      simp only [ofVec, if_neg hrequest, if_neg hfinal, hparse]
  | complete record =>
      have hrequest : (complete record).toVec ≠ request.toVec := hne _ _ 9 _ _ rfl rfl (by decide) _
      have hfinal : (complete record).toVec ≠ finalized.toVec := hne _ _ 9 _ _ rfl rfl (by decide) _
      have hprepared : preparedFormat.parseAll (complete record).toVec = none := rfl
      have hparse : completeFormat.parseAll (complete record).toVec = some record :=
        completeFormat.parseAll_print record
      simp only [ofVec, if_neg hrequest, if_neg hfinal, hprepared, hparse, Option.map_some, someOr]

end PairMessage

/-- `serde_json::from_slice`, which reads every JSON form of a message. -/
class AppSerde where
  fromSlice : Bytes → Result PairMessage

/-- Reading inverts writing. -/
class LawfulAppSerde [AppSerde] : Prop where
  fromSlice_toVec : ∀ m : PairMessage, AppSerde.fromSlice m.toVec = .ok m

@[reducible]
def PairMessage.canonicalSerde : AppSerde where
  fromSlice := ofVec

theorem PairMessage.canonicalSerde_lawful : @LawfulAppSerde canonicalSerde :=
  @LawfulAppSerde.mk canonicalSerde ofVec_toVec

def encodeApp (message : PairMessage) : Result Bytes := do
  let payload := appMagic ++ message.toVec
  bailIf (payload.length > appFrameLimit) "pairing record application frame exceeds limit"
  return payload

def decodeApp [AppSerde] (bytes : Bytes) : Result PairMessage := do
  bailIf (bytes.length > appFrameLimit ∨ ¬appMagic <+: bytes) "invalid pairing application frame"
  AppSerde.fromSlice (bytes.drop appMagic.length)

/-- The payload of a message. -/
def PairMessage.payload (message : PairMessage) : Bytes := appMagic ++ message.toVec

/-- The longest payload of a message around a stored record. -/
def maxPairPayload : Nat := 16 * 1024 + 128

/-- The messages that carry no more than a stored record. -/
def PairMessage.Stored : PairMessage → Prop
  | prepared record => record.length ≤ maxRecordBytes
  | complete record => record.length ≤ maxRecordBytes
  | _ => True

private theorem payload_length_le {message : PairMessage} (h : message.Stored) :
    message.payload.length ≤ maxPairPayload := by
  have hmagic : appMagic.length = 22 := rfl
  have hrecord : ∀ opening : String, (ascii opening).length ≤ 40 → ∀ record : Bytes,
      record.length ≤ maxRecordBytes →
      (appMagic ++ (Format.braces opening Format.bytes).print record).length ≤ maxPairPayload := by
    intro opening hopening record hsize
    have harray := jsonArray_length_le record
    have hprint : (Format.braces opening Format.bytes).print record =
        ascii opening ++ (jsonArray record ++ [125]) := rfl
    simp only [maxRecordBytes] at hsize
    simp only [hprint, List.length_append, hmagic, List.length_singleton, maxPairPayload]
    omega
  cases message with
  | request => decide
  | finalized => decide
  | prepared record => exact hrecord _ (by decide) record h
  | complete record => exact hrecord _ (by decide) record h

theorem payload_framed {message : PairMessage} (h : message.Stored) :
    message.payload.length ≤ maxFramedPlaintext :=
  le_trans (payload_length_le h) (by decide)

theorem encodeApp_ok {message : PairMessage} (h : message.Stored) :
    encodeApp message = .ok message.payload := by
  have hlimit : ¬message.payload.length > appFrameLimit :=
    Nat.not_lt.mpr (le_trans (payload_length_le h) (by decide))
  simp only [encodeApp, bind_eq_ok, bailIf_eq_ok, pure_eq_ok, exists_const]
  exact ⟨hlimit, rfl⟩

theorem decodeApp_payload [AppSerde] [LawfulAppSerde] {message : PairMessage}
    (h : message.Stored) : decodeApp message.payload = .ok message := by
  have hguard : ¬(message.payload.length > appFrameLimit ∨ ¬appMagic <+: message.payload) := by
    rw [not_or, not_not]
    exact ⟨Nat.not_lt.mpr (le_trans (payload_length_le h) (by decide)), List.prefix_append _ _⟩
  rw [decodeApp, (bailIf_eq_ok _ _ ()).mpr hguard, ok_bind, PairMessage.payload, List.drop_left]
  exact LawfulAppSerde.fromSlice_toVec message

/-- The bytes of one frame on the wire. -/
def wireLayout (frame : Bytes) : Bytes := beBytes 4 frame.length ++ frame

def writeWire (bytes : Bytes) : Result Bytes := do
  bailIf (bytes = [] ∨ bytes.length > maxWireFrame) "wire frame exceeds limit"
  return wireLayout bytes

def wireCursor : Dialect where
  truncated := "failed to fill whole buffer"
  overLimit := "wire frame exceeds limit"
  trailing := "failed to fill whole buffer"
  notUtf8 := "failed to fill whole buffer"

def readWire : Reader Bytes := do
  let length ← Reader.word wireCursor 4
  bailIf (length = 0 ∨ length > maxWireFrame) wireCursor.overLimit
  Reader.take wireCursor length

/-- The frames both sides of a connection handle. -/
def Wired (frame : Bytes) : Prop := frame ≠ [] ∧ frame.length ≤ maxWireFrame

theorem writeWire_eq_ok (frame out : Bytes) :
    writeWire frame = .ok out ↔ Wired frame ∧ out = wireLayout frame := by
  simp only [writeWire, bind_eq_ok, bailIf_eq_ok, pure_eq_ok, exists_const, Wired, not_or, not_lt,
    gt_iff_lt, ne_eq, @eq_comm _ _ out]

theorem readWire_eq_ok (stream frame rest : Bytes) :
    readWire stream = .ok (frame, rest) ↔ Wired frame ∧ stream = wireLayout frame ++ rest := by
  simp only [readWire, Reader.bind_eq_ok, Reader.word_eq_ok, Reader.lift_eq_ok, bailIf_eq_ok,
    Reader.take_eq_ok, Wired, wireLayout, ne_eq, ← List.length_eq_zero_iff, List.append_assoc]
  constructor
  · intro h
    obtain ⟨n, mid, ⟨-, rfl⟩, _, _, ⟨hlimit, rfl⟩, rfl, rfl⟩ := h
    exact ⟨⟨by omega, by omega⟩, rfl⟩
  · intro h
    obtain ⟨⟨hne, hlength⟩, rfl⟩ := h
    have hword : frame.length < 256 ^ 4 := lt_of_le_of_lt hlength (by decide)
    exact ⟨frame.length, frame ++ rest, ⟨hword, rfl⟩, (), frame ++ rest, ⟨by omega, rfl⟩, rfl, rfl⟩

section Stream

variable [Noise] [TransportLaws]

open TransportLaws

/-- Payloads sealed one after the other under one key, from the given nonce on. -/
def sealedStream (role : UInt8) (key : Key) : Nat → List Bytes → Bytes
  | _, [] => []
  | nonce, p :: ps => wireLayout (frameLayout kindTransport role 0 (cipher key nonce p)) ++
      sealedStream role key (nonce + 1) ps

private theorem sealedStream_append (role : UInt8) (key : Key) (nonce : Nat) (ps : List Bytes)
    (p : Bytes) :
    sealedStream role key nonce (ps ++ [p]) = sealedStream role key nonce ps ++
      wireLayout (frameLayout kindTransport role 0 (cipher key (nonce + ps.length) p)) := by
  induction ps generalizing nonce with
  | nil => simp [sealedStream]
  | cons q ps ih =>
      have hcount : nonce + 1 + ps.length = nonce + (q :: ps).length := by
        rw [List.length_cons]
        omega
      simp only [List.cons_append, sealedStream, ih, List.append_assoc, hcount]

/-- The stream from `s`, which has sealed `sent` payloads in all, to `r`, which has yet to read
the given ones. -/
structure Pipe (sent : Nat) (s r : AuthenticatedPairingSession) (stream : Bytes)
    (payloads : List Bytes) : Prop where
  role : ValidRole s.localRole
  opposite : r.localRole ≠ s.localRole
  key : outgoing s.transport = incoming r.transport
  count : sending s.transport = sent
  unread : receiving r.transport + payloads.length = sent
  stream : stream = sealedStream s.localRole (incoming r.transport) (receiving r.transport) payloads
  framed : ∀ p ∈ payloads, p.length ≤ maxFramedPlaintext

namespace Pipe

variable {sent sent' : Nat} {s r : AuthenticatedPairingSession} {stream stream' p : Bytes}
  {ps qs : List Bytes}

private theorem wired_sealed (role : UInt8) (key : Key) (nonce : Nat)
    (h : p.length ≤ maxFramedPlaintext) :
    Wired (frameLayout kindTransport role 0 (cipher key nonce p)) := by
  have hlength : (frameLayout kindTransport role 0 (cipher key nonce p)).length =
      21 + (p.length + 16) := by
    rw [frameLayout_length, cipher_length, tagLength]
  simp only [maxFramedPlaintext] at h
  constructor
  · intro hnil
    simp [hnil] at hlength
  · rw [hlength, maxWireFrame]
    omega

private theorem backward {t : Noise.TransportState} (h : Pipe sent' r s stream' qs)
    (hin : incoming t = incoming s.transport) (hrecv : receiving t = receiving s.transport) :
    Pipe sent' r { s with transport := t } stream' qs := by
  refine ⟨h.role, h.opposite, ?_, h.count, ?_, ?_, h.framed⟩
  · rw [h.key, ← hin]
  · rw [← h.unread, ← hrecv]
  · rw [h.stream, ← hin, ← hrecv]

private theorem forward {t : Noise.TransportState} (h : Pipe sent' r s stream' qs)
    (hout : outgoing t = outgoing r.transport) (hsend : sending t = sending r.transport) :
    Pipe sent' { r with transport := t } s stream' qs := by
  refine ⟨h.role, h.opposite, ?_, ?_, h.unread, h.stream, h.framed⟩
  · rw [← h.key, ← hout]
  · rw [← h.count, ← hsend]

theorem push (h : Pipe sent s r stream ps) (hp : p.length ≤ maxFramedPlaintext)
    (hn : sent < nonceLimit) : ∃ frame t,
      s.encrypt p = (.ok frame, { s with transport := t }) ∧
      writeWire frame = .ok (wireLayout frame) ∧
      Pipe (sent + 1) { s with transport := t } r (stream ++ wireLayout frame) (ps ++ [p]) ∧
      ∀ sent' stream' qs, Pipe sent' r s stream' qs →
        Pipe sent' r { s with transport := t } stream' qs := by
  obtain ⟨t, henc, hout, hin, hsend, hrecv⟩ := encrypt_framed (s := s) hp (h.count ▸ hn)
  have hnonce : sending s.transport = receiving r.transport + ps.length := by
    rw [h.count, h.unread]
  refine ⟨_, t, henc, ?_, ?_, fun _ _ _ hback => hback.backward hin hrecv⟩
  · exact (writeWire_eq_ok _ _).mpr ⟨wired_sealed _ _ _ hp, rfl⟩
  · refine ⟨h.role, h.opposite, hout.trans h.key, by rw [hsend, h.count], ?_, ?_, ?_⟩
    · rw [List.length_append, List.length_singleton, ← Nat.add_assoc, h.unread]
    · rw [sealedStream_append, ← h.stream, ← h.key, ← hnonce]
    · intro q hq
      rcases List.mem_append.mp hq with hq | hq
      · exact h.framed q hq
      · rw [List.mem_singleton.mp hq]
        exact hp

theorem pop (h : Pipe sent s r stream (p :: ps)) (hn : sent ≤ nonceLimit) :
    ∃ frame rest t, readWire stream = .ok (frame, rest) ∧
      r.decrypt frame = (.ok p, { r with transport := t }) ∧
      Pipe sent s { r with transport := t } rest ps ∧
      ∀ sent' stream' qs, Pipe sent' r s stream' qs →
        Pipe sent' { r with transport := t } s stream' qs := by
  have hp : p.length ≤ maxFramedPlaintext := h.framed p (List.mem_cons_self ..)
  have hunread := h.unread
  rw [List.length_cons] at hunread
  have hfresh : receiving r.transport < nonceLimit := by omega
  obtain ⟨t, hdec, hout, hin, hsend, hrecv⟩ := decrypt_sealed h.role h.opposite hp hfresh
  refine ⟨_, sealedStream s.localRole (incoming r.transport) (receiving r.transport + 1) ps, t, ?_,
    hdec, ?_, fun _ _ _ hback => hback.forward hout hsend⟩
  · exact (readWire_eq_ok _ _ _).mpr ⟨wired_sealed _ _ _ hp, h.stream⟩
  · refine ⟨h.role, h.opposite, h.key.trans hin.symm, h.count, ?_, ?_, ?_⟩
    · rw [hrecv]
      omega
    · rw [hin, hrecv]
    · intro q hq
      exact h.framed q (List.mem_cons_of_mem _ hq)

theorem stream_nil (h : Pipe sent s r stream []) : stream = [] := h.stream

end Pipe

end Stream

end OmarchySync
