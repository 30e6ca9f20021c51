import OmarchySync.Loopback

/-!
# The encrypted channel

Sequences of `encrypt` calls on one session and of `decrypt` calls on the matching one. A
frame adds 37 bytes to its plaintext, but `maxTransportFrame` leaves room for 24: plaintexts
in the gap are admitted, advance the sending nonce and then fail to be framed.
-/

namespace OmarchySync

open Logic Wire

/-- The longest plaintext whose frame respects `maxTransportFrame`. -/
def maxFramedPlaintext : Nat := 49139

/-- Plaintexts that pass the first check of `encrypt` and fail the last one. -/
def InFrameGap (plaintext : Bytes) : Prop :=
  maxFramedPlaintext < plaintext.length ∧ plaintext.length ≤ maxTransportPlaintext

instance (plaintext : Bytes) : Decidable (InFrameGap plaintext) :=
  inferInstanceAs (Decidable (_ ∧ _))

theorem maxFramedPlaintext_spec (n : Nat) :
    21 + (n + tagLength) ≤ maxTransportFrame ↔ n ≤ maxFramedPlaintext := by
  simp only [tagLength, maxTransportFrame, maxTransportPlaintext, maxFramedPlaintext]
  omega

section Calls

variable [Noise]

/-- One call of `encrypt` with the session before and after it. -/
structure EncryptCall where
  plaintext : Bytes
  before : AuthenticatedPairingSession
  result : Result Bytes
  after : AuthenticatedPairingSession

/-- Successive calls of `encrypt` on one session. -/
def encryptCalls (s : AuthenticatedPairingSession) : List Bytes → List EncryptCall
  | [] => []
  | p :: ps => ⟨p, s, (s.encrypt p).1, (s.encrypt p).2⟩ :: encryptCalls (s.encrypt p).2 ps

/-- The frames of the successful calls. -/
def producedFrames (calls : List EncryptCall) : List Bytes :=
  calls.filterMap fun call => call.result.toOption

/-- The plaintexts of the successful calls. -/
def acceptedPlaintexts (calls : List EncryptCall) : List Bytes :=
  calls.filterMap fun call => call.result.toOption.map fun _ => call.plaintext

/-- Decrypt frames in order, stopping at the first failure. -/
def decryptAll (r : AuthenticatedPairingSession) : List Bytes → Result (List Bytes)
  | [] => .ok []
  | frame :: frames => do
      let plaintext ← (r.decrypt frame).1
      let rest ← decryptAll (r.decrypt frame).2 frames
      return plaintext :: rest

/-- The channel carries every admitted payload and survives its own errors. -/
structure Carries (s r : AuthenticatedPairingSession) (plaintexts : List Bytes) : Prop where
  admits : ∀ call ∈ encryptCalls s plaintexts,
    call.plaintext.length ≤ maxTransportPlaintext → ∃ frame, call.result = .ok frame
  unchanged : ∀ call ∈ encryptCalls s plaintexts, ∀ e, call.result = .error e →
    call.after = call.before
  delivers : decryptAll r (producedFrames (encryptCalls s plaintexts)) =
    .ok (acceptedPlaintexts (encryptCalls s plaintexts))

private theorem encrypt_oversized {s : AuthenticatedPairingSession} {p : Bytes}
    (h : maxTransportPlaintext < p.length) :
    s.encrypt p = (.error "transport plaintext exceeds size limit", s) := by
  simp [AuthenticatedPairingSession.encrypt, h]

section Transport

variable [TransportLaws]

open TransportLaws

/-- Two ends of one channel: opposite roles, and what `s` writes next is what `r` reads next. -/
structure Matching (s r : AuthenticatedPairingSession) : Prop where
  role : ValidRole s.localRole
  opposite : r.localRole ≠ s.localRole
  feeds : Feeds s.transport r.transport

variable {s r : AuthenticatedPairingSession} {p : Bytes}

private theorem write_admitted (s : AuthenticatedPairingSession)
    (h : p.length ≤ maxTransportPlaintext) (hn : sending s.transport < nonceLimit) :
    ∃ t, s.encrypt p = (encodeFrame kindTransport s.localRole
        (cipher (outgoing s.transport) (sending s.transport) p) maxTransportFrame,
          { s with transport := t }) ∧
      outgoing t = outgoing s.transport ∧ incoming t = incoming s.transport ∧
      sending t = sending s.transport + 1 ∧ receiving t = receiving s.transport := by
  have hmax : p.length + tagLength ≤ maxNoiseMessage := by
    simp only [maxTransportPlaintext] at h
    simp only [tagLength, maxNoiseMessage]
    omega
  obtain ⟨t, hwrite, hcounts⟩ := write_ok s.transport (p.length + 16) p (le_refl _) hmax hn
  refine ⟨t, ?_, hcounts⟩
  simp [AuthenticatedPairingSession.encrypt, Nat.not_lt.mpr h, hwrite]

theorem encrypt_framed (h : p.length ≤ maxFramedPlaintext)
    (hn : sending s.transport < nonceLimit) :
    ∃ t, s.encrypt p = (.ok (frameLayout kindTransport s.localRole 0
        (cipher (outgoing s.transport) (sending s.transport) p)), { s with transport := t }) ∧
      outgoing t = outgoing s.transport ∧ incoming t = incoming s.transport ∧
      sending t = sending s.transport + 1 ∧ receiving t = receiving s.transport := by
  have hadmit : p.length ≤ maxTransportPlaintext := le_trans h (by decide)
  obtain ⟨t, henc, hcounts⟩ := write_admitted s hadmit hn
  refine ⟨t, ?_, hcounts⟩
  rw [henc, Prod.mk.injEq]
  refine ⟨?_, rfl⟩
  rw [encodeFrame, encodeFrameWithSequence_eq_ok, cipher_length]
  refine ⟨?_, (maxFramedPlaintext_spec _).mpr h, rfl⟩
  simp only [maxFramedPlaintext] at h
  simp only [tagLength]
  omega

private theorem encrypt_inFrameGap (h : InFrameGap p) (hn : sending s.transport < nonceLimit) :
    ∃ e t, s.encrypt p = (.error e, { s with transport := t }) ∧
      sending t = sending s.transport + 1 := by
  obtain ⟨t, henc, -, -, hsend, -⟩ := write_admitted s h.2 hn
  cases hframe : encodeFrame kindTransport s.localRole
      (cipher (outgoing s.transport) (sending s.transport) p) maxTransportFrame with
  | error e => exact ⟨e, t, by rw [henc, hframe], hsend⟩
  | ok frame =>
      obtain ⟨-, hfit, -⟩ := (encodeFrameWithSequence_eq_ok ..).mp hframe
      rw [cipher_length, maxFramedPlaintext_spec] at hfit
      exact absurd h.1 (Nat.not_lt.mpr hfit)

private theorem encrypt_sending_le (s : AuthenticatedPairingSession) (p : Bytes)
    (hn : sending s.transport < nonceLimit) :
    sending (s.encrypt p).2.transport ≤ sending s.transport + 1 := by
  by_cases h : p.length ≤ maxTransportPlaintext
  · obtain ⟨t, henc, -, -, hsend, -⟩ := write_admitted s h hn
    rw [henc]
    exact hsend.le
  · rw [encrypt_oversized (Nat.not_le.mp h)]
    exact Nat.le_succ _

theorem decrypt_sealed {role : UInt8} (hrole : ValidRole role) (hopposite : r.localRole ≠ role)
    (h : p.length ≤ maxFramedPlaintext) (hn : receiving r.transport < nonceLimit) :
    ∃ t, r.decrypt (frameLayout kindTransport role 0
        (cipher (incoming r.transport) (receiving r.transport) p)) =
          (.ok p, { r with transport := t }) ∧
      outgoing t = outgoing r.transport ∧ incoming t = incoming r.transport ∧
      sending t = sending r.transport ∧ receiving t = receiving r.transport + 1 := by
  have hsize : p.length + tagLength ≤ 65535 ∧ p.length ≤ maxTransportPlaintext := by
    simp only [maxFramedPlaintext] at h
    simp only [tagLength, maxTransportPlaintext]
    omega
  obtain ⟨t, hread, hcounts⟩ :=
    read_ok r.transport maxTransportPlaintext p hsize.2 hsize.1 hn
  have hdecode : decodeFrame (frameLayout kindTransport role 0
      (cipher (incoming r.transport) (receiving r.transport) p)) maxTransportFrame =
        .ok (kindTransport, role, cipher (incoming r.transport) (receiving r.transport) p) := by
    rw [decodeFrame_eq_ok, frameLayout_length, cipher_length]
    refine ⟨(maxFramedPlaintext_spec _).mpr h, ⟨?_, ?_, ?_⟩, hrole, rfl⟩
    · intro hnil
      have hlen := cipher_length (incoming r.transport) (receiving r.transport) p
      simp [hnil, tagLength] at hlen
    · rw [cipher_length]
      exact hsize.1
    · rw [cipher_length]
      omega
  refine ⟨t, ?_, hcounts⟩
  simp only [AuthenticatedPairingSession.decrypt, hdecode, ne_eq, not_true_eq_false, false_or,
    hopposite.symm, if_false, hread]

private theorem decrypt_framed (hm : Matching s r) (h : p.length ≤ maxFramedPlaintext)
    (hn : receiving r.transport < nonceLimit) :
    ∃ t, r.decrypt (frameLayout kindTransport s.localRole 0
        (cipher (outgoing s.transport) (sending s.transport) p)) =
          (.ok p, { r with transport := t }) ∧
      incoming t = incoming r.transport ∧ receiving t = receiving r.transport + 1 := by
  obtain ⟨t, hdec, -, hin, -, hrecv⟩ := decrypt_sealed hm.role hm.opposite h hn
  rw [← hm.feeds.key, ← hm.feeds.count] at hdec
  exact ⟨t, hdec, hin, hrecv⟩

private theorem admits_no_gap (plaintexts : List Bytes)
    (hn : sending s.transport + plaintexts.length ≤ nonceLimit)
    (hadmits : ∀ call ∈ encryptCalls s plaintexts,
      call.plaintext.length ≤ maxTransportPlaintext → ∃ frame, call.result = .ok frame) :
    ∀ p ∈ plaintexts, ¬InFrameGap p := by
  induction plaintexts generalizing s with
  | nil => simp
  | cons q plaintexts ih =>
      rw [List.length_cons] at hn
      have hfresh : sending s.transport < nonceLimit := by omega
      have hstep := encrypt_sending_le s q hfresh
      intro p hp hgap
      rcases List.mem_cons.mp hp with rfl | hp
      · obtain ⟨frame, hframe⟩ := hadmits _ (List.mem_cons_self ..) hgap.2
        obtain ⟨e, t, henc, -⟩ := encrypt_inFrameGap (s := s) hgap hfresh
        simp [henc] at hframe
      · exact ih (by omega) (fun call hcall => hadmits call (List.mem_cons_of_mem _ hcall)) p hp hgap

private theorem carries_of_no_gap (plaintexts : List Bytes) (hm : Matching s r)
    (hn : sending s.transport + plaintexts.length ≤ nonceLimit)
    (hgap : ∀ p ∈ plaintexts, ¬InFrameGap p) : Carries s r plaintexts := by
  induction plaintexts generalizing s r with
  | nil => exact ⟨by simp [encryptCalls], by simp [encryptCalls], rfl⟩
  | cons p plaintexts ih =>
      rw [List.length_cons] at hn
      have hfresh : sending s.transport < nonceLimit := by omega
      have hrest : ∀ q ∈ plaintexts, ¬InFrameGap q := fun q hq => hgap q (by simp [hq])
      by_cases hbig : maxTransportPlaintext < p.length
      · -- the call fails before the transport is touched
        have henc := encrypt_oversized (s := s) hbig
        obtain ⟨hadmits, hunchanged, hdelivers⟩ := ih hm (by omega) hrest
        refine ⟨?_, ?_, ?_⟩ <;> simp only [encryptCalls, henc]
        · intro call hcall hlen
          rcases List.mem_cons.mp hcall with rfl | hcall
          · exact absurd hlen (Nat.not_le.mpr hbig)
          · exact hadmits call hcall hlen
        · intro call hcall e he
          rcases List.mem_cons.mp hcall with rfl | hcall
          · rfl
          · exact hunchanged call hcall e he
        · simpa [producedFrames, acceptedPlaintexts, Except.toOption] using hdelivers
      · have hfit : p.length ≤ maxFramedPlaintext := by
          by_contra hlong
          exact hgap p (by simp) ⟨Nat.not_le.mp hlong, Nat.not_lt.mp hbig⟩
        obtain ⟨t, henc, hout, -, hsend, -⟩ := encrypt_framed (s := s) hfit hfresh
        obtain ⟨u, hdec, hin, hrecv⟩ := decrypt_framed hm hfit (hm.feeds.count ▸ hfresh)
        have hm' : Matching { s with transport := t } { r with transport := u } :=
          ⟨hm.role, hm.opposite, ⟨by rw [hout, hin, hm.feeds.key],
            by rw [hsend, hrecv, hm.feeds.count]⟩⟩
        have hn' : sending t + plaintexts.length ≤ nonceLimit := by omega
        obtain ⟨hadmits, hunchanged, hdelivers⟩ := ih hm' hn' hrest
        refine ⟨?_, ?_, ?_⟩ <;> simp only [encryptCalls, henc]
        · intro call hcall hlen
          rcases List.mem_cons.mp hcall with rfl | hcall
          · exact ⟨_, rfl⟩
          · exact hadmits call hcall hlen
        · intro call hcall e he
          rcases List.mem_cons.mp hcall with rfl | hcall
          · cases he
          · exact hunchanged call hcall e he
        · change decryptAll r (_ :: producedFrames _) = .ok (p :: acceptedPlaintexts _)
          simp only [decryptAll, hdec, hdelivers]
          rfl

/-- While the nonce lasts, the channel carries a sequence of payloads faithfully exactly when
none of them lies in the frame gap. -/
theorem carries_iff_no_inFrameGap (s r : AuthenticatedPairingSession) (plaintexts : List Bytes)
    (hm : Matching s r) (hn : sending s.transport + plaintexts.length ≤ nonceLimit) :
    Carries s r plaintexts ↔ ∀ p ∈ plaintexts, ¬InFrameGap p :=
  ⟨fun h => admits_no_gap plaintexts hn h.admits, carries_of_no_gap plaintexts hm hn⟩

end Transport

end Calls

namespace Loopback

def channelStart : Transport := ⟨[1], [2], 0, 0⟩

/-- The sending end of a fresh session. -/
def channelSender : @AuthenticatedPairingSession noise :=
  session (hexText (List.replicate 16 7)) (keyOf 1) (keyOf 2) (keyOf 5) roleInitiator channelStart

/-- The receiving end of the same session. -/
def channelReceiver : @AuthenticatedPairingSession noise :=
  session (hexText (List.replicate 16 7)) (keyOf 2) (keyOf 1) (keyOf 5) roleResponder
    ⟨[2], [1], 0, 0⟩

private theorem channel_matching :
    @Matching noise transportLaws channelSender channelReceiver :=
  @Matching.mk noise transportLaws _ _ (.inl rfl) (by decide)
    (@TransportLaws.Feeds.mk noise transportLaws _ _ rfl rfl)

theorem carries_iff_no_inFrameGap_loopback :
    @Carries noise channelSender channelReceiver [[], [1, 2, 3]] ↔
      ∀ p ∈ [[], [1, 2, 3]], ¬InFrameGap p :=
  @carries_iff_no_inFrameGap noise transportLaws channelSender channelReceiver [[], [1, 2, 3]]
    channel_matching (by decide)

/-- A plaintext of 49140 bytes is admitted by the first check, and its frame is refused. -/
theorem not_carries_frameGap :
    @Matching noise transportLaws channelSender channelReceiver ∧
      ¬@Carries noise channelSender channelReceiver [List.replicate 49140 0] := by
  refine ⟨channel_matching, fun h => ?_⟩
  refine @admits_no_gap noise transportLaws channelSender [List.replicate 49140 0] (by decide)
    (@Carries.admits noise _ _ _ h) _ (List.mem_cons_self ..) ?_
  rw [InFrameGap, List.length_replicate]
  decide

end Loopback

end OmarchySync
