import OmarchySync.Runtime.Convergence
import OmarchySync.Runtime.Established

/-!
# No half trust

Over any number of attempts, losses, crashes and revocations the initiating device never holds
an active record that the responding device has not activated before, byte for byte.
-/

namespace OmarchySync

open Logic Wire Traced PairingM

section Joint

variable [Crypto] [Noise] [TransportLaws] [Serde]

namespace Joint

/-- What every state of the two devices keeps to. -/
structure Sound (J : Joint) : Prop where
  stands : J.responder.Stands
  backed : J.initiator.BackedBy J.responder
  course : ∀ i, Conversation J.responder (J.links i)

/-- The initiator's record under a PairID is the responder's, byte for byte. -/
structure NoHalfTrust (J : Joint) (pairId : Text) : Prop where
  held : ∀ bytes, J.initiator.file .active (recordFile pairId) = some bytes →
    ∃ record, PairingRecord.fromBytes bytes = .ok record ∧ record.pairId = pairId ∧
      (J.responder.file .active (recordFile pairId) = some bytes ∨
        J.responder.file .revoked (recordFile pairId) = some bytes)
  agrees : ∀ bytes bytes', J.initiator.file .active (recordFile pairId) = some bytes →
    J.responder.file .active (recordFile pairId) = some bytes' → bytes' = bytes

variable {D : Devices} {J J' : Joint}

private theorem start_sound : start.Sound := by
  constructor
  · exact Host.empty_stands
  · exact Host.empty_backedBy _
  · exact fun _ => .unused

private theorem Sound.noHalfTrust (h : J.Sound) {pairId : Text} (hid : HexId pairId) :
    J.NoHalfTrust pairId := by
  constructor
  · intro bytes hfile
    obtain ⟨record, rfl, rfl, hactivated⟩ := h.backed pairId bytes hid hfile
    exact ⟨record, hactivated.read, rfl, hactivated.file⟩
  · intro bytes bytes' hfile hfile'
    obtain ⟨record, rfl, rfl, hactivated⟩ := h.backed pairId bytes hid hfile
    exact hactivated.active_eq hfile'

private theorem course_setLink {b : Host} {links : Nat → Link} {i : Nat} {l : Link}
    (hcourse : ∀ j, Conversation b (links j)) (hl : Conversation b l) (j : Nat) :
    Conversation b (Function.update links i l j) := by
  by_cases hj : j = i
  · rw [hj, Function.update_self]
    exact hl
  · rw [Function.update_of_ne hj]
    exact hcourse j

private theorem Sound.setLink (h : J.Sound) (i : Nat) {l : Link} (hl : Conversation J.responder l) :
    (J.setLink i l).Sound :=
  ⟨h.stands, h.backed, course_setLink h.course hl⟩

/-- The responder's store moves on, and with it one connection. -/
theorem Sound.responder {b : Host} (h : J.Sound) (hb : b.Outlasts J.responder) (i : Nat) {l : Link}
    (hl : Conversation b l) : Sound { J.setLink i l with responder := b } := by
  constructor
  · exact hb.stands h.stands
  · exact h.backed.outlast hb
  · exact course_setLink (fun j => (h.course j).outlast hb) hl

theorem Sound.initiator {a : Host} (h : J.Sound) (ha : a.BackedBy J.responder) (i : Nat) {l : Link}
    (hl : Conversation J.responder l) : Sound { J.setLink i l with initiator := a } :=
  ⟨h.stands, ha, course_setLink h.course hl⟩

variable [LawfulSerde] [AppSerde] [LawfulAppSerde] [HandshakeLaws]

private theorem Step.sound (hstep : Step D J J') (h : J.Sound) : J'.Sound := by
  cases hstep with
  | dial i os hunused => exact h.setLink i (.dial ..)
  | accept i os => exact h.setLink i ((h.course i).accept ..)
  | initiatorReads i env =>
      obtain ⟨hcourse, hpath⟩ := (h.course i).initiatorReads D.initiator env J.initiator
      exact h.initiator (backedBy_of_path hpath h.backed).1 i hcourse
  | initiatorCrashes i env l a e hvisited =>
      obtain ⟨-, hpath⟩ := (h.course i).initiatorReads D.initiator env J.initiator
      exact h.initiator ((backedBy_of_path hpath h.backed).2 l a hvisited) i (.returned ..)
  | initiatorLost i e => exact h.setLink i (.returned ..)
  | responderReads i env broker =>
      have hpath := Conversation.responderReads_path (J.links i) D.responder env broker J.responder
      exact h.responder (outlasts_of_path hpath).1 i ((h.course i).responderReads h.stands ..)
  | responderCrashes i env broker l b e hvisited =>
      have hpath := Conversation.responderReads_path (J.links i) D.responder env broker J.responder
      have hb := (outlasts_of_path hpath).2 l b hvisited
      exact h.responder hb i (((h.course i).responderLost e _).outlast hb)
  | responderLost i e => exact h.setLink i ((h.course i).responderLost e _)
  | revokeInitiator now pairId =>
      have hpath := (revoke_keeps J.responder.Acknowledges ⟨D.initiator.root, now⟩
        D.initiator.identity pairId J.initiator).1
      exact ⟨h.stands, (backedBy_of_path hpath h.backed).1, h.course⟩
  | revokeResponder now pairId =>
      have hpath := (revoke_keeps (fun _ => True) ⟨D.responder.root, now⟩ D.responder.identity pairId
        J.responder).1
      have hb := (outlasts_of_path hpath).1
      exact ⟨hb.stands h.stands, h.backed.outlast hb, fun i => (h.course i).outlast hb⟩

/-- No interleaving of attempts leads to an active record of the initiator that the responder has
not activated before. -/
theorem no_half_trust (hreach : Reachable D J) (pairId : Text) (hid : HexId pairId) :
    J.NoHalfTrust pairId := by
  have hsound : J.Sound := by
    induction hreach with
    | refl => exact start_sound
    | tail _ hstep ih => exact hstep.sound ih
  exact hsound.noHalfTrust hid

end Joint

end Joint

namespace Loopback

attribute [local instance] crypto noise transportLaws handshakeLaws lawfulCrypto
  PairingRecord.canonicalSerde PairingRecord.canonicalSerde_lawful PairMessage.canonicalSerde
  PairMessage.canonicalSerde_lawful

def devices : Devices :=
  ⟨⟨identity 1, root, certificate (keyOf 1), deviceIdOf 2⟩, responderRuntime⟩

/-- One attempt up to the acknowledgement. -/
def acknowledgedAttempt : Joint :=
  ((((Joint.start.dial devices 0 (opening 11)).accept devices 0 (opening 12)).responderReads devices 0
    env approving).initiatorReads devices 0 env).responderReads devices 0 env approving

private theorem acknowledgedAttempt_reachable : Joint.Reachable devices acknowledgedAttempt :=
  ((((Relation.ReflTransGen.refl.tail (.dial _ 0 _ rfl)).tail (.accept _ 0 _)).tail
    (.responderReads _ 0 _ _)).tail (.initiatorReads _ 0 _)).tail (.responderReads _ 0 _ _)

private def enrolled : Partners :=
  ⟨root, identity 1, identity 2, certificate (keyOf 1), certificate (keyOf 2), ⟨rfl, rfl⟩,
    ⟨rfl, rfl⟩, by decide +kernel⟩

private def wholeAttempt : Attempt :=
  ⟨opening 11, opening 12, env, env, env, env, approving⟩

private theorem wholeAttempt_regular :
    wholeAttempt.Regular enrolled Joint.start.initiator Joint.start.responder := by
  have hvalid : enrolled.ValidAt 100 := ⟨by decide +kernel, by decide +kernel⟩
  have hunnamed : Partners.Unnamed Host.empty (pairIdOf 7) := fun folder => Host.file_empty folder _
  constructor
  · exact ⟨hvalid, hvalid⟩
  · exact ⟨hvalid, hvalid⟩
  · exact (by decide : (100 : UInt64) ≠ 0)
  · exact ⟨_, rfl, hunnamed, hunnamed⟩
  · intro grant hgrant
    obtain rfl := Except.ok.inj hgrant
    exact ⟨by decide, by decide⟩

/-- After the acknowledgement both devices hold the record. -/
theorem no_half_trust_acknowledged :
    ((acknowledgedAttempt.initiatorReads devices 0 env).initiator.file .active
        (recordFile (pairIdOf 7))).isSome = true ∧
      (acknowledgedAttempt.initiatorReads devices 0 env).NoHalfTrust (pairIdOf 7) := by
  constructor
  · obtain ⟨t, hpairId, hcontact⟩ := Partners.attempt_first Partners.blank_empty
      Partners.blank_empty.offered wholeAttempt_regular rfl (fun _ => ⟨_, rfl⟩) 0
    have hwhole : acknowledgedAttempt.initiatorReads devices 0 env =
        Joint.start.attempt enrolled.devices 0 wholeAttempt 6 := rfl
    have hmem : enrolled.agreed t ∈
        enrolled.records (acknowledgedAttempt.initiatorReads devices 0 env).initiator .active := by
      rw [hwhole, hcontact.concluded.1.active]
      exact Set.mem_singleton _
    obtain ⟨bytes, hfile, -⟩ := hmem.1.stored
    rw [Partners.agreed_pairId, hpairId] at hfile
    exact Option.isSome_iff_exists.mpr ⟨bytes, hfile⟩
  · apply Joint.no_half_trust (acknowledgedAttempt_reachable.tail (.initiatorReads _ 0 env))
    exact (not_badHexId_iff _).mp (by decide)

end Loopback

end OmarchySync
