import OmarchySync.Pairing.SingleHandshake

/-!
# Rejected start frames

`receiveInitiatorStart` stores the PairID of a frame before it builds the handshake and reads
the message. A responder that learns its PairID this way keeps it although the call fails.
-/

namespace OmarchySync

open Logic Wire Traced PairingM

section Starts

variable [Crypto] [Noise]

namespace PairingResponder

/-- The text of the PairID check. -/
def pairIdDiffers : String := "pairing PairID differs from the active relationship"

/-- The parties reached by calls that were rejected, with the randomness each of them drew. -/
inductive Rejected (p : Party PairingResponder) :
    List (Noise.Entropy × Bytes) → Party PairingResponder → Prop where
  | none : Rejected p [] p
  | more {frames q entropy frame e} (hbefore : Rejected p frames q)
      (herror : (receiveInitiatorStart entropy frame q).result = .error e) :
      Rejected p (frames ++ [(entropy, frame)])
        (endState q (receiveInitiatorStart entropy frame q).visited)

/-- The party `q` takes the frame as `p` would, and goes on under the frame's PairID. -/
structure StartsAlike (entropy : Noise.Entropy) (frame : Bytes) (p q : Party PairingResponder) :
    Prop where
  result : (receiveInitiatorStart entropy frame q).result =
    (receiveInitiatorStart entropy frame p).result
  state : ∀ out, (receiveInitiatorStart entropy frame q).result = .ok out →
    endState q (receiveInitiatorStart entropy frame q).visited =
      endState p (receiveInitiatorStart entropy frame p).visited
  continues : ∀ out, (receiveInitiatorStart entropy frame q).result = .ok out →
    ∃ mode pairId message,
      decodeStartFrame frame maxHandshakeFrame = .ok (mode, pairId, message) ∧
      (endState q (receiveInitiatorStart entropy frame q).visited).self.pairId = some pairId

/-- A well-formed start frame in the responder's mode. -/
def readStart (y : PairingResponder) (frame : Bytes) : Result (UInt8 × Text × Bytes) := do
  let start ← decodeStartFrame frame maxHandshakeFrame
  bailIf (start.1 ≠ y.mode) "pairing authentication mode differs"
  return start

/-- The PairID that such a frame claims. -/
def claimOf (y : PairingResponder) (frame : Bytes) : Option Text :=
  (y.readStart frame).toOption.map fun start => start.2.1

/-- The first PairID that frames claim. -/
def firstClaim (y : PairingResponder) (frames : List (Noise.Entropy × Bytes)) : Option Text :=
  frames.findSome? fun x => y.claimOf x.2

/-- A responder without a PairID has seen no other one claimed than `frame` claims. -/
def Unspoiled (y : PairingResponder) (frames : List (Noise.Entropy × Bytes)) (frame : Bytes) :
    Prop :=
  y.pairId = none → ∀ first claimed, y.firstClaim frames = some first →
    y.claimOf frame = some claimed → claimed = first

/-- The checks of a start. -/
def checkStart (y : PairingResponder) (frame : Bytes) : Result (UInt8 × Text × Bytes) := do
  let start ← y.readStart frame
  bailIf (y.pairId ≠ none ∧ y.pairId ≠ some start.2.1) pairIdDiffers
  return start

/-- The handshake steps behind them, with the two other values a start stores. -/
def respond (entropy : Noise.Entropy) (start : UInt8 × Text × Bytes) :
    Result (Bytes × Array8 32 × Noise.HandshakeState) := do
  let built ← buildHandshake false start.1 start.2.1 entropy
  let read := Noise.readHandshake built.1 maxHandshakeFrame start.2.2
  let _ ← labelled "read Noise initiator message 1: " read.1
  let written := Noise.writeHandshake read.2 maxHandshakeFrame []
  let message2 ← labelled "write Noise responder message 2: " written.1
  let out ← encodeFrame kindHandshake roleResponder message2 maxHandshakeFrame
  return (out, built.2, written.2)

/-- The responder without the fields that a start sets. -/
def bare (y : PairingResponder) : PairingResponder :=
  { y with pairId := none, localStaticPublic := List.Vector.replicate 32 0, handshake := none }

variable {p q : Party PairingResponder} {entropy : Noise.Entropy} {frame : Bytes}
  {frames : List (Noise.Entropy × Bytes)}

/-- What a start does to a party: only the three fields change, the PairID stays once it is known
and is otherwise the claimed one, and success stores what the handshake steps return. -/
structure Started (p : Party PairingResponder) (entropy : Noise.Entropy) (frame : Bytes)
    (r : Result Bytes) (q : Party PairingResponder) : Prop where
  result : r = (do return (← respond entropy (← p.self.checkStart frame)).1)
  acts : q.acts = p.acts
  bare : q.self.bare = p.self.bare
  pairId : q.self.pairId = p.self.pairId.or (p.self.claimOf frame)
  stored : ∀ out, r = .ok out → ∃ start static handshake,
    p.self.checkStart frame = .ok start ∧ respond entropy start = .ok (out, static, handshake) ∧
      q.self = { q.self.bare with
        pairId := some start.2.1, localStaticPublic := static, handshake := some handshake }

private theorem started_of_refused {e : String} (hrefused : p.self.checkStart frame = .error e) :
    Started p entropy frame (.error e) p := by
  constructor
  · rw [hrefused]
    rfl
  · rfl
  · rfl
  · cases hread : p.self.readStart frame with
    | error e' => simp [claimOf, hread, Except.toOption]
    | ok start =>
        have hknown : p.self.pairId ≠ none := by
          intro hnone
          simp [checkStart, hread, hnone, pure_result] at hrefused
        obtain ⟨pairId, hpair⟩ := Option.ne_none_iff_exists'.mp hknown
        rw [hpair]
        rfl
  · intro out hout
    cases hout

private theorem pairId_of_checkStart {y : PairingResponder} {start : UInt8 × Text × Bytes}
    (hchecked : y.checkStart frame = .ok start) :
    some start.2.1 = y.pairId.or (y.claimOf frame) := by
  simp only [checkStart, bind_eq_ok, bailIf_eq_ok, exists_const, pure_eq_ok] at hchecked
  obtain ⟨named, hread, hsame, rfl⟩ := hchecked
  cases hpair : y.pairId with
  | none => simp [claimOf, hread, Except.toOption]
  | some pairId =>
      rw [hpair] at hsame
      have heq : some pairId = some named.2.1 := by
        by_contra hne
        exact hsame ⟨by simp, hne⟩
      rw [← heq]
      rfl

private theorem receiveInitiatorStart_spec (p : Party PairingResponder) (entropy : Noise.Entropy)
    (frame : Bytes) :
    Keeps (Tells fun _ _ => True) (receiveInitiatorStart entropy frame) (Started p entropy frame)
      p := by
  rw [receiveInitiatorStart, keeps_lift_bind]
  constructor
  · intro start hstart
    rw [keeps_self_bind, keeps_lift_bind]
    constructor
    · intro _ hmode
      have hread : p.self.readStart frame = .ok start := by
        simp only [readStart, hstart, hmode, ok_bind, pure_result]
      rw [keeps_lift_bind]
      constructor
      · intro _ hguard
        have hchecked : p.self.checkStart frame = .ok start := by
          simp only [checkStart, hread, pairIdDiffers, hguard, ok_bind, pure_result]
        have hpair := pairId_of_checkStart hchecked
        have hfail : ∀ e static handshake, respond entropy start = .error e →
            Started p entropy frame (.error e)
              ⟨{ p.self with pairId := some start.2.1, localStaticPublic := static, handshake },
                p.acts⟩ := by
          intro e static handshake hrespond
          refine ⟨?_, rfl, rfl, hpair, ?_⟩
          · rw [hchecked, ok_bind, hrespond]
            rfl
          · intro out hout
            cases hout
        rw [keeps_update_bind, keeps_lift_bind]
        constructor
        · intro built hbuild
          rw [keeps_update_bind, keeps_lift_bind]
          constructor
          · intro payload hread1
            rw [keeps_update_bind, keeps_lift_bind]
            constructor
            · intro message2 hwrite
              rw [keeps_lift]
              cases hout : encodeFrame kindHandshake roleResponder message2 maxHandshakeFrame with
              | error e =>
                  apply hfail
                  simp only [respond, hbuild, hread1, hwrite, hout, ok_bind, error_bind]
              | ok out =>
                  have hrespond : respond entropy start = .ok (out, built.2,
                      (Noise.writeHandshake (Noise.readHandshake built.1 maxHandshakeFrame
                        start.2.2).2 maxHandshakeFrame []).2) := by
                    simp only [respond, hbuild, hread1, hwrite, hout, ok_bind, pure_result]
                  refine ⟨?_, rfl, rfl, hpair, ?_⟩
                  · rw [hchecked, ok_bind, hrespond]
                    rfl
                  · intro out' hout'
                    obtain rfl := Except.ok.inj hout'
                    exact ⟨start, built.2, _, hchecked, hrespond, rfl⟩
            · intro e hwrite
              apply hfail
              simp only [respond, hbuild, hread1, hwrite, ok_bind, error_bind]
          · intro e hread1
            apply hfail
            simp only [respond, hbuild, hread1, ok_bind, error_bind]
        · intro e hbuild
          apply hfail e p.self.localStaticPublic p.self.handshake
          simp only [respond, hbuild, error_bind]
      · intro e hguard
        apply started_of_refused
        simp only [checkStart, hread, pairIdDiffers, hguard, ok_bind, error_bind]
    · intro e hmode
      apply started_of_refused
      simp only [checkStart, readStart, hstart, hmode, ok_bind, error_bind]
  · intro e hstart
    apply started_of_refused
    simp only [checkStart, readStart, hstart, error_bind]

omit [Crypto] [Noise] in
private theorem labelled_avoids {α : Type} {label message : String} {r : Result α}
    (h : ¬label.toList <+: message.toList) : Avoids message (labelled label r) := by
  cases r with
  | ok a => exact avoids_ok a
  | error e =>
      intro heq
      have htext : label ++ e = message := Except.error.inj heq
      apply h
      rw [← htext, String.toList_append]
      exact List.prefix_append ..

omit [Crypto] in
private theorem respond_avoids
    (hbuild : ∀ prologue, Avoids pairIdDiffers (Noise.build false prologue entropy))
    (start : UInt8 × Text × Bytes) : Avoids pairIdDiffers (respond entropy start) := by
  apply Avoids.bind
  · apply Avoids.bind (avoids_bailIf _ (by decide))
    intro _ _
    apply Avoids.bind (avoids_bailIf _ (by decide))
    intro _ _
    exact hbuild _
  · intro built _
    apply Avoids.bind (labelled_avoids (by decide))
    intro _ _
    apply Avoids.bind (labelled_avoids (by decide))
    intro message2 _
    apply Avoids.bind
    · apply Avoids.bind (avoids_bailIf _ (by decide))
      intro _ _
      apply Avoids.bind (avoids_bailIf _ (by decide))
      intro _ _
      exact avoids_ok _
    · intro out _
      exact avoids_ok _

private theorem readStart_congr {x y : PairingResponder} (hmode : x.mode = y.mode) :
    x.readStart frame = y.readStart frame := by
  rw [readStart, readStart, hmode]

/-- Rejected frames leave a party that differs in what they claimed. -/
structure Spoiled (p : Party PairingResponder) (frames : List (Noise.Entropy × Bytes))
    (q : Party PairingResponder) : Prop where
  acts : q.acts = p.acts
  bare : q.self.bare = p.self.bare
  pairId : q.self.pairId = p.self.pairId.or (p.self.firstClaim frames)

private theorem Spoiled.readStart (h : Spoiled p frames q) (frame : Bytes) :
    q.self.readStart frame = p.self.readStart frame := by
  have hmode : q.self.bare.mode = p.self.bare.mode := congrArg Pairing.mode h.bare
  exact readStart_congr hmode

private theorem Rejected.spoiled (h : Rejected p frames q) : Spoiled p frames q := by
  induction h with
  | none => exact ⟨rfl, rfl, by simp [firstClaim]⟩
  | @more frames q entropy frame e _ _ ih =>
      have hstarted := (receiveInitiatorStart_spec q entropy frame).2
      constructor
      · exact hstarted.acts.trans ih.acts
      · exact hstarted.bare.trans ih.bare
      · have hclaim : q.self.claimOf frame = p.self.claimOf frame := by
          rw [claimOf, claimOf, ih.readStart]
        rw [hstarted.pairId, ih.pairId, hclaim, Option.or_assoc]
        simp [firstClaim, List.findSome?_append]

private theorem checkStart_of_readStart_error {y : PairingResponder} {e : String}
    (hread : y.readStart frame = .error e) : y.checkStart frame = .error e := by
  rw [checkStart, hread, error_bind]

private theorem Spoiled.checkStart_eq (h : Spoiled p frames q)
    (hunspoiled : Unspoiled p.self frames frame) :
    q.self.checkStart frame = p.self.checkStart frame := by
  cases hread : p.self.readStart frame with
  | error e =>
      rw [checkStart_of_readStart_error hread,
        checkStart_of_readStart_error ((h.readStart frame).trans hread)]
  | ok start =>
      have hclaimed : p.self.claimOf frame = some start.2.1 := by
        rw [claimOf, hread]
        rfl
      rw [checkStart, checkStart, h.readStart frame, hread, ok_bind, ok_bind, h.pairId]
      cases hpair : p.self.pairId with
      | some pairId => rfl
      | none =>
          cases hfirst : p.self.firstClaim frames with
          | none => rfl
          | some first =>
              obtain rfl := hunspoiled hpair first _ hfirst hclaimed
              simp

private theorem Spoiled.checkStart_error (h : Spoiled p frames q) (hpair : p.self.pairId = none)
    {first claimed : Text} (hfirst : p.self.firstClaim frames = some first)
    (hclaimed : p.self.claimOf frame = some claimed) (hne : claimed ≠ first) :
    q.self.checkStart frame = .error pairIdDiffers ∧
      ∃ start, p.self.checkStart frame = .ok start := by
  cases hread : p.self.readStart frame with
  | error e =>
      rw [claimOf, hread] at hclaimed
      cases hclaimed
  | ok start =>
      rw [claimOf, hread] at hclaimed
      obtain rfl : start.2.1 = claimed := Option.some.inj hclaimed
      have hother : first ≠ start.2.1 := fun heq => hne heq.symm
      constructor
      · rw [checkStart, h.readStart frame, hread, ok_bind, h.pairId, hpair, hfirst]
        simp [bailIf, hother]
      · refine ⟨start, ?_⟩
        rw [checkStart, hread, ok_bind, hpair]
        simp [pure_result]

/-- After rejected frames the responder treats a start frame as it would have before if and only
if it knew its PairID from the beginning or no other PairID was claimed first. -/
theorem startsAlike_iff_unspoiled (p q : Party PairingResponder)
    (frames : List (Noise.Entropy × Bytes)) (entropy : Noise.Entropy) (frame : Bytes)
    (hrejected : Rejected p frames q)
    (hbuild : ∀ prologue, Avoids pairIdDiffers (Noise.build false prologue entropy)) :
    StartsAlike entropy frame p q ↔ Unspoiled p.self frames frame := by
  have hspoiled := hrejected.spoiled
  have hp := (receiveInitiatorStart_spec p entropy frame).2
  have hq := (receiveInitiatorStart_spec q entropy frame).2
  constructor
  · intro halike hpair first claimed hfirst hclaimed
    by_contra hne
    obtain ⟨hrefused, start, hchecked⟩ := hspoiled.checkStart_error hpair hfirst hclaimed hne
    have hfails : (receiveInitiatorStart entropy frame p).result = .error pairIdDiffers := by
      rw [← halike.result, hq.result, hrefused]
      rfl
    have hother : Avoids pairIdDiffers (do return (← respond entropy start).1) :=
      (respond_avoids hbuild start).bind fun _ _ => avoids_ok _
    apply hother
    rw [← hfails, hp.result, hchecked, ok_bind]
  · intro hunspoiled
    have hchecked := hspoiled.checkStart_eq hunspoiled
    have hresult : (receiveInitiatorStart entropy frame q).result =
        (receiveInitiatorStart entropy frame p).result := by
      rw [hq.result, hp.result, hchecked]
    constructor
    · exact hresult
    · intro out hout
      obtain ⟨start, static, handshake, hstart, hrespond, hself⟩ := hq.stored out hout
      obtain ⟨start', static', handshake', hstart', hrespond', hself'⟩ :=
        hp.stored out (hresult ▸ hout)
      obtain rfl : start = start' := by
        rw [hchecked, hstart'] at hstart
        exact (Except.ok.inj hstart).symm
      rw [hrespond] at hrespond'
      cases hrespond'
      have hacts := hq.acts.trans (hspoiled.acts.trans hp.acts.symm)
      have hbare := hq.bare.trans (hspoiled.bare.trans hp.bare.symm)
      rw [hbare] at hself
      exact congrArg₂ Party.mk (hself.trans hself'.symm) hacts
    · intro out hout
      obtain ⟨start, static, handshake, hstart, -, hself⟩ := hq.stored out hout
      have hread : q.self.readStart frame = .ok start := by
        simp only [checkStart, bind_eq_ok, bailIf_eq_ok, exists_const, pure_eq_ok] at hstart
        obtain ⟨_, hread, -, rfl⟩ := hstart
        exact hread
      have hdecode : decodeStartFrame frame maxHandshakeFrame = .ok start := by
        simp only [PairingResponder.readStart, bind_eq_ok, bailIf_eq_ok, exists_const,
          pure_eq_ok] at hread
        obtain ⟨_, hdecode, -, rfl⟩ := hread
        exact hdecode
      exact ⟨start.1, start.2.1, start.2.2, hdecode, by rw [hself]⟩

end PairingResponder

end Starts

namespace Loopback

attribute [local instance] crypto noise

/-- A start frame without the message of the handshake. -/
def emptyStart (n : UInt8) : Bytes :=
  handshakeFrame roleInitiator (modeFirstContact :: (pairIdOf n).bytes)

/-- A responder for first contact that rejected such a frame. -/
def startedEmpty (n : UInt8) : Party PairingResponder :=
  endState ⟨pairingResponder, []⟩ (PairingResponder.receiveInitiatorStart (keyOf 13) (emptyStart n)
    ⟨pairingResponder, []⟩).visited

private theorem startedEmpty_rejected {n : UInt8} (hfails : (PairingResponder.receiveInitiatorStart
      (keyOf 13) (emptyStart n) ⟨pairingResponder, []⟩).result.isOk = false) :
    PairingResponder.Rejected ⟨pairingResponder, []⟩ [(keyOf 13, emptyStart n)]
      (startedEmpty n) := by
  cases hresult : (PairingResponder.receiveInitiatorStart (keyOf 13) (emptyStart n)
      ⟨pairingResponder, []⟩).result with
  | ok out =>
      rw [hresult] at hfails
      cases hfails
  | error e => exact PairingResponder.Rejected.none.more hresult

/-- The frame that broke off under one PairID keeps out the start under another. -/
theorem not_startsAlike_empty :
    ¬∀ x : PairingResponder, x.Constructed → ∀ frames q entropy frame,
      PairingResponder.Rejected ⟨x, []⟩ frames q →
        PairingResponder.StartsAlike entropy frame ⟨x, []⟩ q := by
  intro hclaim
  have hrejected := startedEmpty_rejected (n := 8) (by decide +kernel)
  have halike := hclaim pairingResponder pairingResponder_constructed _ _ (keyOf 12) (startOf 11)
    hrejected
  have hbefore : (PairingResponder.receiveInitiatorStart (keyOf 12) (startOf 11)
      ⟨pairingResponder, []⟩).result.isOk = true := by
    decide +kernel
  have hafter : (PairingResponder.receiveInitiatorStart (keyOf 12) (startOf 11)
      (startedEmpty 8)).result.isOk = false := by
    decide +kernel
  rw [halike.result, hbefore] at hafter
  cases hafter

theorem startsAlike_iff_unspoiled_empty :
    PairingResponder.StartsAlike (keyOf 12) (startOf 11) ⟨pairingResponder, []⟩ (startedEmpty 7) ↔
      PairingResponder.Unspoiled pairingResponder [(keyOf 13, emptyStart 7)] (startOf 11) :=
  PairingResponder.startsAlike_iff_unspoiled ⟨pairingResponder, []⟩ (startedEmpty 7)
    [(keyOf 13, emptyStart 7)] (keyOf 12) (startOf 11)
    (startedEmpty_rejected (by decide +kernel)) fun _ => avoids_ok _

end Loopback

end OmarchySync
