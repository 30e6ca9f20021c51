import OmarchySync.Runtime.Convergence
import OmarchySync.Runtime.Prompt
import OmarchySync.Trust.Order

/-!
# Rival offers

Once the responder's user has approved, the next attempt that is not cut pairs the two, and
nobody is asked again, unless an offer of the responder stands beside the one that the initiator
has co-signed: then it depends on the order of a directory which of them is recovered.
-/

namespace OmarchySync

open Logic Wire Traced PairingM

section Rivals

variable [Crypto] [Noise] [Serde]

namespace Link

/-- What the responder does next does not depend on its user. -/
inductive Unasked (l : Link) : Prop where
  | silent (hnil : l.toResponder = [])
  | returned {result} (hstage : l.responder = .returned result)
  | complete {store session} (hstage : l.responder = .complete store session)
  | request {store found session} (hstage : l.responder = .request store found session)
      (hfound : found.activePair ≠ none ∨ found.pending ≠ none)

omit [Serde] in
theorem Over.unasked {l : Link} (hover : l.Over) : l.Unasked := by
  rcases hover.responder with ⟨_, hstage⟩ | hnil
  · exact .returned hstage
  · exact .silent hnil

variable [AppSerde] {l : Link}

theorem Unasked.responderReads (h : l.Unasked) (rt : Runtime) (env : Env)
    (broker broker' : AuthorizationBroker) (b : Host) :
    l.responderReads rt env broker b = l.responderReads rt env broker' b := by
  have hread : (∀ frame, l.responder.receive rt env broker frame =
      l.responder.receive rt env broker' frame) →
      l.responderReads rt env broker b = l.responderReads rt env broker' b := by
    intro hreceive
    simp only [Link.responderReads, hreceive]
  cases h with
  | silent hnil => rw [responderReads_nil hnil, responderReads_nil hnil]
  | returned hstage =>
      apply hread
      intro frame
      rw [hstage]
      rfl
  | complete hstage =>
      apply hread
      intro frame
      rw [hstage]
      rfl
  | @request store found session hstage hfound =>
      apply hread
      intro frame
      rw [hstage]
      simp only [ResponderStage.receive, ResponderStage.onRequest]
      cases hactive : found.activePair with
      | some pairId => rfl
      | none =>
          have hpending := hfound.resolve_left (not_not.mpr hactive)
          simp only [preparedRecord_unasked hpending broker broker']

/-- Both drivers have failed. -/
structure Refused (l : Link) : Prop where
  initiator : ∃ e, l.initiator = .returned (.error e)
  responder : ∃ result, l.responder = .returned result
  silent : l.toInitiator = []

theorem Refused.responderReads (h : l.Refused) (rt : Runtime) (env : Env)
    (broker : AuthorizationBroker) (b : Host) :
    (l.responderReads rt env broker b).link.Refused := by
  obtain ⟨hinitiator, ⟨result, hstage⟩, hsilent⟩ := h
  cases hread : readWire l.toResponder with
  | error e =>
      simp only [Link.responderReads, hread]
      exact ⟨hinitiator, ⟨result, hstage⟩, hsilent⟩
  | ok out =>
      refine responderReads_keeps (R := fun _ l' => l'.Refused) hread ?_
      rw [hstage]
      exact (keeps_pure _).mpr
        ⟨hinitiator, ⟨result, rfl⟩, (List.append_nil _).trans hsilent⟩

theorem Refused.initiatorReads (h : l.Refused) (rt : Runtime) (env : Env) (a : Host) :
    (l.initiatorReads rt env a).link.Refused := by
  obtain ⟨e, hread⟩ := readWire_nil
  rw [← h.silent] at hread
  simp only [Link.initiatorReads, hread]
  exact h

end Link

/-- The attempt with the directories listed in the orders of another one. -/
def Attempt.listedAs (x y : Attempt) : Attempt :=
  { x with
    dial := { x.dial with
      activeOrder := y.dial.activeOrder
      pendingOrder := y.dial.pendingOrder
      recoveryOrder := y.dial.recoveryOrder }
    accept := { x.accept with
      activeOrder := y.accept.activeOrder
      pendingOrder := y.accept.pendingOrder
      recoveryOrder := y.accept.recoveryOrder } }

namespace Partners

variable (P : Partners)

/-- The responder has an offer on file, or a pairing. -/
def Offers (b : Host) : Prop := (P.records b .pending ∪ P.records b .active).Nonempty

/-- Unless the responder has activated a record, all its offers are under the PairID of the one
that the initiator has co-signed, if there is such a one. -/
def Unrivalled (a b : Host) : Prop :=
  P.records b .active = ∅ → ∀ r ∈ P.records a .pending, ∀ r' ∈ P.records b .pending,
    r'.pairId = r.pairId

variable [AppSerde]

/-- In one of the attempts so far the responder's user has approved the initiator. -/
inductive Approved : Joint → Prop where
  | granted {J : Joint} (hhistory : P.History J) (i : Nat) (x : Attempt)
      (hx : x.Regular P J.initiator J.responder) (k : Nat) {new : List Event}
      (hjournal : (J.attempt P.devices i x k).responder.journal = J.responder.journal ++ new)
      (hnew : .approved P.initiatorCertificate ∈ new) : Approved (J.attempt P.devices i x k)
  | attempt {J : Joint} (happroved : Approved J) (i : Nat) (x : Attempt)
      (hx : x.Regular P J.initiator J.responder) (k : Nat) : Approved (J.attempt P.devices i x k)

/-- The whole attempt pairs the two and takes the same course whatever the user would say. -/
structure Recovers (J : Joint) (i : Nat) (x : Attempt) : Prop where
  concluded : ∃ t, P.Concluded t (J.attempt P.devices i x 6).initiator
    (J.attempt P.devices i x 6).responder ((J.attempt P.devices i x 6).links i)
  unasked : ∀ broker, J.attempt P.devices i { x with broker } 6 = J.attempt P.devices i x 6

section Positions

variable [TransportLaws] {P : Partners} {x : Attempt} {a b : Host} {l : Link}
  {undisturbed : Prop}

omit [Noise] [TransportLaws] [AppSerde] in
private theorem Backs.offers {t : Terms} (h : P.Backs b t) : P.Offers b :=
  ⟨P.offer t, .inl h.offer⟩

omit [Noise] [TransportLaws] [AppSerde] in
private theorem Paired.offers {t : Terms} (h : P.Paired b t) : P.Offers b := by
  refine ⟨P.agreed t, .inr ?_⟩
  rw [h.active]
  exact Set.mem_singleton _

omit [AppSerde] in
private theorem NewOffer.offers {t : Terms} (h : P.NewOffer t a b l) : P.Offers b := by
  cases h with | mk _ hb => exact hb.offers

omit [AppSerde] in
private theorem OldOffer.offers {t u : Terms} (h : P.OldOffer t u a b l) : P.Offers b := by
  cases h with | mk _ hb => exact hb.offers

omit [AppSerde] in
private theorem Presented.offers {t : Terms} (h : P.Presented t a b l) : P.Offers b := by
  cases h with | mk _ hb => exact hb.offers

omit [AppSerde] in
private theorem Acknowledged.offers {t : Terms} (h : P.Acknowledged t a b l) : P.Offers b := by
  cases h with | mk _ hb => exact hb.offers

omit [AppSerde] in
private theorem Requested.unasked (h : P.Requested x a b l) (hoffers : P.Offers b) :
    l.Unasked := by
  cases h with
  | first h =>
      obtain @⟨_, _, _, _, _, pending, _, _, hb, _, _, _, _, _, hnone, _⟩ := h
      refine .request rfl (.inr ?_)
      intro hnil
      obtain ⟨r, hpending | hactive⟩ := hoffers
      · rw [hnone hnil] at hpending
        exact absurd hpending (Set.notMem_empty r)
      · rw [hb.active] at hactive
        exact absurd hactive (Set.notMem_empty r)
  | recovery _ _ _ h => cases h with | mk => exact .request rfl (.inr (by simp))
  | reconnect _ h => cases h with | mk => exact .request rfl (.inl (by simp))
  | missed _ _ hover => exact hover.unasked

omit [AppSerde] in
private theorem Replied.unasked (h : P.Replied undisturbed a b l) : l.Unasked := by
  cases h with
  | returning _ h => cases h with | mk => exact .complete rfl
  | acknowledged _ h => cases h with | mk => exact .returned rfl
  | missed _ _ hover => exact hover.unasked

variable [LawfulCrypto] [LawfulSerde] [LawfulAppSerde]

private theorem Requested.offers (h : P.Requested x a b l) (hx : x.Regular P a b) :
    endState b (l.responderReads P.devices.responder x.offer x.broker b).visited = b ∨
      P.Offers (endState b (l.responderReads P.devices.responder x.offer x.broker b).visited) := by
  cases h with
  | first h =>
      rcases h.responderReads x.offer hx.grants with ⟨t, -, -, -, hnew⟩ | ⟨-, -, hsame, -⟩
      · exact .inr hnew.offers
      · exact .inl hsame
  | recovery _ hfair' _ h => exact .inr (h.responderReads hfair').offers
  | reconnect hfair h => exact .inr (h.responderReads hfair).offers
  | missed _ _ hover => exact .inl (hover.responderReads ..).1

private theorem Replied.offers {env : Env} {broker : AuthorizationBroker}
    (h : P.Replied undisturbed a b l) :
    endState b (l.responderReads P.devices.responder env broker b).visited = b ∨
      P.Offers (endState b (l.responderReads P.devices.responder env broker b).visited) := by
  cases h with
  | returning hfair h => exact .inr (h.responderReads hfair).offers
  | acknowledged _ h =>
      have hnil : l.toResponder = [] := by
        cases h with | mk _ _ _ htalk => exact htalk.forth.silent
      rw [Link.responderReads_nil hnil]
      exact .inl rfl
  | missed _ _ hover => exact .inl (hover.responderReads ..).1

end Positions

section Runs

variable [TransportLaws] [HandshakeLaws] [LawfulCrypto] [LawfulSerde] [LawfulAppSerde]
  {P : Partners} {x : Attempt} {J : Joint}

omit [TransportLaws] [HandshakeLaws] [LawfulCrypto] [LawfulSerde] [LawfulAppSerde] in
private theorem responderReads_unasked {D : Devices} {i : Nat} (h : (J.links i).Unasked)
    (env : Env) (broker broker' : AuthorizationBroker) :
    J.responderReads D i env broker = J.responderReads D i env broker' := by
  simp only [Joint.responderReads, h.responderReads D.responder env broker broker']

private theorem attempt_offers (h : P.Standing J.initiator J.responder)
    (hx : x.Regular P J.initiator J.responder) (i k : Nat) :
    (J.attempt P.devices i x k).responder = J.responder ∨
      P.Offers (J.attempt P.devices i x k).responder := by
  have hfirst : (J.attempt P.devices i x 3).responder = J.responder ∨
      P.Offers (J.attempt P.devices i x 3).responder :=
    (attempt_requested h hx i).offers hx
  have hsecond : (J.attempt P.devices i x 5).responder = J.responder ∨
      P.Offers (J.attempt P.devices i x 5).responder := by
    rcases (attempt_replied h hx i).offers with hsame | hoffers
    · have hresponder : (J.attempt P.devices i x 5).responder =
          (J.attempt P.devices i x 3).responder := hsame
      rw [hresponder]
      exact hfirst
    · exact .inr hoffers
  match k with
  | 0 | 1 | 2 => exact .inl rfl
  | 3 | 4 => exact hfirst
  | 5 => exact hsecond
  | n + 6 =>
      rw [attempt_whole i n]
      exact hsecond

private theorem Approved.offers (happroved : P.Approved J) :
    P.History J ∧ P.Offers J.responder := by
  induction happroved with
  | @granted J hhistory i x hx k new hjournal hnew =>
      refine ⟨.attempt hhistory i x hx k, ?_⟩
      rcases attempt_offers hhistory.standing hx i k with hsame | hoffers
      · rw [hsame, List.self_eq_append_right] at hjournal
        rw [hjournal] at hnew
        cases hnew
      · exact hoffers
  | attempt _ i x hx k ih =>
      refine ⟨.attempt ih.1 i x hx k, ?_⟩
      rcases attempt_offers ih.1.standing hx i k with hsame | hoffers
      · rw [hsame]
        exact ih.2
      · exact hoffers

private theorem attempt_unasked (h : P.Standing J.initiator J.responder)
    (hx : x.Regular P J.initiator J.responder) (hoffers : P.Offers J.responder) (i : Nat)
    (broker : AuthorizationBroker) :
    J.attempt P.devices i { x with broker } 6 = J.attempt P.devices i x 6 := by
  have hthird : J.attempt P.devices i { x with broker } 3 = J.attempt P.devices i x 3 :=
    responderReads_unasked ((attempt_requested h hx i).unasked hoffers) x.offer broker x.broker
  have hfourth : J.attempt P.devices i { x with broker } 4 = J.attempt P.devices i x 4 :=
    congrArg (Joint.initiatorReads P.devices i x.answer) hthird
  have hfifth : J.attempt P.devices i { x with broker } 5 = J.attempt P.devices i x 5 := by
    have hnext : J.attempt P.devices i { x with broker } 5 =
        (J.attempt P.devices i { x with broker } 4).responderReads P.devices i x.activate broker :=
      rfl
    rw [hnext, hfourth]
    exact responderReads_unasked (attempt_replied h hx i).unasked x.activate broker x.broker
  exact congrArg (Joint.initiatorReads P.devices i x.confirm) hfifth

omit [Noise] [TransportLaws] [HandshakeLaws] [AppSerde] [LawfulAppSerde] [LawfulSerde]
  [LawfulCrypto] in
private theorem Unrivalled.leads {t : Terms} {a b : Host} {r : PairingRecord}
    (hunrivalled : P.Unrivalled a b) (ha : P.CoSigned a t) (hb : P.Backs b t)
    (hr : r ∈ P.records a .pending) (order : ReadDir) :
    order.Leads b P.responder.deviceId P.initiator.deviceId r := by
  have hagreed : r.pairId = t.pairId := by
    rw [ha.pending, Set.mem_singleton_iff] at hr
    rw [hr, agreed_pairId]
  obtain ⟨bytes, hfile, -⟩ := hb.offer.1.stored
  apply order.leads_of_pairIds
  · rw [hagreed]
    exact Option.isSome_iff_exists.mpr ⟨bytes, hfile⟩
  · intro r' hr'
    rw [Host.between_comm] at hr'
    exact hunrivalled hb.offered.active r hr r' hr'

omit [TransportLaws] [HandshakeLaws] [AppSerde] [LawfulAppSerde] [LawfulSerde] [LawfulCrypto] in
private theorem Unrivalled.undisturbed {a b : Host} (hunrivalled : P.Unrivalled a b)
    (h : P.Standing a b) (hoffers : P.Offers b) (x : Attempt) : x.Undisturbed P a b := by
  constructor
  · intro hactive hpending
    obtain ⟨r, hr⟩ := hoffers
    rw [hpending, hactive, Set.union_empty] at hr
    exact absurd hr (Set.notMem_empty r)
  · intro hactive r hr
    cases h with
    | blank ha _ =>
        rw [ha.pending] at hr
        exact absurd hr (Set.notMem_empty r)
    | coSigned _ ha hb => exact ⟨hunrivalled.leads ha hb hr _, hunrivalled.leads ha hb hr _⟩
    | activated _ _ hb =>
        rw [hb.active] at hactive
        exact absurd hactive (Set.singleton_ne_empty _)

omit [TransportLaws] [HandshakeLaws] [AppSerde] [LawfulCrypto] [LawfulSerde] [LawfulAppSerde] in
private theorem exists_leads (x : Attempt) {b : Host} {r : PairingRecord}
    (hr : r ∈ P.records b .pending) :
    ∃ y : Attempt,
      (x.listedAs y).accept.pendingOrder.Leads b P.responder.deviceId P.initiator.deviceId r ∧
        (x.listedAs y).accept.recoveryOrder.Leads b P.responder.deviceId P.initiator.deviceId
          r := by
  obtain ⟨bytes, hfile, -⟩ := hr.1.stored
  have hname : recordFile r.pairId ∈ (b.trust .pending).keys := by
    rw [← Host.names, Host.mem_names]
    exact Option.isSome_iff_exists.mpr ⟨bytes, hfile⟩
  obtain ⟨order, horder⟩ :=
    ReadDir.exists_enumerate (b.trust .pending) _ (List.perm_cons_erase hname).symm
  have hleads : order.Leads b P.responder.deviceId P.initiator.deviceId r :=
    ⟨[], _, horder, fun _ _ => List.not_mem_nil⟩
  exact ⟨{ x with accept := { x.accept with pendingOrder := order, recoveryOrder := order } },
    hleads, hleads⟩

omit [AppSerde] [LawfulSerde] [LawfulAppSerde] in
private theorem Fair.refused {t u : Terms} {a b : Host} (hfair : P.Fair t)
    (hfair' : P.Fair u) (ha : P.CoSigned a t) (hb : P.Offered b)
    (hmem : P.offer u ∈ P.records b .pending) (hne : u.pairId ≠ t.pairId)
    (hx : x.Regular P a b)
    (hpending : x.accept.pendingOrder.Leads b P.responder.deviceId P.initiator.deviceId
      (P.offer u))
    (hrecovery : x.accept.recoveryOrder.Leads b P.responder.deviceId P.initiator.deviceId
      (P.offer u)) :
    ((Link.dial P.devices.initiator x.dial a).accept P.devices.responder x.accept b).Refused := by
  have hshaped : P.initiatorCertificate.Shaped ∧ P.responderCertificate.Shaped :=
    ⟨hx.initiatorClock.1.issued.1.1.shaped, hx.initiatorClock.1.issued.2.1.shaped⟩
  obtain ⟨handshake, static, hopen, hfresh⟩ := ha.openInitiator hfair
  obtain ⟨start, hstart, hdialed⟩ := dial_of_open hopen hfresh
  have hopen' := hb.openRecovery hfair' hstart (hb.scan_leads _ x.accept.opened hmem hpending)
    (hb.scan_leads _ x.accept.opened hmem hrecovery)
  have hacts : P.Acts _ (P.callee u.pairId) := ⟨hfresh, hshaped, ⟨rfl, rfl⟩, rfl, rfl⟩
  rcases hdialed.accept hacts hopen' with ⟨hc, -⟩ | ⟨-, e, hlink⟩
  · rcases hc.pairId with hnone | hsame
    · cases hnone
    · exact absurd (Option.some.inj hsame) hne
  · rw [hlink]
    exact ⟨⟨e, rfl⟩, ⟨_, rfl⟩, rfl⟩

omit [TransportLaws] [HandshakeLaws] [Serde] [AppSerde] [LawfulCrypto] [LawfulSerde]
  [LawfulAppSerde] in
private theorem Regular.listedAs {a b : Host} (hx : x.Regular P a b) (y : Attempt) :
    (x.listedAs y).Regular P a b :=
  ⟨hx.initiatorClock, hx.responderClock, hx.time, hx.random, hx.grants⟩

omit [TransportLaws] [HandshakeLaws] [LawfulCrypto] [LawfulSerde] [LawfulAppSerde] in
private theorem responderReads_refused {D : Devices} {i : Nat} {env : Env}
    {broker : AuthorizationBroker} (h : (J.links i).Refused) :
    ((J.responderReads D i env broker).links i).Refused := by
  simp only [Joint.responderReads, Joint.setLink, Function.update_self]
  exact h.responderReads D.responder env broker J.responder

omit [TransportLaws] [HandshakeLaws] [LawfulCrypto] [LawfulSerde] [LawfulAppSerde] in
private theorem initiatorReads_refused {D : Devices} {i : Nat} {env : Env}
    (h : (J.links i).Refused) : ((J.initiatorReads D i env).links i).Refused := by
  simp only [Joint.initiatorReads, Joint.setLink, Function.update_self]
  exact h.initiatorReads D.initiator env J.initiator

omit [TransportLaws] [HandshakeLaws] [LawfulCrypto] [LawfulSerde] [LawfulAppSerde] in
private theorem attempt_refused {i : Nat}
    (h : ((Link.dial P.devices.initiator x.dial J.initiator).accept P.devices.responder x.accept
      J.responder).Refused) :
    ((J.attempt P.devices i x 6).links i).Refused := by
  have hopened : ((J.attempt P.devices i x 2).links i).Refused := by
    rw [attempt_opened]
    exact h
  have hthird : ((J.attempt P.devices i x 3).links i).Refused := responderReads_refused hopened
  have hfourth : ((J.attempt P.devices i x 4).links i).Refused := initiatorReads_refused hthird
  have hfifth : ((J.attempt P.devices i x 5).links i).Refused := responderReads_refused hfourth
  exact initiatorReads_refused hfifth

omit [Noise] [TransportLaws] [HandshakeLaws] [AppSerde] [LawfulCrypto] [LawfulSerde]
  [LawfulAppSerde] in
private theorem Standing.offered {a b : Host} (h : P.Standing a b) (ha : P.Blank a) :
    P.Offered b := by
  cases h with
  | blank _ hb => exact hb
  | coSigned _ _ hb => exact hb.offered
  | @activated t _ hholds _ =>
      rcases hholds with hcosigned | hpaired
      · have hpending := hcosigned.pending
        rw [ha.pending] at hpending
        exact absurd hpending.symm (Set.singleton_ne_empty _)
      · have hactive := hpaired.active
        rw [ha.active] at hactive
        exact absurd hactive.symm (Set.singleton_ne_empty _)

omit [LawfulSerde] [LawfulAppSerde] in
private theorem unrivalled_of_recovers {i : Nat} (h : P.Standing J.initiator J.responder)
    (hx : x.Regular P J.initiator J.responder) (hrecovers : ∀ y, P.Recovers J i (x.listedAs y)) :
    P.Unrivalled J.initiator J.responder := by
  intro hactive r hr r' hr'
  by_contra hne
  cases h with
  | blank ha _ =>
      rw [ha.pending] at hr
      exact absurd hr (Set.notMem_empty r)
  | activated _ _ hb =>
      rw [hb.active] at hactive
      exact absurd hactive (Set.singleton_ne_empty _)
  | @coSigned t hfair ha hb =>
      rw [ha.pending, Set.mem_singleton_iff] at hr
      obtain ⟨u, hfair', rfl⟩ := hb.offered.pending r' hr'
      have hdifferent : u.pairId ≠ t.pairId := by
        intro hsame
        rw [hr] at hne
        exact hne hsame
      -- both scans of the responder come upon the rival first
      obtain ⟨y, hpending, hrecovery⟩ := exists_leads x hr'
      have hrefused := hfair.refused hfair' ha hb.offered hr' hdifferent
        (Regular.listedAs hx y) hpending hrecovery
      obtain ⟨e, herror⟩ := (attempt_refused (i := i) hrefused).initiator
      obtain ⟨⟨_, hconcluded⟩, -⟩ := hrecovers y
      rw [hconcluded.2.2.1] at herror
      cases herror

/-- Once the responder's user has approved the initiator, an attempt that is not cut pairs the
two in whatever orders their directories are listed, and the user is not asked again, exactly
when the responder has no offer on file beside the one that the initiator has co-signed. -/
theorem recovers_iff_unrivalled (happroved : P.Approved J)
    (hx : x.Regular P J.initiator J.responder) (i : Nat) :
    (∀ y, P.Recovers J i (x.listedAs y)) ↔ P.Unrivalled J.initiator J.responder := by
  obtain ⟨hhistory, hoffers⟩ := happroved.offers
  have hstanding := hhistory.standing
  refine ⟨unrivalled_of_recovers hstanding hx, ?_⟩
  intro hunrivalled y
  have hy := Regular.listedAs hx y
  constructor
  · rcases attempt_ended hstanding hy i with ⟨-, hconcluded⟩ | hcause
    · exact ⟨_, hconcluded⟩
    · exact absurd (hunrivalled.undisturbed hstanding hoffers (x.listedAs y)) hcause
  · exact attempt_unasked hstanding hy hoffers i

end Runs

end Partners

end Rivals

namespace Loopback

attribute [local instance] crypto noise transportLaws handshakeLaws lawfulCrypto
  PairingRecord.canonicalSerde PairingRecord.canonicalSerde_lawful PairMessage.canonicalSerde
  PairMessage.canonicalSerde_lawful

/-- The first offer is lost before the initiator has read it. -/
def offeredAttempt : Joint := Joint.start.attempt partners.devices 0 (pairingAttempt 7 11) 3

/-- Another attempt follows, lost when the initiator has co-signed a second offer. -/
def rivalAttempt : Joint := offeredAttempt.attempt partners.devices 1 (pairingAttempt 8 13) 4

set_option maxRecDepth 40000 in
private theorem offeredAttempt_journal :
    .approved partners.initiatorCertificate ∈ offeredAttempt.responder.journal := by
  decide +kernel

private theorem offeredAttempt_approved : partners.Approved offeredAttempt :=
  .granted (.start Partners.blank_empty Partners.blank_empty) 0 (pairingAttempt 7 11)
    firstAttempt_regular 3 (List.nil_append _).symm offeredAttempt_journal

private theorem lostAttempt_approved : partners.Approved lostAttempt := by
  refine .granted (.start Partners.blank_empty Partners.blank_empty) 0 (pairingAttempt 7 11)
    firstAttempt_regular 4 (List.nil_append _).symm ?_
  rw [Partners.attempt_responder]
  exact offeredAttempt_journal

/-- Whatever the orders, the attempt after `lostAttempt` pairs the two. -/
theorem recovers_iff_unrivalled_lost :
    partners.Approved lostAttempt ∧
      ∀ y, partners.Recovers lostAttempt 1 ((pairingAttempt 8 13).listedAs y) := by
  have hregular : (pairingAttempt 8 13).Regular partners lostAttempt.initiator
      lostAttempt.responder :=
    pairingAttempt_regular (lostAttempt_unnamed (by simp)) (lostAttempt_unnamed (by simp))
  have hunrivalled : partners.Unrivalled lostAttempt.initiator lostAttempt.responder := by
    intro _ r hr r' hr'
    rw [lostAttempt_pairId (by simp) hr, lostAttempt_pairId (by simp) hr']
  exact ⟨lostAttempt_approved,
    (Partners.recovers_iff_unrivalled lostAttempt_approved hregular 1).mpr hunrivalled⟩

private theorem secondAttempt_regular :
    (pairingAttempt 8 13).Regular partners offeredAttempt.initiator offeredAttempt.responder := by
  obtain ⟨t, hpairId, hcontact⟩ := firstAttempt_contact
  have hother : pairIdOf 8 ≠ t.pairId := by
    rw [hpairId]
    decide
  refine pairingAttempt_regular (fun folder => Host.file_empty folder _) fun folder => ?_
  by_contra hfile
  exact hother (hcontact.offered.pairId_eq hfile)

private theorem rivalAttempt_contact :
    ∃ t u, (t.pairId = pairIdOf 7 ∧ partners.Fair t) ∧
      (u.pairId = pairIdOf 8 ∧ partners.Fair u) ∧
      Host.empty.Adds offeredAttempt.responder .pending (partners.offer t) ∧
      offeredAttempt.responder.Adds rivalAttempt.responder .pending (partners.offer u) ∧
      Host.empty.Adds rivalAttempt.initiator .pending (partners.agreed u) := by
  obtain ⟨t, hpairId, hfirst⟩ := firstAttempt_contact
  have hblank : partners.Blank offeredAttempt.initiator := Partners.blank_empty
  have hoffered := offeredAttempt_approved.offers.1.standing.offered hblank
  obtain ⟨u, hpairId', hsecond⟩ :=
    Partners.attempt_first hblank hoffered secondAttempt_regular rfl (fun _ => ⟨_, rfl⟩) 1
  refine ⟨t, u, ⟨hpairId, hfirst.fair⟩, ⟨hpairId', hsecond.fair⟩, hfirst.offered, ?_,
    hsecond.coSigned⟩
  rw [rivalAttempt, Partners.attempt_responder]
  exact hsecond.offered

private theorem thirdAttempt_regular :
    (pairingAttempt 9 15).Regular partners rivalAttempt.initiator rivalAttempt.responder := by
  obtain ⟨t, u, ⟨ht, -⟩, ⟨hu, -⟩, hfirst, hsecond, hcoSigned⟩ := rivalAttempt_contact
  have hothers : pairIdOf 9 ≠ pairIdOf 7 ∧ pairIdOf 9 ≠ pairIdOf 8 := by decide
  refine pairingAttempt_regular (fun folder => ?_) fun folder => ?_
  · by_contra hfile
    exact hothers.2 ((hcoSigned.pairId_eq hfile).trans hu)
  · by_contra hfile
    rw [hsecond.others folder _ fun hsame => hothers.2 ((recordFile_inj hsame.2).trans hu)] at hfile
    exact hothers.1 ((hfirst.pairId_eq hfile).trans ht)

private theorem rivalAttempt_rivalled :
    ¬partners.Unrivalled rivalAttempt.initiator rivalAttempt.responder := by
  obtain ⟨t, u, ⟨ht, hfair⟩, ⟨hu, hfair'⟩, hfirst, hsecond, hcoSigned⟩ := rivalAttempt_contact
  have hother : pairIdOf 7 ≠ pairIdOf 8 := by decide
  have hactive : partners.records rivalAttempt.responder .active = ∅ := by
    rw [← (Partners.blank_empty (P := partners)).active]
    exact (hsecond.between_elsewhere (by decide)).trans (hfirst.between_elsewhere (by decide))
  have hagreed : partners.agreed u ∈ partners.records rivalAttempt.initiator .pending := by
    rw [Partners.records, hcoSigned.between (Host.file_empty ..) (hfair'.read true) hfair'.pairId
      (Partners.binds_signed true true)]
    exact Set.mem_insert _ _
  have hfree : offeredAttempt.responder.file .pending (recordFile u.pairId) = none := by
    by_contra hfile
    have hsame : u.pairId = t.pairId := hfirst.pairId_eq hfile
    rw [ht, hu] at hsame
    exact hother hsame.symm
  have hoffer : partners.offer t ∈ partners.records rivalAttempt.responder .pending := by
    rw [Partners.records, hsecond.between hfree (hfair'.read false) hfair'.pairId
      (Partners.binds_signed false true), hfirst.between (Host.file_empty ..) (hfair.read false)
      hfair.pairId (Partners.binds_signed false true)]
    exact Set.mem_insert_of_mem _ (Set.mem_insert _ _)
  intro hunrivalled
  have hsame : t.pairId = u.pairId := hunrivalled hactive _ hagreed _ hoffer
  rw [ht, hu] at hsame
  exact hother hsame

/-- After `rivalAttempt` the responder can take up the offer that the initiator has not
co-signed, and then the initiator fails. -/
theorem not_recovers_rival :
    partners.Approved rivalAttempt ∧
      (pairingAttempt 9 15).Regular partners rivalAttempt.initiator rivalAttempt.responder ∧
      ¬∀ y, partners.Recovers rivalAttempt 2 ((pairingAttempt 9 15).listedAs y) := by
  have happroved : partners.Approved rivalAttempt :=
    .attempt offeredAttempt_approved 1 (pairingAttempt 8 13) secondAttempt_regular 4
  refine ⟨happroved, thirdAttempt_regular, ?_⟩
  intro hrecovers
  have hstanding := happroved.offers.1.standing
  exact rivalAttempt_rivalled
    (Partners.unrivalled_of_recovers hstanding thirdAttempt_regular hrecovers)

end Loopback

end OmarchySync
