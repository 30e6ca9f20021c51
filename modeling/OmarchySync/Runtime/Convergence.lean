import OmarchySync.Runtime.Recovery

/-!
# Recovery converges

Any number of attempts of one device to pair with another, each cut between any two messages,
leave the two stores where the next undisturbed attempt pairs them. The responder's user is not
asked again, but the responder must come upon the offer that the initiator has co-signed first.
-/

namespace OmarchySync

open Logic Wire Traced PairingM

section Attempts

variable [Crypto] [Noise]

/-- What an attempt takes from the two operating systems and from the responder's user. -/
structure Attempt where
  dial : Opening
  accept : Opening
  offer : Env
  answer : Env
  activate : Env
  confirm : Env
  broker : AuthorizationBroker

section Moves

variable [Serde] [AppSerde]

/-- An attempt over connection `i`, cut at the messages. -/
def Attempt.moves (x : Attempt) (D : Devices) (i : Nat) : List (Joint → Joint) :=
  [.dial D i x.dial, .accept D i x.accept, .responderReads D i x.offer x.broker,
    .initiatorReads D i x.answer, .responderReads D i x.activate x.broker,
    .initiatorReads D i x.confirm]

/-- The first `k` moves of an attempt. What is on its way then is never read. -/
def Joint.attempt (D : Devices) (i : Nat) (x : Attempt) (k : Nat) (J : Joint) : Joint :=
  ((x.moves D i).take k).foldl (fun J move => move J) J

end Moves

/-- Correct clocks, a fresh random PairID and, if the user approves, a proper marker. -/
structure Attempt.Regular (x : Attempt) (P : Partners) (a b : Host) : Prop where
  initiatorClock : P.ValidAt x.dial.opened ∧ P.ValidAt x.dial.now
  responderClock : P.ValidAt x.accept.opened ∧ P.ValidAt x.accept.now
  time : x.accept.opened ≠ 0
  random : ∃ random, x.dial.random = .ok random ∧
    Partners.Unnamed a (hexText random.toList) ∧ Partners.Unnamed b (hexText random.toList)
  grants : ∀ grant, x.broker P.initiatorCertificate = .ok grant →
    Partners.Presentable grant.userPresence

/-- The user approves if no offer is on file, and both scans of the responder come upon the
offer that the initiator has co-signed first. -/
structure Attempt.Undisturbed [Serde] (x : Attempt) (P : Partners) (a b : Host) : Prop where
  approved : P.records b .active = ∅ → P.records b .pending = ∅ →
    ∃ grant, x.broker P.initiatorCertificate = .ok grant
  leads : P.records b .active = ∅ → ∀ r ∈ P.records a .pending,
    x.accept.pendingOrder.Leads b P.responder.deviceId P.initiator.deviceId r ∧
      x.accept.recoveryOrder.Leads b P.responder.deviceId P.initiator.deviceId r

namespace Partners

variable [Serde]

/-- Attempts from two stores that hold no record of the two, one after the other, each cut
after any of its moves. -/
inductive History [AppSerde] (P : Partners) : Joint → Prop where
  | start {J : Joint} (ha : P.Blank J.initiator) (hb : P.Blank J.responder) : History P J
  | attempt {J : Joint} (hhistory : History P J) (i : Nat) (x : Attempt)
      (hx : x.Regular P J.initiator J.responder) (k : Nat) :
      History P (J.attempt P.devices i x k)

section Positions

variable [TransportLaws]

/-- When the responder has taken the call, or missed it. -/
inductive Requested (P : Partners) (x : Attempt) (a b : Host) (l : Link) : Prop where
  | first {pairId} (h : P.FirstRequest pairId a b l)
  | recovery {t u} (hfair : P.Fair t) (hfair' : P.Fair u)
      (hsame : x.Undisturbed P a b → u.pairId = t.pairId) (h : P.RecoveryRequest t u a b l)
  | reconnect {t} (hfair : P.Fair t) (h : P.ReconnectRequest t a b l)
  | missed (hcause : ¬x.Undisturbed P a b) (hstanding : P.Standing a b) (hover : l.Over)

/-- When the responder has read the request. -/
inductive Responded (P : Partners) (undisturbed : Prop) (a b : Host) (l : Link) : Prop where
  | new {t} (hfair : P.Fair t) (h : P.NewOffer t a b l)
  | old {t u} (hfair : P.Fair t) (hfair' : P.Fair u) (hsame : undisturbed → u.pairId = t.pairId)
      (h : P.OldOffer t u a b l)
  | presented {t} (hfair : P.Fair t) (h : P.Presented t a b l)
  | missed (hcause : ¬undisturbed) (hstanding : P.Standing a b) (hover : l.Over)

/-- When the initiator has read the response. -/
inductive Replied (P : Partners) (undisturbed : Prop) (a b : Host) (l : Link) : Prop where
  | returning {t} (hfair : P.Fair t) (h : P.Returning t a b l)
  | acknowledged {t} (hfair : P.Fair t) (h : P.Acknowledged t a b l)
  | missed (hcause : ¬undisturbed) (hstanding : P.Standing a b) (hover : l.Over)

/-- When the responder has read the complete record. -/
inductive Confirmed (P : Partners) (undisturbed : Prop) (a b : Host) (l : Link) : Prop where
  | acknowledged {t} (hfair : P.Fair t) (h : P.Acknowledged t a b l)
  | missed (hcause : ¬undisturbed) (hstanding : P.Standing a b) (hover : l.Over)

/-- When the initiator has read the acknowledgement. -/
inductive Ended (P : Partners) (undisturbed : Prop) (a b : Host) (l : Link) : Prop where
  | concluded {t} (hfair : P.Fair t) (h : P.Concluded t a b l)
  | missed (hcause : ¬undisturbed) (hstanding : P.Standing a b)

variable {P : Partners} {x : Attempt} {a b : Host} {l : Link} {undisturbed : Prop}

private theorem Requested.standing (h : P.Requested x a b l) : P.Standing a b := by
  cases h with
  | first h => cases h with | mk ha hb => exact .blank ha hb
  | recovery hfair _ _ h => cases h with | mk ha hb => exact .coSigned hfair ha hb
  | reconnect hfair h => cases h with | mk ha hb => exact .activated hfair ha hb
  | missed _ hstanding => exact hstanding

private theorem Responded.standing (h : P.Responded undisturbed a b l) : P.Standing a b := by
  cases h with
  | new _ h => cases h with | mk ha hb => exact .blank ha hb.offered
  | old hfair _ _ h => cases h with | mk ha hb => exact .coSigned hfair ha hb
  | presented hfair h => cases h with | mk ha hb => exact .activated hfair ha hb
  | missed _ hstanding => exact hstanding

private theorem Replied.standing (h : P.Replied undisturbed a b l) : P.Standing a b := by
  cases h with
  | returning hfair h => cases h with | mk ha hb => exact .coSigned hfair ha hb
  | acknowledged hfair h => cases h with | mk ha hb => exact .activated hfair ha hb
  | missed _ hstanding => exact hstanding

private theorem Confirmed.standing (h : P.Confirmed undisturbed a b l) : P.Standing a b := by
  cases h with
  | acknowledged hfair h => cases h with | mk ha hb => exact .activated hfair ha hb
  | missed _ hstanding => exact hstanding

omit [TransportLaws] in
private theorem Ended.standing (h : P.Ended undisturbed a b l) : P.Standing a b := by
  cases h with
  | concluded hfair h => exact .activated hfair (.inr h.1) h.2.1
  | missed _ hstanding => exact hstanding

section Reads

variable [LawfulCrypto] [LawfulSerde] [AppSerde] [LawfulAppSerde] {env : Env}

private theorem Requested.responderReads (h : P.Requested x a b l)
    (hx : x.Regular P a b) :
    P.Responded (x.Undisturbed P a b) a
      (endState b (l.responderReads P.devices.responder env x.broker b).visited)
      (l.responderReads P.devices.responder env x.broker b).link := by
  cases h with
  | first h =>
      have hblank : P.records b .active = ∅ := by
        cases h with | mk _ hb => exact hb.active
      have hstanding : P.Standing a b := (Requested.first h : P.Requested x a b l).standing
      rcases h.responderReads env hx.grants with ⟨t, hfair, -, -, hnew⟩ | hdenied
      · exact .new hfair hnew
      · obtain ⟨hnone, ⟨e, hbroker⟩, hsame, hover⟩ := hdenied
        refine .missed ?_ (hsame.symm ▸ hstanding) hover
        intro hundisturbed
        obtain ⟨grant, hgrant⟩ := hundisturbed.approved hblank hnone
        rw [hbroker] at hgrant
        cases hgrant
  | recovery hfair hfair' hsame h => exact .old hfair hfair' hsame (h.responderReads hfair')
  | reconnect hfair h => exact .presented hfair (h.responderReads hfair)
  | missed hcause hstanding hover =>
      obtain ⟨hsame, hover⟩ := hover.responderReads P.devices.responder env x.broker b
      exact .missed hcause (hsame.symm ▸ hstanding) hover

private theorem Responded.initiatorReads (h : P.Responded undisturbed a b l) :
    P.Replied undisturbed (endState a (l.initiatorReads P.devices.initiator env a).visited) b
      (l.initiatorReads P.devices.initiator env a).link := by
  cases h with
  | new hfair h => exact .returning hfair (h.initiatorReads hfair).2
  | old hfair hfair' hsame h =>
      obtain ⟨hkept, hreply⟩ := h.initiatorReads env hfair hfair'
      rcases hreply with hreturning | ⟨hne, hover, ha, hb⟩
      · exact .returning hfair (hkept.symm ▸ hreturning)
      · exact .missed (fun hok => hne (hsame hok)) (hkept.symm ▸ .coSigned hfair ha hb) hover
  | presented hfair h => exact .acknowledged hfair (h.initiatorReads hfair)
  | missed hcause hstanding hover =>
      obtain ⟨hsame, hover⟩ := hover.initiatorReads P.devices.initiator env a
      exact .missed hcause (hsame.symm ▸ hstanding) hover

private theorem Replied.responderReads {broker : AuthorizationBroker}
    (h : P.Replied undisturbed a b l) :
    P.Confirmed undisturbed a
      (endState b (l.responderReads P.devices.responder env broker b).visited)
      (l.responderReads P.devices.responder env broker b).link := by
  cases h with
  | returning hfair h => exact .acknowledged hfair (h.responderReads hfair)
  | acknowledged hfair h =>
      have hnil : l.toResponder = [] := by
        cases h with | mk _ _ _ htalk => exact htalk.forth.silent
      rw [Link.responderReads_nil hnil]
      exact .acknowledged hfair h
  | missed hcause hstanding hover =>
      obtain ⟨hsame, hover⟩ := hover.responderReads P.devices.responder env broker b
      exact .missed hcause (hsame.symm ▸ hstanding) hover

private theorem Confirmed.initiatorReads (h : P.Confirmed undisturbed a b l) :
    P.Ended undisturbed (endState a (l.initiatorReads P.devices.initiator env a).visited) b
      (l.initiatorReads P.devices.initiator env a).link := by
  cases h with
  | acknowledged hfair h => exact .concluded hfair (h.initiatorReads hfair)
  | missed hcause hstanding hover =>
      obtain ⟨hsame, -⟩ := hover.initiatorReads P.devices.initiator env a
      exact .missed hcause (hsame.symm ▸ hstanding)

omit [Noise] [TransportLaws] [LawfulCrypto] [LawfulSerde] [AppSerde] [LawfulAppSerde] in
private theorem Backs.offer_first {t u : Terms} {order : ReadDir} {now : UInt64} (hb : P.Backs b t)
    (ha : P.CoSigned a t)
    (hscan : PairingStore.pendingForPeer ⟨P.root, now⟩ order b P.responder.deviceId
      P.initiator.deviceId = .ok (some (P.offer u)))
    (hleads : ∀ r ∈ P.records a .pending,
      order.Leads b P.responder.deviceId P.initiator.deviceId r) :
    u.pairId = t.pairId := by
  have hlead := hleads (P.agreed t) (by rw [ha.pending]; exact Set.mem_singleton _)
  have hscan' := hb.offered.scan_leads order now hb.offer hlead
  rw [hscan, Except.ok.injEq, Option.some.injEq] at hscan'
  exact congrArg PairingRecord.pairId hscan'

variable [HandshakeLaws]

omit [LawfulSerde] [AppSerde] [LawfulAppSerde] in
theorem Blank.requested (ha : P.Blank a) (hb : P.Offered b) (hx : x.Regular P a b)
    {random : Array8 16} (hrandom : x.dial.random = .ok random) :
    P.FirstRequest (hexText random.toList) a b
      ((Link.dial P.devices.initiator x.dial a).accept P.devices.responder x.accept b) := by
  have hshaped : P.initiatorCertificate.Shaped ∧ P.responderCertificate.Shaped :=
    ⟨hx.initiatorClock.1.issued.1.1.shaped, hx.initiatorClock.1.issued.2.1.shaped⟩
  obtain ⟨random', hrandom', hunnamed⟩ := hx.random
  obtain rfl := Except.ok.inj (hrandom.symm.trans hrandom')
  obtain ⟨handshake, static, hopen, hfresh⟩ := ha.openInitiator hrandom hx.initiatorClock.2
  obtain ⟨start, hstart, hdialed⟩ := dial_of_open hopen hfresh
  obtain ⟨pending, hopen', hpending, hnone⟩ := hb.openResponder hx.responderClock.2 hstart
  have hacts : P.Acts _ (P.host x.accept.now) := ⟨hfresh, hshaped, ⟨rfl, rfl⟩, rfl, rfl⟩
  rcases hdialed.accept hacts hopen' with ⟨-, hmet⟩ | ⟨hnot, -⟩
  · obtain ⟨binding, s, r, toResponder, hlink, htalk⟩ := hmet
    rw [hlink]
    exact ⟨ha, hb, hfresh.pairId, hunnamed, ⟨hx.initiatorClock.1, hx.responderClock.1⟩, hx.time,
      hpending, hnone, htalk⟩
  · exact absurd (newcomer_compatible hx.initiatorClock.2 hx.responderClock.2) hnot

omit [LawfulSerde] [AppSerde] [LawfulAppSerde] in
/-- Both devices look up their records, and the ends of a first contact accept each other, as
do those of a reconnect under one PairID. -/
theorem Standing.requested (h : P.Standing a b) (hx : x.Regular P a b) :
    P.Requested x a b
      ((Link.dial P.devices.initiator x.dial a).accept P.devices.responder x.accept b) := by
  have hshaped : P.initiatorCertificate.Shaped ∧ P.responderCertificate.Shaped :=
    ⟨hx.initiatorClock.1.issued.1.1.shaped, hx.initiatorClock.1.issued.2.1.shaped⟩
  cases h with
  | blank ha hb =>
      obtain ⟨random, hrandom, -⟩ := hx.random
      exact .first (ha.requested hb hx hrandom)
  | coSigned hfair ha hb =>
      obtain ⟨handshake, static, hopen, hfresh⟩ := ha.openInitiator hfair
      obtain ⟨start, hstart, hdialed⟩ := dial_of_open hopen hfresh
      obtain ⟨u, hu, -, hpending⟩ :=
        hb.offered.scan x.accept.pendingOrder x.accept.opened hb.offer
      obtain ⟨v, hv, -, hrecovery⟩ :=
        hb.offered.scan x.accept.recoveryOrder x.accept.opened hb.offer
      have hopen' := hb.offered.openRecovery hv hstart hpending hrecovery
      have hacts : P.Acts _ (P.callee v.pairId) := ⟨hfresh, hshaped, ⟨rfl, rfl⟩, rfl, rfl⟩
      rcases hdialed.accept hacts hopen' with ⟨hc, hmet⟩ | ⟨hnot, e, hlink⟩
      · obtain ⟨binding, s, r, toResponder, hlink, htalk⟩ := hmet
        rw [hlink]
        refine .recovery hfair hu ?_ ⟨ha, hb, hx.responderClock.1, htalk⟩
        intro hundisturbed
        exact hb.offer_first ha hpending
          fun r hr => (hundisturbed.leads hb.offered.active r hr).1
      · rw [hlink]
        refine .missed ?_ (.coSigned hfair ha hb) ⟨.inl ⟨_, rfl⟩, .inl ⟨_, rfl⟩⟩
        intro hundisturbed
        have hsame := hb.offer_first ha hrecovery
          fun r hr => (hundisturbed.leads hb.offered.active r hr).2
        rw [hsame] at hnot
        exact hnot caller_compatible
  | @activated t hfair ha hb =>
      have hopen : ∃ handshake static, openInitiator P.devices.initiator x.dial a =
          .ok (P.caller t.pairId handshake static, true) ∧
          (P.caller t.pairId handshake static).Fresh := by
        rcases ha with ha | ha
        · exact ha.openInitiator hfair
        · exact ha.openInitiator hfair
      obtain ⟨handshake, static, hopen, hfresh⟩ := hopen
      obtain ⟨start, hstart, hdialed⟩ := dial_of_open hopen hfresh
      have hopen' := hb.openResponder x.accept hfair hstart
      have hacts : P.Acts _ (P.callee t.pairId) := ⟨hfresh, hshaped, ⟨rfl, rfl⟩, rfl, rfl⟩
      rcases hdialed.accept hacts hopen' with ⟨-, hmet⟩ | ⟨hnot, -⟩
      · obtain ⟨binding, s, r, toResponder, hlink, htalk⟩ := hmet
        rw [hlink]
        exact .reconnect hfair ⟨ha, hb, htalk⟩
      · exact absurd caller_compatible hnot

end Reads

end Positions

omit [Noise] in
theorem blank_empty {P : Partners} : P.Blank Host.empty := by
  have hnone : ∀ folder, P.records Host.empty folder = ∅ := by
    intro folder
    apply Set.eq_empty_of_forall_notMem
    intro r hr
    obtain ⟨bytes, hfile, -⟩ := hr.1.stored
    rw [Host.file_empty] at hfile
    cases hfile
  have hholds : ∀ folder valid, Host.empty.Holds folder valid := by
    intro folder valid name bytes hfile
    rw [Host.file_empty] at hfile
    cases hfile
  exact ⟨⟨hholds _ _, hholds _ _⟩, hnone _, hnone _⟩

omit [Noise] in
theorem Blank.offered {P : Partners} {h : Host} (hblank : P.Blank h) : P.Offered h := by
  refine ⟨hblank.kept, hblank.active, ?_⟩
  intro r hr
  rw [hblank.pending] at hr
  exact absurd hr (Set.notMem_empty r)

section Runs

variable [TransportLaws] [HandshakeLaws] [LawfulCrypto] [LawfulSerde] [AppSerde]
  [LawfulAppSerde] {P : Partners} {x : Attempt} {J : Joint}

omit [TransportLaws] [HandshakeLaws] [LawfulCrypto] [LawfulSerde] [LawfulAppSerde] in
theorem attempt_opened {i : Nat} :
    (J.attempt P.devices i x 2).links i =
      (Link.dial P.devices.initiator x.dial J.initiator).accept P.devices.responder x.accept
        J.responder := by
  simp only [Joint.attempt, Attempt.moves, List.take, List.foldl, Joint.accept, Joint.dial,
    Joint.setLink, Function.update_self]

omit [TransportLaws] [HandshakeLaws] [LawfulCrypto] [LawfulSerde] [LawfulAppSerde] in
theorem attempt_responder {i : Nat} :
    (J.attempt P.devices i x 4).responder = (J.attempt P.devices i x 3).responder := rfl

section Course

variable (h : P.Standing J.initiator J.responder) (hx : x.Regular P J.initiator J.responder)
  (i : Nat)

include h hx

omit [LawfulSerde] [LawfulAppSerde] in
theorem attempt_requested :
    P.Requested x (J.attempt P.devices i x 2).initiator (J.attempt P.devices i x 2).responder
      ((J.attempt P.devices i x 2).links i) := by
  rw [attempt_opened]
  exact h.requested hx

theorem attempt_responded :
    P.Responded (x.Undisturbed P J.initiator J.responder) (J.attempt P.devices i x 3).initiator
      (J.attempt P.devices i x 3).responder ((J.attempt P.devices i x 3).links i) := by
  have hnext : J.attempt P.devices i x 3 =
      (J.attempt P.devices i x 2).responderReads P.devices i x.offer x.broker := rfl
  rw [hnext]
  simp only [Joint.responderReads, Joint.setLink, Function.update_self]
  exact (attempt_requested h hx i).responderReads hx

theorem attempt_replied :
    P.Replied (x.Undisturbed P J.initiator J.responder) (J.attempt P.devices i x 4).initiator
      (J.attempt P.devices i x 4).responder ((J.attempt P.devices i x 4).links i) := by
  have hnext : J.attempt P.devices i x 4 =
      (J.attempt P.devices i x 3).initiatorReads P.devices i x.answer := rfl
  rw [hnext]
  simp only [Joint.initiatorReads, Joint.setLink, Function.update_self]
  exact (attempt_responded h hx i).initiatorReads

private theorem attempt_confirmed :
    P.Confirmed (x.Undisturbed P J.initiator J.responder) (J.attempt P.devices i x 5).initiator
      (J.attempt P.devices i x 5).responder ((J.attempt P.devices i x 5).links i) := by
  have hnext : J.attempt P.devices i x 5 =
      (J.attempt P.devices i x 4).responderReads P.devices i x.activate x.broker := rfl
  rw [hnext]
  simp only [Joint.responderReads, Joint.setLink, Function.update_self]
  exact (attempt_replied h hx i).responderReads

theorem attempt_ended :
    P.Ended (x.Undisturbed P J.initiator J.responder) (J.attempt P.devices i x 6).initiator
      (J.attempt P.devices i x 6).responder ((J.attempt P.devices i x 6).links i) := by
  have hnext : J.attempt P.devices i x 6 =
      (J.attempt P.devices i x 5).initiatorReads P.devices i x.confirm := rfl
  rw [hnext]
  simp only [Joint.initiatorReads, Joint.setLink, Function.update_self]
  exact (attempt_confirmed h hx i).initiatorReads

omit [TransportLaws] [HandshakeLaws] [LawfulCrypto] [LawfulSerde] [LawfulAppSerde] h hx in
theorem attempt_whole (n : Nat) :
    J.attempt P.devices i x (n + 6) = J.attempt P.devices i x 6 := by
  rw [Joint.attempt, List.take_of_length_le (by simp [Attempt.moves])]
  rfl

/-- Wherever an attempt is cut, the stores stand where another one can go on. -/
theorem attempt_standing (k : Nat) :
    P.Standing (J.attempt P.devices i x k).initiator (J.attempt P.devices i x k).responder := by
  match k with
  | 0 => exact h
  | 1 => exact h
  | 2 => exact (attempt_requested h hx i).standing
  | 3 => exact (attempt_responded h hx i).standing
  | 4 => exact (attempt_replied h hx i).standing
  | 5 => exact (attempt_confirmed h hx i).standing
  | n + 6 =>
      rw [attempt_whole i n]
      exact (attempt_ended h hx i).standing

end Course

/-- The course of a first contact that the responder's user does not deny. -/
structure FirstContact (P : Partners) (J : Joint) (i : Nat) (x : Attempt) (t : Terms) :
    Prop where
  fair : P.Fair t
  offered : J.responder.Adds (J.attempt P.devices i x 3).responder .pending (P.offer t)
  coSigned : J.initiator.Adds (J.attempt P.devices i x 4).initiator .pending (P.agreed t)
  concluded : P.Concluded t (J.attempt P.devices i x 6).initiator
    (J.attempt P.devices i x 6).responder ((J.attempt P.devices i x 6).links i)

/-- Both devices write under the PairID that the initiator has drawn. -/
theorem attempt_first (ha : P.Blank J.initiator) (hb : P.Offered J.responder)
    (hx : x.Regular P J.initiator J.responder) {random : Array8 16}
    (hrandom : x.dial.random = .ok random)
    (happroved : P.records J.responder .pending = ∅ →
      ∃ grant, x.broker P.initiatorCertificate = .ok grant) (i : Nat) :
    ∃ t, t.pairId = hexText random.toList ∧ P.FirstContact J i x t := by
  have hrequested : P.FirstRequest (hexText random.toList) J.initiator J.responder
      ((J.attempt P.devices i x 2).links i) := by
    rw [attempt_opened]
    exact ha.requested hb hx hrandom
  rcases hrequested.responderReads x.offer hx.grants with
    ⟨t, hfair, hpairId, hadds, hoffer⟩ | ⟨hnone, ⟨e, hdenied⟩, -⟩
  · have hoffered : P.NewOffer t (J.attempt P.devices i x 3).initiator
        (J.attempt P.devices i x 3).responder ((J.attempt P.devices i x 3).links i) := by
      rw [show (J.attempt P.devices i x 3).links i = _ from Function.update_self ..]
      exact hoffer
    obtain ⟨hadds', hreturning⟩ := hoffered.initiatorReads hfair
    have hreturned : P.Returning t (J.attempt P.devices i x 4).initiator
        (J.attempt P.devices i x 4).responder ((J.attempt P.devices i x 4).links i) := by
      rw [show (J.attempt P.devices i x 4).links i = _ from Function.update_self ..]
      exact hreturning
    have hacknowledged : P.Acknowledged t (J.attempt P.devices i x 5).initiator
        (J.attempt P.devices i x 5).responder ((J.attempt P.devices i x 5).links i) := by
      rw [show (J.attempt P.devices i x 5).links i = _ from Function.update_self ..]
      exact hreturned.responderReads hfair
    refine ⟨t, hpairId, hfair, hadds, hadds', ?_⟩
    rw [show (J.attempt P.devices i x 6).links i = _ from Function.update_self ..]
    exact hacknowledged.initiatorReads hfair
  · obtain ⟨grant, hgrant⟩ := happroved hnone
    rw [hdenied] at hgrant
    cases hgrant

/-- However the attempts were cut, the stores stand where a new attempt can go on. -/
theorem History.standing (hhistory : P.History J) : P.Standing J.initiator J.responder := by
  induction hhistory with
  | start ha hb => exact .blank ha hb.offered
  | attempt _ i x hx k ih => exact attempt_standing ih hx i k

/-- After any history of cut attempts an undisturbed one ends with both drivers returning and
the same complete record, and no pending one, in both stores. -/
theorem recovery_converges (hhistory : P.History J)
    (hx : x.Regular P J.initiator J.responder)
    (hundisturbed : x.Undisturbed P J.initiator J.responder) (i : Nat) :
    ∃ t, P.Fair t ∧ P.Concluded t (J.attempt P.devices i x 6).initiator
      (J.attempt P.devices i x 6).responder ((J.attempt P.devices i x 6).links i) := by
  rcases attempt_ended hhistory.standing hx i with ⟨hfair, h⟩ | hcause
  · exact ⟨_, hfair, h⟩
  · exact absurd hundisturbed hcause

end Runs

end Partners

end Attempts

namespace Loopback

attribute [local instance] crypto noise transportLaws handshakeLaws lawfulCrypto
  PairingRecord.canonicalSerde PairingRecord.canonicalSerde_lawful PairMessage.canonicalSerde
  PairMessage.canonicalSerde_lawful

def partners : Partners :=
  ⟨root, identity 3, identity 4, certificate (keyOf 3), certificate (keyOf 4), ⟨rfl, rfl⟩,
    ⟨rfl, rfl⟩, by decide +kernel⟩

/-- The operating system at time 300. -/
def calling (pairId entropy : UInt8) : Opening :=
  ⟨300, 300, listing, listing, listing, .ok (List.Vector.replicate 16 pairId), keyOf entropy⟩

def pairingAttempt (pairId entropy : UInt8) : Attempt :=
  ⟨calling pairId entropy, calling pairId (entropy + 1), env, env, env, env,
    fun _ => .ok ⟨marker⟩⟩

theorem pairingAttempt_regular {pairId entropy : UInt8} {a b : Host}
    (ha : Partners.Unnamed a (pairIdOf pairId)) (hb : Partners.Unnamed b (pairIdOf pairId)) :
    (pairingAttempt pairId entropy).Regular partners a b := by
  have hvalid : partners.ValidAt 300 := ⟨by decide +kernel, by decide +kernel⟩
  have hmarker : Partners.Presentable marker := ⟨by decide, by decide⟩
  constructor
  · exact ⟨hvalid, hvalid⟩
  · exact ⟨hvalid, hvalid⟩
  · exact (by decide : (300 : UInt64) ≠ 0)
  · exact ⟨_, rfl, ha, hb⟩
  · intro grant hgrant
    obtain rfl := Except.ok.inj hgrant
    exact hmarker

/-- An attempt that is lost after the initiator has co-signed the offer. -/
def lostAttempt : Joint := Joint.start.attempt partners.devices 0 (pairingAttempt 7 11) 4

theorem firstAttempt_regular :
    (pairingAttempt 7 11).Regular partners Joint.start.initiator Joint.start.responder :=
  pairingAttempt_regular (fun folder => Host.file_empty folder _)
    fun folder => Host.file_empty folder _

theorem firstAttempt_contact :
    ∃ t, t.pairId = pairIdOf 7 ∧ partners.FirstContact Joint.start 0 (pairingAttempt 7 11) t :=
  Partners.attempt_first Partners.blank_empty Partners.blank_empty.offered firstAttempt_regular
    rfl (fun _ => ⟨_, rfl⟩) 0

private theorem lostAttempt_history : partners.History lostAttempt :=
  .attempt (.start Partners.blank_empty Partners.blank_empty) 0 (pairingAttempt 7 11)
    firstAttempt_regular 4

private theorem lostAttempt_adds {h : Host}
    (hmem : h ∈ [lostAttempt.initiator, lostAttempt.responder]) :
    ∃ r, r.pairId = pairIdOf 7 ∧ Host.empty.Adds h .pending r := by
  obtain ⟨t, hpairId, hcontact⟩ := firstAttempt_contact
  rcases List.mem_pair.mp hmem with hsame | hsame
  · rw [hsame]
    exact ⟨partners.agreed t, hpairId, hcontact.coSigned⟩
  · rw [hsame, lostAttempt, Partners.attempt_responder]
    exact ⟨partners.offer t, hpairId, hcontact.offered⟩

theorem lostAttempt_unnamed {h : Host}
    (hmem : h ∈ [lostAttempt.initiator, lostAttempt.responder]) :
    Partners.Unnamed h (pairIdOf 8) := by
  obtain ⟨r, hpairId, hadds⟩ := lostAttempt_adds hmem
  have hother : pairIdOf 8 ≠ pairIdOf 7 := by decide
  intro folder
  by_contra hfile
  exact hother ((hadds.pairId_eq hfile).trans hpairId)

theorem lostAttempt_pairId {h : Host} {r : PairingRecord}
    (hmem : h ∈ [lostAttempt.initiator, lostAttempt.responder])
    (hr : r ∈ partners.records h .pending) : r.pairId = pairIdOf 7 := by
  obtain ⟨r', hpairId, hadds⟩ := lostAttempt_adds hmem
  obtain ⟨bytes, hfile, -⟩ := hr.1.stored
  have hsome : h.file .pending (recordFile r.pairId) ≠ none := by
    rw [hfile]
    exact Option.some_ne_none bytes
  exact (hadds.pairId_eq hsome).trans hpairId

/-- Another one after it. -/
theorem recovery_converges_lost :
    ∃ t, partners.Fair t ∧ partners.Concluded t
      (lostAttempt.attempt partners.devices 1 (pairingAttempt 8 13) 6).initiator
      (lostAttempt.attempt partners.devices 1 (pairingAttempt 8 13) 6).responder
      ((lostAttempt.attempt partners.devices 1 (pairingAttempt 8 13) 6).links 1) := by
  have hregular : (pairingAttempt 8 13).Regular partners lostAttempt.initiator
      lostAttempt.responder :=
    pairingAttempt_regular (lostAttempt_unnamed (by simp)) (lostAttempt_unnamed (by simp))
  apply Partners.recovery_converges lostAttempt_history hregular
  constructor
  · exact fun _ _ => ⟨_, rfl⟩
  · intro _ r hr
    have hpairId := lostAttempt_pairId (by simp) hr
    have hleads : ∀ order : ReadDir, order.Leads lostAttempt.responder
        partners.responder.deviceId partners.initiator.deviceId r := by
      intro order
      obtain ⟨r', hpairId', hadds⟩ := lostAttempt_adds (h := lostAttempt.responder) (by simp)
      apply order.leads_of_pairIds
      · rw [hpairId, ← hpairId', hadds.file]
        rfl
      · intro r'' hr''
        rw [Host.between_comm] at hr''
        rw [hpairId, lostAttempt_pairId (by simp) hr'']
    exact ⟨hleads _, hleads _⟩

end Loopback

end OmarchySync
