import OmarchySync.Runtime.Meeting

/-!
# The courses of an attempt

What the two stores hold between the messages of an attempt, whether it is a first contact, a
recovery or a reconnect, and how each message takes the two further.
-/

namespace OmarchySync

open Logic Wire Traced PairingM

variable [Crypto] [Noise]

omit [Crypto] in
private theorem receiveMessage_sameEnds [AppSerde] {s s' : AuthenticatedPairingSession}
    {frame : Bytes}
    {message : PairMessage} (hok : receiveMessage s frame = .ok (message, s')) :
    s.SameEnds s' := by
  simp only [receiveMessage, bind_eq_ok, pure_eq_ok, Prod.mk.injEq] at hok
  obtain ⟨_, -, _, -, -, rfl⟩ := hok
  exact s.decrypt_sameEnds frame

namespace Link

variable [Serde]

/-- The link when a phase of the responder has come to its end. -/
def responderEnds (l : Link) (rest : Bytes) : Result (ResponderStage × Bytes) → Link
  | .ok (stage, out) =>
      { l with responder := stage, toResponder := rest, toInitiator := l.toInitiator ++ out }
  | .error e => { l.responderLost e with toResponder := rest }

def initiatorEnds (l : Link) (rest : Bytes) : Result (InitiatorStage × Bytes) → Link
  | .ok (stage, out) =>
      { l with initiator := stage, toInitiator := rest, toResponder := l.toResponder ++ out }
  | .error e => { l.initiatorLost e with toInitiator := rest }

/-- Neither end will read anything that matters to its store. -/
structure Over (l : Link) : Prop where
  initiator : (∃ result, l.initiator = .returned result) ∨ l.toInitiator = []
  responder : (∃ result, l.responder = .returned result) ∨ l.toResponder = []

variable [AppSerde] {l : Link} {frame rest : Bytes} {rt : Runtime} {env : Env}
  {broker : AuthorizationBroker} {h : Host} {R : Host → Link → Prop}

theorem responderReads_keeps (hread : readWire l.toResponder = .ok (frame, rest))
    (hkeeps : Keeps AnyStep (l.responder.receive rt env broker frame)
      (fun result g => R g (l.responderEnds rest result)) h) :
    R (endState h (l.responderReads rt env broker h).visited)
      (l.responderReads rt env broker h).link := by
  have hend := hkeeps.2
  revert hend
  simp only [responderReads, hread]
  cases (l.responder.receive rt env broker frame h).result with
  | error e => exact id
  | ok out => exact id

private theorem initiatorReads_keeps (hread : readWire l.toInitiator = .ok (frame, rest))
    (hkeeps : Keeps AnyStep (l.initiator.receive rt env frame)
      (fun result g => R g (l.initiatorEnds rest result)) h) :
    R (endState h (l.initiatorReads rt env h).visited) (l.initiatorReads rt env h).link := by
  have hend := hkeeps.2
  revert hend
  simp only [initiatorReads, hread]
  cases (l.initiator.receive rt env frame h).result with
  | error e => exact id
  | ok out => exact id

theorem responderReads_nil (hnil : l.toResponder = []) :
    l.responderReads rt env broker h = ⟨l, []⟩ := by
  obtain ⟨e, hread⟩ := readWire_nil
  rw [← hnil] at hread
  simp only [responderReads, hread]

theorem Over.responderReads (hover : l.Over) (rt : Runtime) (env : Env)
    (broker : AuthorizationBroker) (h : Host) :
    endState h (l.responderReads rt env broker h).visited = h ∧
      (l.responderReads rt env broker h).link.Over := by
  rcases hover.responder with ⟨result, hreturned⟩ | hnil
  · cases hread : readWire l.toResponder with
    | error e =>
        simp only [Link.responderReads, hread]
        exact ⟨rfl, hover⟩
    | ok out =>
        refine responderReads_keeps (R := fun g l' => g = h ∧ l'.Over) hread ?_
        rw [hreturned]
        refine (keeps_pure _).mpr ⟨rfl, ?_, .inl ⟨result, rfl⟩⟩
        rcases hover.initiator with hinitiator | hnil
        · exact .inl hinitiator
        · exact .inr ((List.append_nil _).trans hnil)
  · rw [responderReads_nil hnil]
    exact ⟨rfl, hover⟩

theorem Over.initiatorReads (hover : l.Over) (rt : Runtime) (env : Env) (h : Host) :
    endState h (l.initiatorReads rt env h).visited = h ∧
      (l.initiatorReads rt env h).link.Over := by
  rcases hover.initiator with ⟨result, hreturned⟩ | hnil
  · cases hread : readWire l.toInitiator with
    | error e =>
        simp only [Link.initiatorReads, hread]
        exact ⟨rfl, hover⟩
    | ok out =>
        refine initiatorReads_keeps (R := fun g l' => g = h ∧ l'.Over) hread ?_
        rw [hreturned]
        refine (keeps_pure _).mpr ⟨rfl, .inl ⟨result, rfl⟩, ?_⟩
        rcases hover.responder with hresponder | hnil
        · exact .inl hresponder
        · exact .inr ((List.append_nil _).trans hnil)
  · obtain ⟨e, hread⟩ := readWire_nil
    rw [← hnil] at hread
    simp only [Link.initiatorReads, hread]
    exact ⟨rfl, hover⟩

end Link

namespace Partners

variable [TransportLaws] {P : Partners} {pairId : Text} {binding : Array8 32} {n m : Nat}
  {s r : AuthenticatedPairingSession} {toResponder toInitiator : Bytes}
  {message : PairMessage} {requests replies : List PairMessage}

private theorem Talk.responderReceives [AppSerde] [LawfulAppSerde]
    (h : P.Talk pairId binding n m s r toResponder toInitiator (message :: requests) replies)
    (hn : n ≤ nonceLimit) :
    ∃ frame rest r', readWire toResponder = .ok (frame, rest) ∧
      receiveMessage r frame = .ok (message, r') ∧
      P.Talk pairId binding n m s r' rest toInitiator requests replies := by
  obtain ⟨frame, rest, r', hread, hmessage, hforth, hback⟩ := h.forth.receive hn
  have hmet := h.met.traffic ⟨s.transport, rfl⟩ (receiveMessage_sameEnds hmessage)
  exact ⟨frame, rest, r', hread, hmessage, hmet, hforth, hback _ _ _ h.back⟩

private theorem Talk.initiatorReceives [AppSerde] [LawfulAppSerde]
    (h : P.Talk pairId binding n m s r toResponder toInitiator requests (message :: replies))
    (hm : m ≤ nonceLimit) :
    ∃ frame rest s', readWire toInitiator = .ok (frame, rest) ∧
      receiveMessage s frame = .ok (message, s') ∧
      P.Talk pairId binding n m s' r toResponder rest requests replies := by
  obtain ⟨frame, rest, s', hread, hmessage, hback, hforth⟩ := h.back.receive hm
  have hmet := h.met.traffic (receiveMessage_sameEnds hmessage) ⟨r.transport, rfl⟩
  exact ⟨frame, rest, s', hread, hmessage, hmet, hforth _ _ _ h.forth, hback⟩

private theorem Talk.responderSends
    (h : P.Talk pairId binding n m s r toResponder toInitiator requests replies)
    (hstored : message.Stored) (hm : m < nonceLimit) :
    ∃ out r', sendMessage r message = .ok (out, r') ∧
      P.Talk pairId binding n (m + 1) s r' toResponder (toInitiator ++ out) requests
        (replies ++ [message]) := by
  obtain ⟨out, r', hsend, hback, hforth⟩ := h.back.send hstored hm
  have hmet := h.met.traffic ⟨s.transport, rfl⟩ (sendMessage_sameEnds hsend)
  exact ⟨out, r', hsend, hmet, hforth _ _ _ h.forth, hback⟩

private theorem Talk.initiatorSends
    (h : P.Talk pairId binding n m s r toResponder toInitiator requests replies)
    (hstored : message.Stored) (hn : n < nonceLimit) :
    ∃ out s', sendMessage s message = .ok (out, s') ∧
      P.Talk pairId binding (n + 1) m s' r (toResponder ++ out) toInitiator
        (requests ++ [message]) replies := by
  obtain ⟨out, s', hsend, hforth, hback⟩ := h.forth.send hstored hn
  have hmet := h.met.traffic (sendMessage_sameEnds hsend) ⟨r.transport, rfl⟩
  exact ⟨out, s', hsend, hmet, hforth, hback _ _ _ h.back⟩

section Stores

variable [Serde]

/-- The PairID names no file. -/
def Unnamed (h : Host) (pairId : Text) : Prop :=
  ∀ folder, h.file folder (recordFile pairId) = none

/-- The responder can activate the record whose offer it has on file. -/
structure Backs (P : Partners) (h : Host) (t : Terms) : Prop where
  offered : P.Offered h
  offer : P.offer t ∈ P.records h .pending
  free : h.file .active (recordFile t.pairId) = none
  unrevoked : h.file .revoked (recordFile t.pairId) = none

/-- The initiator holds the complete record. -/
def Holds (P : Partners) (h : Host) (t : Terms) : Prop := P.CoSigned h t ∨ P.Paired h t

/-- Where the two stores can be between two attempts. -/
inductive Standing (P : Partners) (a b : Host) : Prop where
  | blank (ha : P.Blank a) (hb : P.Offered b)
  | coSigned {t} (hfair : P.Fair t) (ha : P.CoSigned a t) (hb : P.Backs b t)
  | activated {t} (hfair : P.Fair t) (ha : P.Holds a t) (hb : P.Paired b t)

variable {a b g h : Host} {t : Terms}

omit [Noise] [TransportLaws]

private theorem Holds.ready (h : P.Holds a t) : P.Ready a t := by
  rcases h with ha | ha
  · exact ⟨ha.kept, ha.unrevoked, .inl ⟨ha.free, ha.active⟩⟩
  · exact ⟨ha.kept, ha.unrevoked, .inr ha.active⟩

private theorem Backs.ready (h : P.Backs b t) : P.Ready b t :=
  ⟨h.offered.kept, h.unrevoked, .inl ⟨h.free, h.offered.active⟩⟩

variable [LawfulCrypto] [LawfulSerde]

private theorem Offered.backs (hb : P.Offered h) (hfair : P.Fair t)
    (hadds : h.Adds g .pending (P.offer t)) (hunnamed : Unnamed h t.pairId) : P.Backs g t := by
  have hpending : P.records g .pending = insert (P.offer t) (P.records h .pending) :=
    hadds.between (hunnamed .pending) (hfair.read false) hfair.pairId (binds_signed false true)
  have hactive : P.records g .active = P.records h .active :=
    hadds.between_elsewhere (by decide)
  constructor
  · constructor
    · exact ⟨hb.kept.active.congr (hadds.elsewhere (by decide)),
        hb.kept.pending.add hadds (hfair.read false) hfair.pairId (hfair.validatePending false 0)⟩
    · rw [hactive, hb.active]
    · intro r hr
      rw [hpending] at hr
      rcases Set.mem_insert_iff.mp hr with rfl | hr
      · exact ⟨t, hfair, rfl⟩
      · exact hb.pending r hr
  · rw [hpending]
    exact Set.mem_insert _ _
  · rw [hadds.elsewhere (by decide)]
    exact hunnamed .active
  · rw [hadds.elsewhere (by decide)]
    exact hunnamed .revoked

private theorem Blank.coSigned (ha : P.Blank h) (hfair : P.Fair t)
    (hadds : h.Adds g .pending (P.agreed t)) (hunnamed : Unnamed h t.pairId) :
    P.CoSigned g t := by
  have hpending : P.records g .pending = insert (P.agreed t) (P.records h .pending) :=
    hadds.between (hunnamed .pending) (hfair.read true) hfair.pairId (binds_signed true true)
  have hactive : P.records g .active = P.records h .active :=
    hadds.between_elsewhere (by decide)
  constructor
  · exact ⟨ha.kept.active.congr (hadds.elsewhere (by decide)),
      ha.kept.pending.add hadds (hfair.read true) hfair.pairId (hfair.validatePending true 0)⟩
  · rw [hactive, ha.active]
  · rw [hadds.elsewhere (by decide)]
    exact hunnamed .active
  · rw [hadds.elsewhere (by decide)]
    exact hunnamed .revoked
  · rw [hpending, ha.pending, insert_empty_eq]

end Stores

section Courses

variable [Serde]

/-- A request at first contact. -/
inductive FirstRequest (P : Partners) (pairId : Text) (a b : Host) : Link → Prop where
  | mk {binding s r opened opened' pending toResponder} (ha : P.Blank a)
      (hb : P.Offered b) (hid : HexId pairId) (hunnamed : Unnamed a pairId ∧ Unnamed b pairId)
      (hvalid : P.ValidAt opened ∧ P.ValidAt opened') (htime : opened' ≠ 0)
      (hpending : ∀ r, pending = some r → r ∈ P.records b .pending)
      (hnone : pending = none → P.records b .pending = ∅)
      (htalk : P.Talk pairId binding 3 2 s r toResponder [] [.request] []) :
      FirstRequest P pairId a b ⟨.response ⟨P.root, opened⟩ false s,
        .request ⟨P.root, opened'⟩ ⟨none, pending, false⟩ r, [], toResponder⟩

/-- A request for the record under `u` in the recovery of the one under `t`. -/
inductive RecoveryRequest (P : Partners) (t u : Terms) (a b : Host) : Link → Prop where
  | mk {binding s r opened opened' toResponder} (ha : P.CoSigned a t) (hb : P.Backs b t)
      (hvalid : P.ValidAt opened')
      (htalk : P.Talk t.pairId binding 3 2 s r toResponder [] [.request] []) :
      RecoveryRequest P t u a b ⟨.response ⟨P.root, opened⟩ true s,
        .request ⟨P.root, opened'⟩ ⟨none, some (P.offer u), true⟩ r, [], toResponder⟩

/-- A request to a responder that has activated the record. -/
inductive ReconnectRequest (P : Partners) (t : Terms) (a b : Host) : Link → Prop where
  | mk {binding s r opened opened' toResponder} (ha : P.Holds a t) (hb : P.Paired b t)
      (htalk : P.Talk t.pairId binding 3 2 s r toResponder [] [.request] []) :
      ReconnectRequest P t a b ⟨.response ⟨P.root, opened⟩ true s,
        .request ⟨P.root, opened'⟩ ⟨some t.pairId, none, true⟩ r, [], toResponder⟩

/-- A new offer is on its way. -/
inductive NewOffer (P : Partners) (t : Terms) (a b : Host) : Link → Prop where
  | mk {s r opened opened' toInitiator toResponder} (ha : P.Blank a) (hb : P.Backs b t)
      (hunnamed : Unnamed a t.pairId) (hvalid : P.ValidAt opened ∧ P.ValidAt opened')
      (htalk : P.Talk t.pairId t.binding 3 3 s r toResponder toInitiator []
        [.prepared (P.offer t).toVec]) :
      NewOffer P t a b ⟨.response ⟨P.root, opened⟩ false s, .complete ⟨P.root, opened'⟩ r,
        toInitiator, toResponder⟩

/-- An offer on file is on its way again. -/
inductive OldOffer (P : Partners) (t u : Terms) (a b : Host) : Link → Prop where
  | mk {binding s r opened opened' toInitiator toResponder} (ha : P.CoSigned a t)
      (hb : P.Backs b t) (hvalid : P.ValidAt opened')
      (htalk : P.Talk t.pairId binding 3 3 s r toResponder toInitiator []
        [.prepared (P.offer u).toVec]) :
      OldOffer P t u a b ⟨.response ⟨P.root, opened⟩ true s, .complete ⟨P.root, opened'⟩ r,
        toInitiator, toResponder⟩

/-- The active record is on its way, and the acknowledgement behind it. -/
inductive Presented (P : Partners) (t : Terms) (a b : Host) : Link → Prop where
  | mk {binding s r opened toInitiator toResponder} (ha : P.Holds a t) (hb : P.Paired b t)
      (htalk : P.Talk t.pairId binding 3 4 s r toResponder toInitiator []
        [.complete (P.agreed t).toVec, .finalized]) :
      Presented P t a b ⟨.response ⟨P.root, opened⟩ true s, .returned (.ok ()), toInitiator,
        toResponder⟩

/-- The complete record is on its way back. -/
inductive Returning (P : Partners) (t : Terms) (a b : Host) : Link → Prop where
  | mk {binding s r opened opened' toInitiator toResponder} (ha : P.CoSigned a t)
      (hb : P.Backs b t) (hvalid : P.ValidAt opened')
      (htalk : P.Talk t.pairId binding 4 3 s r toResponder toInitiator
        [.complete (P.agreed t).toVec] []) :
      Returning P t a b ⟨.finalized ⟨P.root, opened⟩ (P.agreed t) s,
        .complete ⟨P.root, opened'⟩ r, toInitiator, toResponder⟩

/-- The acknowledgement is on its way. -/
inductive Acknowledged (P : Partners) (t : Terms) (a b : Host) : Link → Prop where
  | mk {binding s r n opened toInitiator toResponder} (ha : P.Holds a t) (hb : P.Paired b t)
      (hn : n ≤ 4)
      (htalk : P.Talk t.pairId binding n 4 s r toResponder toInitiator [] [.finalized]) :
      Acknowledged P t a b ⟨.finalized ⟨P.root, opened⟩ (P.agreed t) s, .returned (.ok ()),
        toInitiator, toResponder⟩

/-- What comes of a request at first contact: an offer, unless the user denies it. -/
def FirstAnswer (P : Partners) (pairId : Text) (broker : AuthorizationBroker) (a b g : Host)
    (l : Link) : Prop :=
  (∃ t, P.Fair t ∧ t.pairId = pairId ∧ b.Adds g .pending (P.offer t) ∧ P.NewOffer t a g l) ∨
    (P.records b .pending = ∅ ∧ (∃ e, broker P.initiatorCertificate = .error e) ∧ g = b ∧ l.Over)

/-- Both drivers have returned without an error. -/
def Concluded (P : Partners) (t : Terms) (a b : Host) (l : Link) : Prop :=
  P.Paired a t ∧ P.Paired b t ∧ l.initiator = .returned (.ok ()) ∧
    l.responder = .returned (.ok ())

variable {pairId : Text} {t u : Terms} {a b : Host} {l : Link} [LawfulCrypto] [LawfulSerde]
  [AppSerde] [LawfulAppSerde] {env : Env} {broker : AuthorizationBroker}

omit [LawfulSerde] in
theorem RecoveryRequest.responderReads (hrequest : P.RecoveryRequest t u a b l)
    (hfair : P.Fair u) :
    P.OldOffer t u a (endState b (l.responderReads P.devices.responder env broker b).visited)
      (l.responderReads P.devices.responder env broker b).link := by
  obtain @⟨binding, s, r, opened, opened', toResponder, ha, hb, hvalid, htalk⟩ := hrequest
  obtain ⟨frame, rest, r', hread, hmessage, htalk⟩ := htalk.responderReceives (by decide)
  have hstored : (PairMessage.prepared (P.offer u).toVec).Stored := hfair.size false
  obtain ⟨out, r'', hsend, htalk⟩ := htalk.responderSends hstored (by decide)
  refine Link.responderReads_keeps (R := P.OldOffer t u a) hread ?_
  refine (keeps_ok_bind hmessage).mpr ?_
  refine (keeps_ok_bind ((bailIf_eq_ok _ _ ()).mpr (not_not.mpr rfl))).mpr ?_
  apply keeps_bind_of_ok
  refine (keeps_pure _).mpr ⟨rfl, ?_⟩
  refine (keeps_ok_bind (hfair.toBytes false)).mpr ?_
  refine (keeps_ok_bind hsend).mpr ?_
  exact (keeps_pure _).mpr ⟨ha, hb, hvalid, htalk⟩

/-- The responder makes an offer in the session, or its user has denied the first one. -/
theorem FirstRequest.responderReads (hrequest : P.FirstRequest pairId a b l) (env : Env)
    (hgrants : ∀ grant, broker P.initiatorCertificate = .ok grant →
      Presentable grant.userPresence) :
    P.FirstAnswer pairId broker a b
      (endState b (l.responderReads P.devices.responder env broker b).visited)
      (l.responderReads P.devices.responder env broker b).link := by
  obtain @⟨binding, s, r, opened, opened', pending, toResponder, ha, hb, hid, hunnamed, hvalid,
    htime, hpending, hnone, htalk⟩ := hrequest
  obtain ⟨frame, rest, r', hread, hmessage, htalk⟩ := htalk.responderReceives (by decide)
  obtain ⟨transport, rfl⟩ : ∃ transport, r' = P.responderEnd pairId binding transport :=
    ⟨_, htalk.met.responder⟩
  refine Link.responderReads_keeps (R := P.FirstAnswer pairId broker a b) hread ?_
  refine (keeps_ok_bind hmessage).mpr ?_
  refine (keeps_ok_bind ((bailIf_eq_ok _ _ ()).mpr (not_not.mpr rfl))).mpr ?_
  -- whatever the approval, the offer is written down and sent
  have hoffer : ∀ {t : Terms} {g : Host}, t.pairId = pairId → t.binding = binding → P.Fair t →
      b.Adds g .pending (P.offer t) → Keeps AnyStep (do
        let bytes ← (P.offer t).toBytes
        let sent ← sendMessage (P.responderEnd pairId binding transport) (.prepared bytes)
        return (ResponderStage.complete ⟨P.root, opened'⟩ sent.2, sent.1))
        (fun result g => P.FirstAnswer pairId broker a b g (Link.responderEnds
          ⟨.response ⟨P.root, opened⟩ false s, .request ⟨P.root, opened'⟩ ⟨none, pending, false⟩ r,
            [], toResponder⟩ rest result)) g := by
    rintro t g rfl rfl hfair hadds
    have hstored : (PairMessage.prepared (P.offer t).toVec).Stored := hfair.size false
    obtain ⟨out, r'', hsend, htalk⟩ := htalk.responderSends hstored (by decide)
    refine (keeps_ok_bind (hfair.toBytes false)).mpr ?_
    refine (keeps_ok_bind hsend).mpr ?_
    refine (keeps_pure _).mpr (.inl ⟨t, hfair, rfl, hadds, ?_⟩)
    exact ⟨ha, hb.backs hfair hadds hunnamed.2, hunnamed.1, hvalid, htalk⟩
  have hkept := kept_at hb.kept opened'
  cases pending with
  | some record =>
      obtain ⟨u, hfair, rfl⟩ := hb.pending record (hpending record rfl)
      rw [keeps_bind]
      apply (hfair.resumePrepare hid hvalid.2 hkept (hunnamed.2 .pending)).post
      rintro result g ⟨rfl, hadds⟩
      exact hoffer rfl rfl (hfair.renew hid binding) hadds
  | none =>
      have hends : (∃ e, broker P.initiatorCertificate = .error e) ∨
          ∃ grant, broker P.initiatorCertificate = .ok grant := by
        cases broker P.initiatorCertificate with
        | error e => exact .inl ⟨e, rfl⟩
        | ok grant => exact .inr ⟨grant, rfl⟩
      rcases hends with ⟨e, hbroker⟩ | ⟨grant, hbroker⟩
      · have hdenied : ∃ e', Logic.context "local pairing authorization denied"
            (broker P.initiatorCertificate) = .error e' := by
          rw [hbroker]
          exact ⟨_, rfl⟩
        obtain ⟨e', hdenied⟩ := hdenied
        rw [keeps_bind]
        refine (keeps_ok_bind (End.responder transport).acts).mpr ?_
        refine (keeps_error_bind hdenied).mpr ?_
        exact .inr ⟨hnone rfl, ⟨e, hbroker⟩, rfl, .inr rfl, .inl ⟨_, rfl⟩⟩
      · have hfair : P.Fair ⟨pairId, binding, grant.userPresence, opened'⟩ :=
          ⟨hid, hgrants grant hbroker, htime, hvalid.2⟩
        rw [keeps_bind]
        apply (hfair.prepare hkept (hunnamed.2 .pending) hbroker).post
        rintro result g ⟨rfl, hadds⟩
        exact hoffer rfl rfl hfair hadds

omit [LawfulSerde] in
theorem ReconnectRequest.responderReads (hrequest : P.ReconnectRequest t a b l)
    (hfair : P.Fair t) :
    P.Presented t a (endState b (l.responderReads P.devices.responder env broker b).visited)
      (l.responderReads P.devices.responder env broker b).link := by
  obtain @⟨binding, s, r, opened, opened', toResponder, ha, hb, htalk⟩ := hrequest
  obtain ⟨frame, rest, r', hread, hmessage, htalk⟩ := htalk.responderReceives (by decide)
  have hstored : (PairMessage.complete (P.agreed t).toVec).Stored := hfair.size true
  have hfinal : PairMessage.finalized.Stored := trivial
  obtain ⟨out, r₁, hsend, htalk⟩ := htalk.responderSends hstored (by decide)
  obtain ⟨out', r₂, hsend', htalk⟩ := htalk.responderSends hfinal (by decide)
  have hmem : P.agreed t ∈ P.records b .active := by
    rw [hb.active]
    exact Set.mem_singleton _
  have hload : PairingStore.load ⟨P.root, opened'⟩ b t.pairId = .ok (some (P.agreed t)) :=
    hmem.1.load (hfair.validateStored opened')
  refine Link.responderReads_keeps (R := P.Presented t a) hread ?_
  refine (keeps_ok_bind hmessage).mpr ?_
  refine (keeps_ok_bind ((bailIf_eq_ok _ _ ()).mpr (not_not.mpr rfl))).mpr ?_
  refine (keeps_read_bind _).mpr ?_
  refine (keeps_ok_bind hload).mpr ?_
  refine (keeps_ok_bind (a := P.agreed t) rfl).mpr ?_
  refine (keeps_ok_bind (hfair.toBytes true)).mpr ?_
  refine (keeps_ok_bind hsend).mpr ?_
  dsimp only
  rw [hsend']
  refine (keeps_pure _).mpr ?_
  rw [List.append_assoc] at htalk
  exact ⟨ha, hb, htalk⟩

theorem Returning.responderReads (hreturning : P.Returning t a b l) (hfair : P.Fair t) :
    P.Acknowledged t a (endState b (l.responderReads P.devices.responder env broker b).visited)
      (l.responderReads P.devices.responder env broker b).link := by
  obtain @⟨binding, s, r, opened, opened', toInitiator, toResponder, ha, hb, hvalid, htalk⟩ :=
    hreturning
  obtain ⟨frame, rest, r', hread, hmessage, htalk⟩ := htalk.responderReceives (by decide)
  have hfinal : PairMessage.finalized.Stored := trivial
  obtain ⟨out, r₁, hsend, htalk'⟩ := htalk.responderSends hfinal (by decide)
  refine Link.responderReads_keeps (R := P.Acknowledged t a) hread ?_
  refine (keeps_ok_bind hmessage).mpr ?_
  refine (keeps_ok_bind (hfair.read true)).mpr ?_
  have hactivates : Keeps AnyStep (activateRecord P.devices.responder env ⟨P.root, opened'⟩ r'
      (P.agreed t)) (fun result g => result = .ok () ∧ P.Paired g t) b := by
    have hend := htalk.met.responderEnd
    have hbinding : r'.sessionBinding = binding := by
      rw [htalk.met.responder]
      rfl
    rw [activateRecord, if_pos agreed_complete]
    split
    next heq =>
      have hbound : binding = t.binding := hbinding.symm.trans heq.symm
      subst hbound
      exact hfair.finalize hend hvalid hb.ready
    next => exact hfair.reconcile hend hb.ready
  apply keeps_bind_of_ok
  apply hactivates.post
  rintro result g ⟨rfl, hpaired⟩
  refine ⟨rfl, (keeps_ok_bind hsend).mpr ((keeps_pure _).mpr ?_)⟩
  exact ⟨.inl ha, hpaired, le_refl 4, htalk'⟩

theorem NewOffer.initiatorReads (hoffer : P.NewOffer t a b l) (hfair : P.Fair t) :
    a.Adds (endState a (l.initiatorReads P.devices.initiator env a).visited) .pending
        (P.agreed t) ∧
      P.Returning t (endState a (l.initiatorReads P.devices.initiator env a).visited) b
        (l.initiatorReads P.devices.initiator env a).link := by
  obtain @⟨s, r, opened, opened', toInitiator, toResponder, ha, hb, hunnamed, hvalid, htalk⟩ :=
    hoffer
  obtain ⟨frame, rest, s', hread, hmessage, htalk⟩ := htalk.initiatorReceives (by decide)
  obtain ⟨transport, rfl⟩ : ∃ transport, s' = P.initiatorEnd t.pairId t.binding transport :=
    ⟨_, htalk.met.initiator⟩
  have hstored : (PairMessage.complete (P.agreed t).toVec).Stored := hfair.size true
  obtain ⟨out, s₁, hsend, htalk⟩ := htalk.initiatorSends hstored (by decide)
  have hids := deviceIds_hexId (P := P)
  have hkept := kept_at ha.kept opened
  have hpending := pendingForPeer_none hkept env.order hids.1 hids.2 ha.pending
  have hunsigned : ¬(P.offer t).signedBy P.initiator.deviceId := by
    rintro (⟨hsome, -⟩ | ⟨-, heq⟩)
    · cases hsome
    · exact P.distinct heq
  refine Link.initiatorReads_keeps
    (R := fun g l' => a.Adds g .pending (P.agreed t) ∧ P.Returning t g b l') hread ?_
  refine (keeps_ok_bind hmessage).mpr ?_
  refine (keeps_ok_bind (hfair.read false)).mpr ?_
  apply keeps_bind_of_ok
  refine (keeps_read_bind _).mpr ?_
  refine (keeps_ok_bind hpending).mpr ?_
  refine (keeps_ite ..).mpr ⟨fun hsigned => absurd hsigned hunsigned, fun _ => ?_⟩
  apply (hfair.coSign hvalid.1 hkept (hunnamed .pending)).post
  rintro result g ⟨rfl, hadds⟩
  refine ⟨rfl, (keeps_ok_bind (hfair.toBytes true)).mpr ?_⟩
  refine (keeps_ok_bind hsend).mpr ((keeps_pure _).mpr ⟨hadds, ?_⟩)
  exact ⟨ha.coSigned hfair hadds hunnamed, hb, hvalid.2, htalk⟩

/-- To an old offer it returns the record that it holds, if that is under the same PairID. -/
theorem OldOffer.initiatorReads (hoffer : P.OldOffer t u a b l) (env : Env)
    (hfair : P.Fair t) (hfair' : P.Fair u) :
    endState a (l.initiatorReads P.devices.initiator env a).visited = a ∧
      (P.Returning t a b (l.initiatorReads P.devices.initiator env a).link ∨
        u.pairId ≠ t.pairId ∧ (l.initiatorReads P.devices.initiator env a).link.Over ∧
          P.CoSigned a t ∧ P.Backs b t) := by
  obtain @⟨binding, s, r, opened, opened', toInitiator, toResponder, ha, hb, hvalid, htalk⟩ :=
    hoffer
  obtain ⟨frame, rest, s', hread, hmessage, htalk⟩ := htalk.initiatorReceives (by decide)
  have hstored : (PairMessage.complete (P.agreed t).toVec).Stored := hfair.size true
  obtain ⟨out, s₁, hsend, htalk'⟩ := htalk.initiatorSends hstored (by decide)
  have hpeer : s'.peerDeviceId = P.responder.deviceId := by
    rw [htalk.met.initiator]
    rfl
  have hpending : PairingStore.pendingForPeer ⟨P.root, opened⟩ env.order a P.initiator.deviceId
      s'.peerDeviceId = .ok (some (P.agreed t)) := by
    have hids := deviceIds_hexId (P := P)
    have hmem : P.agreed t ∈ P.records a .pending := by
      rw [ha.pending]
      exact Set.mem_singleton _
    obtain ⟨record, hrecord, hfound⟩ :=
      pendingForPeer_some (kept_at ha.kept opened) env.order hids.1 hids.2 hmem
    have heq : record ∈ ({P.agreed t} : Set PairingRecord) := ha.pending ▸ hrecord
    rw [hpeer, hfound, Set.mem_singleton_iff.mp heq]
  refine Link.initiatorReads_keeps (R := fun g l' => g = a ∧ (P.Returning t a b l' ∨
    u.pairId ≠ t.pairId ∧ l'.Over ∧ P.CoSigned a t ∧ P.Backs b t)) hread ?_
  refine (keeps_ok_bind hmessage).mpr ?_
  refine (keeps_ok_bind (hfair'.read false)).mpr ?_
  by_cases heq : u.pairId = t.pairId
  · apply keeps_bind_of_ok
    refine (keeps_read_bind _).mpr ?_
    refine (keeps_ok_bind hpending).mpr ?_
    refine (keeps_ok_bind ((bailIf_eq_ok _ _ ()).mpr (not_not.mpr heq.symm))).mpr ?_
    refine (keeps_pure _).mpr ⟨rfl, (keeps_ok_bind (hfair.toBytes true)).mpr ?_⟩
    refine (keeps_ok_bind hsend).mpr ((keeps_pure _).mpr ⟨rfl, .inl ?_⟩)
    exact ⟨ha, hb, hvalid, htalk'⟩
  · have hsilent : toResponder = [] := htalk.forth.silent
    have hdiffers : bailIf (t.pairId ≠ u.pairId)
        "pending recovery PairID differs from responder" =
        .error "pending recovery PairID differs from responder" := if_pos (Ne.symm heq)
    rw [keeps_bind]
    refine (keeps_read_bind _).mpr ?_
    refine (keeps_ok_bind hpending).mpr ?_
    refine (keeps_error_bind hdiffers).mpr ⟨rfl, .inr ⟨heq, ⟨?_, ?_⟩, ha, hb⟩⟩
    · exact .inl ⟨_, rfl⟩
    · exact .inr hsilent

theorem Presented.initiatorReads (hpresented : P.Presented t a b l) (hfair : P.Fair t) :
    P.Acknowledged t (endState a (l.initiatorReads P.devices.initiator env a).visited) b
      (l.initiatorReads P.devices.initiator env a).link := by
  obtain @⟨binding, s, r, opened, toInitiator, toResponder, ha, hb, htalk⟩ := hpresented
  have hsilent : toResponder = [] := htalk.forth.silent
  subst hsilent
  obtain ⟨frame, rest, s', hread, hmessage, htalk'⟩ := htalk.initiatorReceives (by decide)
  refine Link.initiatorReads_keeps (R := fun g l' => P.Acknowledged t g b l') hread ?_
  refine (keeps_ok_bind hmessage).mpr ?_
  refine (keeps_ok_bind (a := ()) rfl).mpr ?_
  refine (keeps_ok_bind (hfair.read true)).mpr ?_
  exact (keeps_pure _).mpr ⟨ha, hb, (by decide : 3 ≤ 4), htalk'⟩

theorem Acknowledged.initiatorReads (hacknowledged : P.Acknowledged t a b l)
    (hfair : P.Fair t) :
    P.Concluded t (endState a (l.initiatorReads P.devices.initiator env a).visited) b
      (l.initiatorReads P.devices.initiator env a).link := by
  obtain @⟨binding, s, r, n, opened, toInitiator, toResponder, ha, hb, hn, htalk⟩ :=
    hacknowledged
  obtain ⟨frame, rest, s', hread, hmessage, htalk⟩ := htalk.initiatorReceives (by decide)
  refine Link.initiatorReads_keeps (R := fun g l' => P.Concluded t g b l') hread ?_
  refine (keeps_ok_bind hmessage).mpr ?_
  refine (keeps_ok_bind ((bailIf_eq_ok _ _ ()).mpr (not_not.mpr rfl))).mpr ?_
  apply keeps_bind_of_ok
  apply (hfair.reconcile htalk.met.initiatorEnd ha.ready).post
  rintro result g ⟨rfl, hpaired⟩
  exact ⟨rfl, (keeps_pure _).mpr ⟨hpaired, hb, rfl, rfl⟩⟩

end Courses

end Partners

end OmarchySync
