import OmarchySync.Runtime.Network
import OmarchySync.Runtime.Phases

/-!
# The course of a connection

What is on its way between the two drivers at each of their stages, while the initiator has not
returned. Losing either end at any time stays on this course.
-/

namespace OmarchySync

open Logic Wire Traced PairingM

variable [Serde]

/-- What may be on its way to an initiator that awaits a response. -/
inductive Responses (b : Host) : List PairMessage → Prop where
  | none : Responses b []
  | prepared (bytes) : Responses b [.prepared bytes]
  | complete {bytes} (hactive : ∀ record, PairingRecord.fromBytes bytes = .ok record →
      b.HasActivated record) : Responses b [.complete bytes]
  | acknowledged {bytes} (hactive : ∀ record, PairingRecord.fromBytes bytes = .ok record →
      b.HasActivated record) : Responses b [.complete bytes, .finalized]

variable {b b' : Host} {messages : List PairMessage}

private theorem Responses.outlast (h : Responses b messages) (hb : b'.Outlasts b) :
    Responses b' messages := by
  cases h with
  | none => exact .none
  | prepared bytes => exact .prepared bytes
  | complete hactive => exact .complete fun r hr => hb.hasActivated r (hactive r hr)
  | acknowledged hactive => exact .acknowledged fun r hr => hb.hasActivated r (hactive r hr)

variable [Crypto] [Noise] [TransportLaws]

/-- Nothing has been exchanged with the responder. -/
def InitiatorStage.Unmet : InitiatorStage → Prop
  | .idle => True
  | .dialed _ _ _ => True
  | _ => False

/-- The states of a connection with a responder whose store is `b`. -/
inductive Conversation (b : Host) : Link → Prop where
  | returned (result responder toInitiator toResponder) :
      Conversation b ⟨.returned result, responder, toInitiator, toResponder⟩
  | unused : Conversation b .unused
  | unmet {initiator} (hunmet : initiator.Unmet) (result toInitiator toResponder) :
      Conversation b ⟨initiator, .returned result, toInitiator, toResponder⟩
  | dialed {store reconnect party x start toResponder} (hfresh : x.Fresh)
      (hstart : exec PairingInitiator.start ⟨x, []⟩ = .ok (start, party))
      (hto : toResponder = wireLayout start ∧ Wired start ∨ toResponder = []) :
      Conversation b ⟨.dialed store reconnect party, .listening, [], toResponder⟩
  | requested {store reconnect s store' found r toInitiator toResponder}
      (hto : Line 3 s r toResponder [.request]) (hfrom : Line 2 r s toInitiator []) :
      Conversation b ⟨.response store reconnect s, .request store' found r, toInitiator,
        toResponder⟩
  | offered {store reconnect s store' r toInitiator toResponder bytes}
      (hto : Line 3 s r toResponder []) (hfrom : Line 3 r s toInitiator [.prepared bytes]) :
      Conversation b ⟨.response store reconnect s, .complete store' r, toInitiator, toResponder⟩
  | answered {store record s store' r toInitiator toResponder}
      (hsize : record.toVec.length ≤ maxRecordBytes)
      (hto : Line 4 s r toResponder [.complete record.toVec]) (hfrom : Line 3 r s toInitiator []) :
      Conversation b ⟨.finalized store record s, .complete store' r, toInitiator, toResponder⟩
  | responding {store reconnect s r n toInitiator messages} (hn : n ≤ 4)
      (hfrom : Line n r s toInitiator messages) (hmessages : Responses b messages)
      (result toResponder) :
      Conversation b ⟨.response store reconnect s, .returned result, toInitiator, toResponder⟩
  | closing {store record s r n toInitiator} (hn : n ≤ 4)
      (hfrom : Line n r s toInitiator [.finalized]) (hrecord : b.Acknowledges record)
      (result toResponder) :
      Conversation b ⟨.finalized store record s, .returned result, toInitiator, toResponder⟩
  | quiet {store record s toInitiator} (hnil : toInitiator = []) (result toResponder) :
      Conversation b ⟨.finalized store record s, .returned result, toInitiator, toResponder⟩

namespace Conversation

variable {l : Link}

theorem outlast (h : Conversation b l) (hb : b'.Outlasts b) : Conversation b' l := by
  cases h with
  | returned => exact .returned ..
  | unused => exact .unused
  | unmet hunmet => exact .unmet hunmet ..
  | dialed hfresh hstart hto => exact .dialed hfresh hstart hto
  | requested hto hfrom => exact .requested hto hfrom
  | offered hto hfrom => exact .offered hto hfrom
  | answered hsize hto hfrom => exact .answered hsize hto hfrom
  | responding hn hfrom hmessages => exact .responding hn hfrom (hmessages.outlast hb) ..
  | closing hn hfrom hrecord => exact .closing hn hfrom (hrecord.outlast hb) ..
  | quiet hnil => exact .quiet hnil ..

/-- What is on its way to the initiator still arrives when the responder is lost. -/
theorem responderLost (h : Conversation b l) (e : String) (toResponder : Bytes) :
    Conversation b { l.responderLost e with toResponder } := by
  cases h with
  | returned => exact .returned ..
  | unused => exact .unmet (show InitiatorStage.Unmet .idle from trivial) ..
  | unmet hunmet => exact .unmet hunmet ..
  | dialed => exact .unmet (show InitiatorStage.Unmet (.dialed _ _ _) from trivial) ..
  | requested _ hfrom => exact .responding (by decide) hfrom .none ..
  | offered _ hfrom => exact .responding (by decide) hfrom (.prepared _) ..
  | answered _ _ hfrom => exact .quiet hfrom.silent ..
  | responding hn hfrom hmessages => exact .responding hn hfrom hmessages ..
  | closing hn hfrom hrecord => exact .closing hn hfrom hrecord ..
  | quiet hnil => exact .quiet hnil ..

theorem dial (rt : Runtime) (os : Opening) (h : Host) : Conversation b (.dial rt os h) := by
  unfold Link.dial
  dsimp only
  split
  next link hlink =>
    simp only [bind_eq_ok, writeWire_eq_ok, pure_eq_ok] at hlink
    obtain ⟨⟨x, reconnect⟩, hopen, ⟨start, party⟩, hstart, out, ⟨hwired, rfl⟩, rfl⟩ := hlink
    exact .dialed (openInitiator_fresh hopen) hstart (.inl ⟨rfl, hwired⟩)
  next => exact .returned ..

section Reads

variable [AppSerde] {rt : Runtime} {env : Env} {a : Host} {frame rest : Bytes}

private theorem initiatorReads_of_keeps (hread : readWire l.toInitiator = .ok (frame, rest))
    (hkeeps : Keeps (DeviceStep rt.identity b.Acknowledges) (l.initiator.receive rt env frame)
      (fun r _ => ∀ stage out, r = .ok (stage, out) → Conversation b { l with
        initiator := stage, toInitiator := rest, toResponder := l.toResponder ++ out }) a) :
    Conversation b (l.initiatorReads rt env a).link ∧
      Path (DeviceStep rt.identity b.Acknowledges) a (l.initiatorReads rt env a).visited := by
  have hpost := hkeeps.2
  simp only [Link.initiatorReads, hread]
  cases hresult : (l.initiator.receive rt env frame a).result with
  | error e => exact ⟨.returned .., hkeeps.1⟩
  | ok out => exact ⟨hpost _ _ hresult, hkeeps.1⟩

private theorem initiatorReads_of_nil (h : Conversation b l) (hnil : l.toInitiator = []) :
    Conversation b (l.initiatorReads rt env a).link ∧
      Path (DeviceStep rt.identity b.Acknowledges) a (l.initiatorReads rt env a).visited := by
  obtain ⟨e, hread⟩ := readWire_nil
  rw [← hnil] at hread
  simp only [Link.initiatorReads, hread]
  exact ⟨h, trivial⟩

variable [LawfulAppSerde]

/-- A phase of the initiator activates only what the responder has activated. -/
theorem initiatorReads (h : Conversation b l) (rt : Runtime) (env : Env) (a : Host) :
    Conversation b (l.initiatorReads rt env a).link ∧
      Path (DeviceStep rt.identity b.Acknowledges) a (l.initiatorReads rt env a).visited := by
  cases hread : readWire l.toInitiator with
  | error e =>
      simp only [Link.initiatorReads, hread]
      exact ⟨h, trivial⟩
  | ok out =>
      cases h with
      | returned result responder toInitiator toResponder =>
          apply initiatorReads_of_keeps hread
          apply (keeps_pure _).mpr
          intro stage out hout
          cases hout
          exact .returned ..
      | unused => exact initiatorReads_of_nil .unused rfl
      | @unmet initiator hunmet result toInitiator toResponder =>
          apply initiatorReads_of_keeps hread
          have hpure : initiator.receive rt env out.1 = pure (initiator, []) := by
            cases initiator with
            | idle => rfl
            | dialed => rfl
            | _ => cases hunmet
          rw [hpure]
          apply (keeps_pure _).mpr
          intro stage out hout
          cases hout
          exact .unmet hunmet ..
      | dialed hfresh hstart hto => exact initiatorReads_of_nil (.dialed hfresh hstart hto) rfl
      | requested hto hfrom => exact initiatorReads_of_nil (.requested hto hfrom) hfrom.silent
      | answered hsize hto hfrom =>
          exact initiatorReads_of_nil (.answered hsize hto hfrom) hfrom.silent
      | @offered store reconnect s store' r toInitiator toResponder bytes hto hfrom =>
          obtain ⟨frame, rest, s', hread', hmessage, hfrom', hback⟩ := hfrom.receive (by decide)
          apply initiatorReads_of_keeps hread'
          apply (onResponse_keeps hmessage).post
          intro _ _ hreplied stage out hout
          cases hreplied stage out hout with
          | @prepared _ record _ s'' hsize hsend =>
              obtain ⟨sent, t, hsend', hto', hback'⟩ :=
                (hback _ _ _ hto).send (m := .complete record.toVec) hsize (by decide)
              rw [hsend] at hsend'
              cases hsend'
              exact .answered hsize hto' (hback' _ _ _ hfrom')
      | @responding store reconnect s r n toInitiator messages hn hfrom hmessages =>
          have hnonce : n ≤ nonceLimit := le_trans hn (by decide)
          cases hmessages with
          | none =>
              exact initiatorReads_of_nil (.responding hn hfrom .none ..) hfrom.silent
          | prepared bytes =>
              obtain ⟨frame, rest, s', hread', hmessage, hfrom', -⟩ := hfrom.receive hnonce
              apply initiatorReads_of_keeps hread'
              apply (onResponse_keeps hmessage).post
              intro _ _ hreplied stage out hout
              cases hreplied stage out hout with
              | prepared => exact .quiet hfrom'.silent ..
          | complete hactive =>
              obtain ⟨frame, rest, s', hread', hmessage, hfrom', -⟩ := hfrom.receive hnonce
              apply initiatorReads_of_keeps hread'
              apply (onResponse_keeps hmessage).post
              intro _ _ hreplied stage out hout
              cases hreplied stage out hout with
              | complete => exact .quiet hfrom'.silent ..
          | acknowledged hactive =>
              obtain ⟨frame, rest, s', hread', hmessage, hfrom', -⟩ := hfrom.receive hnonce
              apply initiatorReads_of_keeps hread'
              apply (onResponse_keeps hmessage).post
              intro _ _ hreplied stage out hout
              cases hreplied stage out hout with
              | complete hrecord =>
                  exact .closing hn hfrom' (fun _ _ => hactive _ hrecord) ..
      | @closing store record s r n toInitiator hn hfrom hrecord =>
          obtain ⟨frame, rest, s', hread', hmessage, -⟩ := hfrom.receive (le_trans hn (by decide))
          apply initiatorReads_of_keeps hread'
          apply (onFinalized_keeps hmessage fun _ => hrecord).post
          intro _ _ hreturned stage out hout
          rw [hreturned stage out hout]
          exact .returned ..
      | quiet hnil => exact initiatorReads_of_nil (.quiet hnil ..) hnil

variable [LawfulSerde] {broker : AuthorizationBroker}

omit [LawfulAppSerde] in
private theorem responderReads_of_keeps (h : Conversation b l)
    (hread : readWire l.toResponder = .ok (frame, rest))
    (hkeeps : Keeps (DeviceStep rt.identity fun _ => True)
      (l.responder.receive rt env broker frame)
      (fun r g => ∀ stage out, r = .ok (stage, out) → Conversation g { l with
        responder := stage, toResponder := rest, toInitiator := l.toInitiator ++ out }) b) :
    Conversation (endState b (l.responderReads rt env broker b).visited)
      (l.responderReads rt env broker b).link := by
  have hpost := hkeeps.2
  simp only [Link.responderReads, hread]
  cases hresult : (l.responder.receive rt env broker frame b).result with
  | error e => exact (h.responderLost e rest).outlast (outlasts_of_path hkeeps.1).1
  | ok out => exact hpost _ _ hresult

omit [LawfulAppSerde] [LawfulSerde] in
private theorem responderReads_of_nil (h : Conversation b l) (hnil : l.toResponder = []) :
    Conversation (endState b (l.responderReads rt env broker b).visited)
      (l.responderReads rt env broker b).link := by
  obtain ⟨e, hread⟩ := readWire_nil
  rw [← hnil] at hread
  simp only [Link.responderReads, hread]
  exact h

omit [LawfulAppSerde] in
private theorem responderReads_of_pure (h : Conversation b l)
    (hread : readWire l.toResponder = .ok (frame, rest))
    (hpure : l.responder.receive rt env broker frame = pure (l.responder, []))
    (hsame : Conversation b { l with toResponder := rest }) :
    Conversation (endState b (l.responderReads rt env broker b).visited)
      (l.responderReads rt env broker b).link := by
  apply responderReads_of_keeps h hread
  rw [hpure]
  apply (keeps_pure _).mpr
  intro stage out hout
  cases hout
  rw [List.append_nil]
  exact hsame

omit [TransportLaws] [LawfulAppSerde] in
theorem responderReads_path (l : Link) (rt : Runtime) (env : Env) (broker : AuthorizationBroker)
    (b : Host) : Path (DeviceStep rt.identity fun _ => True) b
      (l.responderReads rt env broker b).visited := by
  cases hread : readWire l.toResponder with
  | error e =>
      simp only [Link.responderReads, hread]
      trivial
  | ok out =>
      have hpath : Path (DeviceStep rt.identity fun _ => True) b
          (l.responder.receive rt env broker out.1 b).visited := (l.responder.receive_keeps).1
      simp only [Link.responderReads, hread]
      cases (l.responder.receive rt env broker out.1 b).result with
      | error e => exact hpath
      | ok sent => exact hpath

theorem responderReads (h : Conversation b l) (hstands : b.Stands) (rt : Runtime) (env : Env)
    (broker : AuthorizationBroker) :
    Conversation (endState b (l.responderReads rt env broker b).visited)
      (l.responderReads rt env broker b).link := by
  cases hread : readWire l.toResponder with
  | error e =>
      simp only [Link.responderReads, hread]
      exact h
  | ok out =>
      have hcourse := h
      cases h with
      | returned result responder toInitiator toResponder =>
          apply responderReads_of_keeps hcourse hread
          apply (ResponderStage.receive_keeps _).post
          intro _ _ _ stage out _
          exact .returned ..
      | unused => exact responderReads_of_nil .unused rfl
      | unmet hunmet =>
          exact responderReads_of_pure hcourse hread rfl (.unmet hunmet ..)
      | dialed hfresh hstart hto =>
          rcases hto with ⟨hlayout, hwired⟩ | hnil
          · have hread' := (readWire_eq_ok _ _ _).mpr
              ⟨hwired, hlayout.trans (List.append_nil _).symm⟩
            exact responderReads_of_pure hcourse hread' rfl (.dialed hfresh hstart (.inr rfl))
          · exact responderReads_of_nil hcourse hnil
      | offered hto hfrom => exact responderReads_of_nil hcourse hto.silent
      | responding hn hfrom hmessages =>
          exact responderReads_of_pure hcourse hread rfl (.responding hn hfrom hmessages ..)
      | closing hn hfrom hrecord =>
          exact responderReads_of_pure hcourse hread rfl (.closing hn hfrom hrecord ..)
      | quiet hnil => exact responderReads_of_pure hcourse hread rfl (.quiet hnil ..)
      | @requested store reconnect s store' found r toInitiator toResponder hto hfrom =>
          obtain ⟨frame, rest, r', hread', hmessage, hto', hback⟩ := hto.receive (by decide)
          apply responderReads_of_keeps hcourse hread'
          apply (onRequest_keeps hstands hmessage).post
          intro _ g hoffered stage out hout
          have hfrom' := hback _ _ _ hfrom
          cases hoffered stage out hout with
          | @prepared bytes _ r'' hsize hsend =>
              obtain ⟨sent, t, hsend', hfrom'', hback'⟩ :=
                hfrom'.send (m := .prepared bytes) hsize (by decide)
              rw [hsend] at hsend'
              cases hsend'
              exact .offered (hback' _ _ _ hto') hfrom''
          | @active bytes _ r'' e hsize hactive hsend hfails =>
              obtain ⟨sent, t, hsend', hfrom'', -⟩ :=
                hfrom'.send (m := .complete bytes) hsize (by decide)
              rw [hsend] at hsend'
              cases hsend'
              exact .responding (by decide) hfrom'' (.complete hactive) ..
          | @acknowledged bytes first t₁ second t₂ hsize hactive hsend hsend₂ =>
              obtain ⟨sent, t, hsend', hfrom'', -⟩ :=
                hfrom'.send (m := .complete bytes) hsize (by decide)
              rw [hsend] at hsend'
              cases hsend'
              obtain ⟨sent, t, hsend', hfrom'', -⟩ :=
                hfrom''.send (m := .finalized) trivial (by decide)
              rw [hsend₂] at hsend'
              cases hsend'
              rw [List.append_assoc] at hfrom''
              exact .responding (by decide) hfrom'' (.acknowledged hactive) ..
      | @answered store record s store' r toInitiator toResponder hsize hto hfrom =>
          obtain ⟨frame, rest, r', hread', hmessage, -, hback⟩ := hto.receive (by decide)
          apply responderReads_of_keeps hcourse hread'
          apply (onComplete_keeps hstands hsize hmessage).post
          intro _ g hacknowledged stage out hout
          obtain ⟨hrecord, rfl, r'', hsend⟩ := hacknowledged stage out hout
          obtain ⟨sent, t, hsend', hfrom', -⟩ :=
            (hback _ _ _ hfrom).send (m := .finalized) trivial (by decide)
          rw [hsend] at hsend'
          cases hsend'
          exact .closing (by decide) hfrom' hrecord ..

end Reads

section Calls

variable [HandshakeLaws]

theorem lines_of_connect {rt : Runtime} {os : Opening} {g : Host} {x : PairingInitiator}
    {start : Bytes} {party : Party PairingInitiator} {s : AuthenticatedPairingSession}
    {stage : ResponderStage} (hfresh : x.Fresh) (hwired : Wired start)
    (hstart : exec PairingInitiator.start ⟨x, []⟩ = .ok (start, party))
    (hconnect : Link.connect rt os g party start = .ok (s, stage)) :
    ∃ store found r, stage = .request store found r ∧ Line 2 s r [] [] ∧ Line 2 r s [] [] := by
  simp only [Link.connect, bind_eq_ok, pure_eq_ok, Prod.mk.injEq] at hconnect
  obtain ⟨⟨y, found⟩, -, ⟨initiator, responder⟩, hauth, rfl, rfl⟩ := hconnect
  obtain ⟨hash, static, hmatches⟩ := hfresh.deliver (y := y) os.entropy
  have hcross : crossWire start = .ok start := (crossWire_eq_ok _ _).mpr ⟨hwired, rfl⟩
  have hdeliver : deliver x y os.entropy = .ok (initiator, responder) := by
    simp only [deliver, hstart, hcross, ok_bind]
    exact hauth
  obtain ⟨seen, -, hsessions⟩ := hmatches.exists_of_ok' hdeliver
  obtain ⟨hlinked, hinitiator, hresponder⟩ := hsessions.linked
  have hne : roleResponder ≠ roleInitiator := by decide
  refine ⟨_, found, responder, rfl, ⟨?_, by simp⟩, ⟨?_, by simp⟩⟩
  · apply hlinked.pipe
    · exact .inl hinitiator
    · rw [hinitiator, hresponder]
      exact hne
  · apply hlinked.symm.pipe
    · exact .inr hresponder
    · rw [hinitiator, hresponder]
      exact hne.symm

theorem accept (h : Conversation b l) (rt : Runtime) (os : Opening) (g : Host) :
    Conversation b (l.accept rt os g) := by
  cases h with
  | returned => exact .returned ..
  | unused => exact .unused
  | @unmet initiator hunmet result toInitiator toResponder =>
      have hsame : Link.accept rt os g ⟨initiator, .returned result, toInitiator, toResponder⟩ =
          ⟨initiator, .returned result, toInitiator, toResponder⟩ := by
        unfold Link.accept
        split
        next hlistening _ => cases hlistening
        next => rfl
      rw [hsame]
      exact .unmet hunmet ..
  | requested hto hfrom => exact .requested hto hfrom
  | offered hto hfrom => exact .offered hto hfrom
  | answered hsize hto hfrom => exact .answered hsize hto hfrom
  | responding hn hfrom hmessages => exact .responding hn hfrom hmessages ..
  | closing hn hfrom hrecord => exact .closing hn hfrom hrecord ..
  | quiet hnil => exact .quiet hnil ..
  | @dialed store reconnect party x start toResponder hfresh hstart hto =>
      rcases hto with ⟨hlayout, hwired⟩ | hnil
      · have hread : readWire toResponder = .ok (start, []) :=
          (readWire_eq_ok ..).mpr ⟨hwired, by rw [hlayout, List.append_nil]⟩
        simp only [Link.accept, hread]
        cases hconnect : Link.connect rt os g party start with
        | error e => exact .returned ..
        | ok out =>
            obtain ⟨store', found, r, hstage, hto, hfrom⟩ :=
              lines_of_connect hfresh hwired hstart hconnect
            obtain ⟨sent, s', hsend, hto', hback⟩ := hto.send (m := .request) trivial (by decide)
            simp only [hsend, hstage]
            exact .requested hto' (hback _ _ _ hfrom)
      · obtain ⟨e, hread⟩ := readWire_nil
        rw [← hnil] at hread
        simp only [Link.accept, hread]
        exact .dialed hfresh hstart (.inr hnil)

end Calls

end Conversation

end OmarchySync
