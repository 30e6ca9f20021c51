import OmarchySync.Runtime.Established
import OmarchySync.Trust.Known

/-!
# One prompt for each relationship

A responder asks its broker only about a peer it does not know, and nothing but the
revocation of its pairing makes it forget a peer.
-/

namespace OmarchySync

open Logic Wire Traced

section Prompt

variable [Crypto] [Noise] [Serde]

private theorem Found.At.known {rt : Runtime} {os : Opening} {h : Host} {start : Bytes}
    {found : Found}
    (hfound : found.At rt os h start) (hknows : h.Knows rt.identity.deviceId rt.peerDeviceId) :
    found.activePair ≠ none ∨ found.pending ≠ none := by
  obtain ⟨r, hcommitted, hbinds⟩ := hknows
  rcases hcommitted with hpending | hactive
  · right
    intro hnone
    have hmiss := hfound.pending
    rw [hnone] at hmiss
    obtain ⟨bytes, hfile, hread⟩ := hpending.stored
    exact PairingStore.pendingForPeer_miss hmiss ⟨_, bytes, hfile, hread⟩ hbinds
  · left
    intro hnone
    have hmiss := hfound.activePair
    rw [hnone] at hmiss
    simp only [PairingStore.activePairForPeerAt, bind_eq_ok, pure_eq_ok, Option.map_eq_none_iff,
      exists_eq_right] at hmiss
    exact PairingStore.activeRecord_miss hmiss hactive hbinds

variable {rt : Runtime} {env env' : Env} {store : PairingStore} {found : Found}
  {session : AuthenticatedPairingSession}

theorem preparedRecord_unasked (hpending : found.pending ≠ none)
    (broker broker' : AuthorizationBroker) :
    preparedRecord rt env broker store found session =
      preparedRecord rt env broker' store found session := by
  obtain ⟨record, hrecord⟩ := Option.ne_none_iff_exists'.mp hpending
  simp only [preparedRecord, hrecord]

variable [AppSerde]

/-- The device does the same whatever its broker would say, also when its store changes between
the lookups and the request. -/
structure Unasked (rt : Runtime) (h : Host) : Prop where
  run : ∀ os env env' start stream broker broker',
    runResponderWithStart rt os env env' broker start stream h =
      runResponderWithStart rt os env env' broker' start stream h
  later : ∀ os start y found, openResponder rt os h start = .ok (y, found) →
    found.activePair ≠ none ∨ ∀ env store session broker broker',
      preparedRecord rt env broker store found session =
        preparedRecord rt env broker' store found session

theorem unasked_of_knows {h : Host} (hknows : h.Knows rt.identity.deviceId rt.peerDeviceId) :
    Unasked rt h := by
  constructor
  · intro os env env' start stream broker broker'
    unfold runResponderWithStart
    rw [read_bind, read_bind]
    apply lift_bind_congr
    intro awaited hrequest
    obtain ⟨-, hfound⟩ := awaitRequest_meets hrequest
    cases hpaired : awaited.1.activePair with
    | some pairId => simp only [hpaired]
    | none =>
        have hpending := (hfound.known hknows).resolve_left (not_not.mpr hpaired)
        simp only [offerRecord, preparedRecord_unasked hpending broker broker']
  · intro os start y found hopen
    obtain ⟨-, hfound⟩ := openResponder_expects hopen
    by_cases hpaired : found.activePair = none
    · right
      intro env store session broker broker'
      exact preparedRecord_unasked ((hfound.known hknows).resolve_left (not_not.mpr hpaired)) _ _
    · exact .inl hpaired

/-- A device that may be interrupted anywhere and is free in its calls. -/
def Runtime.setting (rt : Runtime) : Setting :=
  ⟨rt.root, rt.identity, fun _ => True, fun _ _ => True⟩

/-- What may happen on the device: a connection with any peer, whatever its frames, or a call of
the store that does not revoke the pairing, each of them cut anywhere. -/
inductive Continues (rt : Runtime) (h : Host) : Host → Prop where
  | connects (peer os env env' broker start stream) :
      Continues rt h (endState h (runResponderWithStart { rt with peerDeviceId := peer } os env env'
        broker start stream h).visited)
  | cut (peer os env env' broker start stream) {l g}
      (hmem : (l, g) ∈ (runResponderWithStart { rt with peerDeviceId := peer } os env env' broker
        start stream h).visited) : Continues rt h g
  | call {call : Call} {g} (hspares : call.op.Spares h rt.identity.deviceId rt.peerDeviceId)
      (hends : call.Ends rt.setting h g) : Continues rt h g

variable [LawfulSerde]

omit [AppSerde] in
private theorem offerRecord_knows {broker : AuthorizationBroker} {h : Host} (first second : Text) :
    Keeps (fun _ a b => a.Knows first second → b.Knows first second)
      (offerRecord rt env broker store found session) (fun _ _ => True) h := by
  have hprepared : Keeps (fun _ a b => a.Knows first second → b.Knows first second)
      (preparedRecord rt env broker store found session) (fun _ _ => True) h := by
    unfold preparedRecord
    split
    next record _ =>
      rw [keeps_ite]
      refine ⟨fun _ => (keeps_pure _).mpr trivial, fun _ => ?_⟩
      apply (keeps_forget_iff (I := fun _ => True)).mp
      exact Op.keeps_knows (.resumePrepare session record) fun _ hop => by cases hop
    next =>
      apply (keeps_forget_iff (I := fun _ => True)).mp
      exact Op.keeps_knows (.prepare session broker) fun _ hop => by cases hop
  simp only [offerRecord]
  rw [keeps_bind]
  refine ((keeps_relabel _ _).mpr hprepared).post ?_
  intro r g _
  cases r with
  | error e => trivial
  | ok prepared =>
      simp only [keeps_lift_bind, implies_true, and_true]
      intro _ _
      exact keeps_send (fun _ _ => ⟨id, trivial⟩) fun _ => trivial

private theorem takeRecord_knows {stream : Bytes} {h : Host} (first second : Text) :
    Keeps (fun _ a b => a.Knows first second → b.Knows first second)
      (takeRecord rt env store session stream) (fun _ _ => True) h := by
  have hactivate : ∀ session complete, Keeps
      (fun _ a b => a.Knows first second → b.Knows first second)
      (activateRecord rt env store session complete) (fun _ _ => True) h := by
    intro session complete
    simp only [activateRecord, keeps_ite, keeps_pure, implies_true, and_true]
    intro _
    constructor
    · intro _
      exact Op.keeps_knows (.finalize session complete) fun _ hop => by cases hop
    · intro _
      exact Op.keeps_knows (.reconcile session complete) fun _ hop => by cases hop
  simp only [takeRecord, keeps_lift_bind, implies_true, and_true]
  intro received _
  cases received.1 with
  | complete bytes =>
      simp only [keeps_lift_bind, implies_true, and_true]
      intro complete _
      rw [keeps_bind]
      refine ((keeps_relabel _ _).mpr (hactivate _ complete)).post ?_
      intro r g _
      cases r with
      | error e => trivial
      | ok u => exact keeps_send (fun _ _ => ⟨id, trivial⟩) fun _ => trivial
  | _ =>
      simp only [keeps_lift]

/-- No step of a connection forgets a peer. -/
theorem runResponderWithStart_knows {os : Opening} {broker : AuthorizationBroker}
    {start stream : Bytes} {h : Host} (first second : Text) :
    Keeps (fun _ a b => a.Knows first second → b.Knows first second)
      (runResponderWithStart rt os env env' broker start stream) (fun _ _ => True) h := by
  simp only [runResponderWithStart, keeps_read_bind, keeps_lift_bind, implies_true, and_true]
  intro awaited _
  cases awaited.1.activePair with
  | some pairId =>
      simp only [presentActive, keeps_read_bind, keeps_lift_bind, implies_true, and_true]
      intro _ _ _ _ _ _
      rw [keeps_bind]
      refine keeps_send (fun _ _ => ⟨id, ?_⟩) fun _ => trivial
      exact keeps_send (fun _ _ => ⟨id, trivial⟩) fun _ => trivial
  | none =>
      dsimp only
      rw [keeps_bind]
      refine (offerRecord_knows first second).post ?_
      intro r g _
      cases r with
      | error e => trivial
      | ok offered => exact takeRecord_knows first second

private theorem Continues.knows {h g : Host} (hcontinues : Continues rt h g)
    (hknows : h.Knows rt.identity.deviceId rt.peerDeviceId) :
    g.Knows rt.identity.deviceId rt.peerDeviceId := by
  have hrun : ∀ peer os env env' broker start stream, Path (fun _ a b =>
      a.Knows rt.identity.deviceId rt.peerDeviceId → b.Knows rt.identity.deviceId rt.peerDeviceId) h
      (runResponderWithStart { rt with peerDeviceId := peer } os env env' broker start stream
        h).visited :=
    fun _ _ _ _ _ _ _ => (runResponderWithStart_knows _ _).1
  cases hcontinues with
  | connects peer os env env' broker start stream =>
      exact ((hrun peer os env env' broker start stream).invariant (fun _ _ _ hab => hab) hknows).1
  | cut peer os env env' broker start stream hmem =>
      exact ((hrun peer os env env' broker start stream).invariant (fun _ _ _ hab => hab)
        hknows).2 _ _ hmem
  | call hspares hends => exact hends.knows hspares hknows

/-- Once a record is prepared for a peer, no continuation without a revocation of the pairing
leads to another prompt for it. -/
theorem one_prompt {session : AuthenticatedPairingSession} {broker : AuthorizationBroker}
    {h g : Host} {record : PairingRecord}
    (hprepared : (store.prepare env session rt.identity broker h).result = .ok record)
    (hpeer : session.peerCertificate.deviceId = rt.peerDeviceId)
    (hlater : Relation.ReflTransGen (Continues rt)
      (endState h (store.prepare env session rt.identity broker h).visited) g) :
    Unasked rt g := by
  apply unasked_of_knows
  have hknows : (endState h (store.prepare env session rt.identity broker h).visited).Knows
      rt.identity.deviceId rt.peerDeviceId := hpeer ▸ prepare_knows.2 record hprepared
  induction hlater with
  | refl => exact hknows
  | tail _ hcontinues ih => exact hcontinues.knows ih

end Prompt

namespace Loopback

attribute [local instance] crypto noise transportLaws PairingRecord.canonicalSerde
  PairingRecord.canonicalSerde_lawful PairMessage.canonicalSerde

/-- The responder's store in the session that prompts. -/
def prompt : Outcome FsStep Host PairingRecord :=
  (store 100).prepare env (sessionOf 8 2 1 roleResponder) (identity 2) approving Host.empty

/-- Another connection, which is lost when the offer is to be answered. -/
def interrupted (h : Host) : Outcome DriverStep Host AuthenticatedPairingSession :=
  runResponderWithStart responderRuntime (opening 12) env env (fun _ => .error "") (startOf 11)
    (authenticated [.request]) h

/-- The record is offered again, though the broker would not approve it now. -/
theorem one_prompt_interrupted :
    (interrupted (endState Host.empty prompt.visited)).visited.any
        (fun step => step.1 matches .sent (.prepared _)) = true ∧
      Unasked responderRuntime (endState (endState Host.empty prompt.visited)
        (interrupted (endState Host.empty prompt.visited)).visited) := by
  have hprompt : prompt.result.isOk = true := by decide +kernel
  have hpeer : (sessionOf 8 2 1 roleResponder).peerCertificate.deviceId = deviceIdOf 1 := rfl
  obtain ⟨record, hprepared⟩ := (isOk_iff _).mp hprompt
  refine ⟨by decide +kernel, ?_⟩
  exact one_prompt hprepared hpeer (.single (.connects (deviceIdOf 1) _ _ _ _ _ _))

end Loopback

end OmarchySync
