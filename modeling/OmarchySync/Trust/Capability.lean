import OmarchySync.Capability
import OmarchySync.Trust.Revocation

/-!
# Pairings and capabilities

Runs of both stores on one state root. A capability file outlives the pairing it was granted
under, so what a pairing starts with depends on what is stored when it is activated.
-/

namespace OmarchySync

open Logic Wire Traced

section Activation

variable [Crypto] [Noise]

omit [Crypto] in
private theorem Op.Moves.of_absent {op : Op} {pairId : Text} {r : PairingRecord}
    (h : Relation.ReflTransGen (op.Moves pairId) .absent (.active r)) : op.activates = some r := by
  rcases Relation.ReflTransGen.cases_head h with heq | ⟨mid, hfirst, hrest⟩
  · cases heq
  · cases hfirst with
    | activate hop _ =>
        rcases Relation.ReflTransGen.cases_head hrest with heq | ⟨_, hsecond, _⟩
        · rw [hop, Life.active.inj heq]
        · cases hsecond
          cases hop

variable [Serde]

omit [Crypto] [Noise] in
private theorem Host.Lives.committed {h : Host} {life : Life PairingRecord} {r : PairingRecord}
    (hlives : h.Lives r.pairId life) (hcommitted : h.Committed .active r) : life = .active r := by
  obtain ⟨bytes, hfile, hread⟩ := hcommitted.stored
  rw [hlives.active] at hfile
  cases life with
  | active a =>
      cases hfile
      have hheld := (hlives.held a rfl).2
      rw [hread] at hheld
      rw [Except.ok.inj hheld]
  | _ => cases hfile

variable {S : Setting} [LawfulSerde]

private theorem Call.Ends.activates {call : Call} {h g : Host} {r : PairingRecord}
    {life : Life PairingRecord} (hends : call.Ends S h g) (hlives : h.Lives r.pairId life)
    (hafter : g.Committed .active r) (hbefore : ¬h.Committed .active r) :
    call.op.activates = some r ∧ h.file .active (recordFile r.pairId) = none := by
  obtain ⟨life', hlives', hmoves⟩ := hends.lives hafter.pairId hlives
  obtain rfl := hlives'.committed hafter
  cases life with
  | absent => exact ⟨Op.Moves.of_absent hmoves, hlives.active⟩
  | active a =>
      have hadvances : Life.Advances (.active a) (.active r) :=
        hmoves.lift id fun _ _ hmove => hmove.next
      rcases hadvances.of_active with heq | heq
      · cases heq
        exact absurd ⟨hafter.pairId, _, hlives.active, (hlives.held r rfl).2⟩ hbefore
      · cases heq
  | revoked a =>
      have hadvances : Life.Advances (.revoked a) (.active r) :=
        hmoves.lift id fun _ _ hmove => hmove.next
      cases hadvances.of_revoked

end Activation

/-- The trust directory of a device: its pairing records and its grants. -/
structure StateRoot where
  host : Host
  grants : Dir

/-- One call of `grantCapability`, with the clock of the pairing store it consults. -/
structure Grant where
  stamp : Stamp
  order : ReadDir
  now : UInt64
  localDeviceId : Text
  peerDeviceId : Text
  capability : Text

section Stories

variable [Crypto] [Noise]

/-- A call of one of the two stores. -/
inductive Action where
  | pairing (call : Call)
  | grant (g : Grant)

def StateRoot.empty : StateRoot := ⟨Host.empty, ∅⟩

variable [Serde] [CapabilitySerde]

def Grant.outcome (g : Grant) (S : Setting) (root : StateRoot) : Outcome FsStep Dir TextSet :=
  let pairings : PairingStore := ⟨S.root, g.now⟩
  CapabilityStore.grantCapability g.stamp (pairings.hasActivePairing g.order root.host)
    g.localDeviceId g.peerDeviceId g.capability root.grants

/-- What a call, completed or interrupted, leaves behind. -/
inductive Action.Ends (S : Setting) (root : StateRoot) : Action → StateRoot → Prop where
  | pairing {call h} (hends : call.Ends S root.host h) :
      Ends S root (.pairing call) { root with host := h }
  | granted {g} :
      Ends S root (.grant g) { root with grants := endState root.grants (g.outcome S root).visited }
  | grantInterrupted {g l d} (hmem : (l, d) ∈ (g.outcome S root).visited) (hcut : S.cut l) :
      Ends S root (.grant g) { root with grants := d }

/-- The calls so far, each with the state it started in, and the state reached. -/
inductive Story (S : Setting) (allowed : StateRoot → Action → Prop) :
    List (StateRoot × Action) → StateRoot → Prop where
  | start : Story S allowed [] .empty
  | act {past root action root'} (hstory : Story S allowed past root)
      (hallowed : allowed root action) (hends : action.Ends S root root') :
      Story S allowed (past ++ [(root, action)]) root'
  | sign {past root s} (hstory : Story S allowed past root)
      (hs : ∀ r role, s ≠ Signing.record r role) :
      Story S allowed past { root with host := root.host.log (.signed s) }

/-- A call that activates a new record finds no grants of the peer it binds. -/
def Action.ActivatesBare (S : Setting) (root : StateRoot) : Action → Prop
  | .pairing call => ∀ r peer, call.op.activates = some r →
      root.host.file .active (recordFile r.pairId) = none → r.binds S.identity.deviceId peer →
      root.grants.lookup (recordFile peer) = none
  | .grant _ => True

/-- The capability was granted to the peer while the record was already active. -/
def GrantedUnder (past : List (StateRoot × Action)) (r : PairingRecord) (peer capability : Text) :
    Prop :=
  ∃ before root g after, past = before ++ (root, .grant g) :: after ∧
    g.peerDeviceId = peer ∧ g.capability = capability ∧ root.host.Committed .active r

/-- Whatever `load` returns of a peer with an active pairing was granted under that pairing. -/
def StateRoot.Earned (S : Setting) (past : List (StateRoot × Action)) (root : StateRoot) : Prop :=
  ∀ r peer found capability, root.host.Committed .active r → r.binds S.identity.deviceId peer →
    CapabilityStore.load root.grants peer = .ok (some found) → capability ∈ found →
    GrantedUnder past r peer capability

omit [Crypto] [CapabilitySerde] in
private theorem GrantedUnder.append {past : List (StateRoot × Action)} {r : PairingRecord}
    {peer capability : Text} (h : GrantedUnder past r peer capability) (entry : StateRoot × Action) :
    GrantedUnder (past ++ [entry]) r peer capability := by
  obtain ⟨before, root, g, after, rfl, hpeer, hcapability, hactive⟩ := h
  exact ⟨before, root, g, after ++ [entry], by simp, hpeer, hcapability, hactive⟩

omit [Crypto] [Noise] [CapabilitySerde] in
private theorem Host.Committed.peer_hexId {h : Host} {r : PairingRecord} {first second : Text}
    (hcommitted : h.Committed .active r) (hbinds : r.binds first second) : HexId second := by
  obtain ⟨bytes, -, hread⟩ := hcommitted.stored
  have hshaped := ((PairingRecord.fromBytes_eq_ok ..).mp hread).2.2
  rcases hbinds with h | h
  · exact h.2 ▸ hshaped.responderDeviceId
  · exact h.1 ▸ hshaped.initiatorDeviceId

variable {S : Setting} {allowed : StateRoot → Action → Prop} {past : List (StateRoot × Action)}
  {root root' : StateRoot}

private theorem Action.Ends.file {g : Grant} {deviceId : Text} (hid : HexId deviceId)
    (hends : (Action.grant g).Ends S root root') : root'.host = root.host ∧
      ∀ bytes, root'.grants.lookup (recordFile deviceId) = some bytes →
        CapabilityStore.Granted root.grants g.peerDeviceId g.capability deviceId bytes := by
  have hkeeps := @CapabilityStore.keeps_grantCapability _ g.stamp
    (PairingStore.hasActivePairing ⟨S.root, g.now⟩ g.order root.host) g.localDeviceId
    g.peerDeviceId g.capability root.grants deviceId hid
  have hvisited := hkeeps.1.invariant (I := fun a => ∀ bytes,
      a.lookup (recordFile deviceId) = some bytes →
      CapabilityStore.Granted root.grants g.peerDeviceId g.capability deviceId bytes)
    (fun _ _ _ hab ha bytes hfile => (hab bytes hfile).elim (ha bytes) id) (fun _ => .inl)
  cases hends with
  | granted => exact ⟨rfl, hvisited.1⟩
  | grantInterrupted hmem _ => exact ⟨rfl, hvisited.2 _ _ hmem⟩

variable [LawfulSerde] [LawfulCapabilitySerde]

omit [LawfulCapabilitySerde] in
private theorem Story.lives {pairId : Text} (hid : HexId pairId)
    (hstory : Story S allowed past root) :
    ∃ life, root.host.Lives pairId life := by
  induction hstory with
  | start => exact ⟨_, Host.empty_lives pairId⟩
  | act _ _ hends ih =>
      obtain ⟨life, hlives⟩ := ih
      cases hends with
      | pairing hcall =>
          obtain ⟨life', hlives', -⟩ := hcall.lives hid hlives
          exact ⟨life', hlives'⟩
      | granted => exact ⟨life, hlives⟩
      | grantInterrupted _ _ => exact ⟨life, hlives⟩
  | sign _ _ ih =>
      obtain ⟨life, hlives⟩ := ih
      exact ⟨life, hlives.active, hlives.revoked, hlives.held⟩

omit [LawfulSerde] in
theorem StateRoot.Earned.grant {g : Grant} (hearned : root.Earned S past)
    (hends : (Action.grant g).Ends S root root') :
    root'.Earned S (past ++ [(root, .grant g)]) := by
  intro r peer found capability hactive hbinds hload hmem
  have hid : HexId peer := hactive.peer_hexId hbinds
  obtain ⟨hhost, hfile⟩ := hends.file hid
  rw [hhost] at hactive
  obtain ⟨bytes, hlookup, hread⟩ := (CapabilityStore.load_some hid).mp hload
  rcases hfile bytes hlookup with hold | hnew
  · have hload' := (CapabilityStore.load_some hid).mpr ⟨bytes, hold, hread⟩
    exact (hearned r peer found capability hactive hbinds hload' hmem).append _
  · obtain ⟨rfl, stored, hstored, rfl⟩ := hnew
    rw [LawfulCapabilitySerde.fromSlice_toVecPretty, Option.some.injEq,
      CapabilityRecord.mk.injEq] at hread
    rw [← hread.2, TextSet.mem_insert] at hmem
    rcases hmem with heq | hmem
    · exact ⟨past, root, g, [], rfl, rfl, heq.symm, hactive⟩
    · cases stored with
      | none => exact absurd hmem (TextSet.not_mem_empty _)
      | some s => exact (hearned r _ s capability hactive hbinds hstored hmem).append _

omit [LawfulCapabilitySerde] in
/-- A pairing call that activates nothing new over stored grants leaves them earned. -/
theorem StateRoot.Earned.pairing {call : Call} {h : Host} (hearned : root.Earned S past)
    (hlives : ∀ pairId, HexId pairId → ∃ life, root.host.Lives pairId life)
    (hbare : (Action.pairing call).ActivatesBare S root) (hends : call.Ends S root.host h) :
    StateRoot.Earned S (past ++ [(root, .pairing call)]) { root with host := h } := by
  intro r peer found capability hactive hbinds hload hmem
  by_cases hbefore : root.host.Committed .active r
  · exact (hearned r peer found capability hbefore hbinds hload hmem).append _
  · obtain ⟨life, hlife⟩ := hlives r.pairId hactive.pairId
    obtain ⟨hop, hfree⟩ := hends.activates hlife hactive hbefore
    have hnone := CapabilityStore.load_none (hactive.peer_hexId hbinds) (hbare r peer hop hfree hbinds)
    rw [hnone] at hload
    cases hload

private theorem Story.earned
    (hbare : ∀ root action, allowed root action → action.ActivatesBare S root)
    (hstory : Story S allowed past root) : root.Earned S past := by
  induction hstory with
  | start =>
      intro r peer found capability hactive
      obtain ⟨bytes, hfile, -⟩ := hactive.stored
      simp [StateRoot.empty] at hfile
  | @act past root action root' hstory hallowed hends ih =>
      cases action with
      | pairing call =>
          cases hends with
          | pairing hcall =>
              exact ih.pairing (fun pairId hid => hstory.lives hid) (hbare _ _ hallowed) hcall
      | grant g => exact ih.grant hends
  | sign _ _ ih =>
      intro r peer found capability hactive
      exact ih r peer found capability ⟨hactive.pairId, hactive.stored⟩

/-- In every history of both stores whose activations find no grants of the peer, a peer's
capabilities were granted under the pairing that is active, and a new pairing starts with none. -/
theorem capabilities_earned_of_activatesBare
    (hbare : ∀ root action, allowed root action → action.ActivatesBare S root)
    (hstory : Story S allowed past root) :
    root.Earned S past ∧ ∀ call h r peer, allowed root (.pairing call) →
      call.Ends S root.host h → h.Committed .active r → ¬root.host.Committed .active r →
      r.binds S.identity.deviceId peer → CapabilityStore.load root.grants peer = .ok none := by
  refine ⟨hstory.earned hbare, ?_⟩
  intro call h r peer hallowed hends hafter hbefore hbinds
  obtain ⟨life, hlives⟩ := hstory.lives hafter.pairId
  obtain ⟨hop, hfree⟩ := hends.activates hlives hafter hbefore
  exact CapabilityStore.load_none (hafter.peer_hexId hbinds) (hbare _ _ hallowed r peer hop hfree hbinds)

end Stories

namespace Loopback

attribute [local instance] crypto noise PairingRecord.canonicalSerde
  PairingRecord.canonicalSerde_lawful CapabilityRecord.canonicalSerde
  CapabilityRecord.canonicalSerde_lawful

def paired : StateRoot := ⟨completed activation Host.empty, ∅⟩

/-- The responder lets the initiator sync its theme. -/
def themeGrant : Grant :=
  ⟨⟨1, 1⟩, listing, 200, deviceIdOf 2, deviceIdOf 1, ⟨ascii "sync.theme", by decide⟩⟩

def themed : StateRoot :=
  { paired with grants := endState paired.grants (themeGrant.outcome (crashing 2) paired).visited }

theorem capabilities_earned_of_activatesBare_themed :
    themed.Earned (crashing 2) [(.empty, .pairing activation), (paired, .grant themeGrant)] := by
  have hstory : Story (crashing 2) (fun root action => action.ActivatesBare (crashing 2) root)
      ([] ++ [(.empty, .pairing activation)] ++ [(paired, .grant themeGrant)]) themed := by
    apply Story.act
    · apply Story.act .start
      · intro _ _ _ _ _
        exact AList.lookup_empty _
      · exact .pairing .completes
    · trivial
    · exact .granted
  exact (capabilities_earned_of_activatesBare (fun _ _ h => h) hstory).1

def unpaired : StateRoot := { themed with host := completed revocation themed.host }

/-- The responder activates a new pairing with the initiator. -/
def reactivation : Call :=
  ⟨100, env, .finalize (sessionOf 8 2 1 roleResponder) (complete (recordOf 8 1 2 2 100) 1 2)⟩

def repaired : StateRoot := { unpaired with host := completed reactivation unpaired.host }

/-- A new pairing starts with what was granted under the revoked one. -/
theorem capabilities_after_revocation :
    ¬∀ past root, Story (crashing 2) (fun _ _ => True) past root → root.Earned (crashing 2) past := by
  intro hall
  have hstory : Story (crashing 2) (fun _ _ => True)
      ([] ++ [(.empty, .pairing activation)] ++ [(paired, .grant themeGrant)] ++
        [(themed, .pairing revocation)] ++ [(unpaired, .pairing reactivation)]) repaired :=
    (((Story.start.act trivial (.pairing .completes)).act trivial .granted).act trivial
      (.pairing .completes)).act trivial (.pairing .completes)
  have hfacts : readRecord repaired.host .active (recordFile (pairIdOf 8)) =
        .ok (some (complete (recordOf 8 1 2 2 100) 1 2)) ∧
      CapabilityStore.load repaired.grants (deviceIdOf 1) =
        .ok (some ((∅ : TextSet).insert themeGrant.capability)) ∧
      paired.host.file .active (recordFile (pairIdOf 8)) = none := by
    decide +kernel
  obtain ⟨hactive, hload, hfree⟩ := hfacts
  have hcommitted : repaired.host.Committed .active (complete (recordOf 8 1 2 2 100) 1 2) :=
    ⟨hexId_hexText _ rfl, (readRecord_eq_ok ..).mp hactive⟩
  have hbinds : (complete (recordOf 8 1 2 2 100) 1 2).binds (identity 2).deviceId (deviceIdOf 1) := by
    decide +kernel
  obtain ⟨before, root, g, after, hpast, -, -, hbefore⟩ := hall _ _ hstory _ _ _ themeGrant.capability
    hcommitted hbinds hload ((TextSet.mem_insert _ _ _).mpr (.inl rfl))
  have hmem : (root, Action.grant g) ∈ before ++ (root, .grant g) :: after := by simp
  rw [← hpast] at hmem
  obtain ⟨rfl, -⟩ : root = paired ∧ g = themeGrant := by simpa using hmem
  obtain ⟨bytes, hfile, -⟩ := hbefore.stored
  have hsame : recordFile (complete (recordOf 8 1 2 2 100) 1 2).pairId = recordFile (pairIdOf 8) := rfl
  rw [hsame, hfree] at hfile
  cases hfile

end Loopback

end OmarchySync
