import Mathlib.Logic.Function.Basic
import Mathlib.Logic.Relation
import OmarchySync.Pairing.Initiator
import OmarchySync.Pairing.Responder

/-!
# Concurrent ends

Any number of honest initiators and responders, each called in the order its driver uses and
stopped by its first failure. The network is the attacker's: a call may be made at any time and
with any bytes. The log lists the acts of all ends as they happen, together with the other
uses of the devices' identity keys.
-/

namespace OmarchySync

open Logic Wire Traced PairingM

variable [Crypto] [Noise]

/-- What a call is given: up to two frames, and the randomness of a handshake. -/
structure Delivery where
  first : Bytes
  second : Bytes
  entropy : Noise.Entropy

/-- The calls of one end, in the order its driver makes them. -/
abbrev CallOrder (σ : Type) := List (Delivery → PairingM σ Unit)

def PairingInitiator.callOrder : CallOrder PairingInitiator :=
  [fun _ => do let _ ← start,
    fun d => do let _ ← receiveResponderHandshake d.first,
    fun d => do let _ ← receiveResponderAuth d.first,
    fun d => do let _ ← receiveResponderAck d.first]

def PairingResponder.callOrder : CallOrder PairingResponder :=
  [fun d => do let _ ← receiveInitiatorStart d.entropy d.first,
    fun d => do let _ ← receiveInitiatorFinish d.first d.second,
    fun d => do let _ ← receiveInitiatorAuth d.first]

/-- An end and the number of calls it has completed. -/
structure Endpoint (σ : Type) where
  party : Party σ
  turn : Nat

namespace Endpoint

variable {σ α : Type} {order : CallOrder σ}

/-- Make the next call; after a failure there is none. -/
def call (order : CallOrder σ) (e : Endpoint σ) (d : Delivery) : Endpoint σ :=
  match order[e.turn]? with
  | none => e
  | some m =>
      { party := endState e.party (m d e.party).visited
        turn := if (m d e.party).result.isOk then e.turn + 1 else order.length }

/-- The acts of the next call. -/
def newActs (order : CallOrder σ) (e : Endpoint σ) (d : Delivery) : List Act :=
  (e.call order d).party.acts.drop e.party.acts.length

/-- The acts tell a story, and the state of the party fits the next call. -/
structure Sound (order : CallOrder σ) (story : List Act → Act → Prop)
    (reached : Nat → Party σ → Prop) (e : Endpoint σ) : Prop where
  told : Throughout story e.party.acts
  reached : e.turn < order.length → reached e.turn e.party

/-- Every call of the order tells its part of the story and leads to the next. -/
def Leads (order : CallOrder σ) (story : List Act → Act → Prop)
    (reached : Nat → Party σ → Prop) : Prop :=
  ∀ n m, order[n]? = some m → ∀ d p, reached n p →
    Keeps (Tells story) (m d)
      (fun r q => r = .ok () → n + 1 < order.length → reached (n + 1) q) p

variable {story : List Act → Act → Prop} {reached : Nat → Party σ → Prop} {e : Endpoint σ}

omit [Crypto] in
private theorem Sound.call (hleads : Leads order story reached) (he : Sound order story reached e)
    (d : Delivery) : Tells story () e.party (e.call order d).party ∧
      Sound order story reached (e.call order d) := by
  cases hm : order[e.turn]? with
  | none =>
      have hsame : e.call order d = e := by
        simp [Endpoint.call, hm]
      rw [hsame]
      exact ⟨.refl _, he⟩
  | some m =>
      have hturn : e.turn < order.length := (List.getElem?_eq_some_iff.mp hm).1
      have hkeeps := hleads _ _ hm d _ (he.reached hturn)
      have htells := tells_of_path hkeeps.1
      have hcall : e.call order d =
          { party := endState e.party (m d e.party).visited
            turn := if (m d e.party).result.isOk then e.turn + 1 else order.length } := by
        simp [Endpoint.call, hm]
      rw [hcall]
      refine ⟨htells, htells.throughout he.told, ?_⟩
      intro hnext
      simp only at hnext ⊢
      by_cases hok : (m d e.party).result.isOk = true
      · obtain ⟨u, hu⟩ := (isOk_iff _).mp hok
        simp only [hok, if_true] at hnext ⊢
        exact hkeeps.2 hu hnext
      · simp [hok] at hnext

omit [Crypto] in
private theorem Sound.acts_call (hleads : Leads order story reached)
    (he : Sound order story reached e)
    (d : Delivery) :
    (e.call order d).party.acts = e.party.acts ++ e.newActs order d := by
  obtain ⟨new, hacts, -⟩ := (he.call hleads d).1
  rw [newActs, hacts, List.drop_left]

end Endpoint

section Discard

omit [Crypto] [Noise]

private theorem keeps_discard {σ α : Type} {P : List Act → Act → Prop} {m : PairingM σ α}
    {I : Party σ → Prop} {p : Party σ}
    (h : Keeps (Tells P) m (fun r q => ∀ out, r = .ok out → I q) p) :
    Keeps (Tells P) (do let _ ← m) (fun r q => r = .ok () → I q) p := by
  rw [keeps_bind]
  refine h.post ?_
  intro r q hq
  cases r with
  | error e => exact fun hr => by cases hr
  | ok a => exact (keeps_pure _).mpr fun _ => hq a rfl

end Discard

private theorem PairingInitiator.leads {x : PairingInitiator} (hsound : x.validation.Sound) :
    Endpoint.Leads callOrder x.Story (Reached x) := by
  intro n m hm d p hp
  match n with
  | 0 =>
      cases hm
      exact (keeps_discard (start_keeps hp)).post fun _ _ h hr _ => h hr
  | 1 =>
      cases hm
      exact (keeps_discard (receiveResponderHandshake_keeps _ hp)).post fun _ _ h hr _ => h hr
  | 2 =>
      cases hm
      exact (keeps_discard (receiveResponderAuth_keeps hsound _ hp)).post fun _ _ h hr _ => h hr
  | 3 =>
      cases hm
      have hlast : Keeps (Tells x.Story) (receiveResponderAck d.first)
          (fun r _ => ∀ out, r = .ok out → True) p :=
        (receiveResponderAck_keeps d.first hp).post fun _ _ _ _ _ => trivial
      exact (keeps_discard hlast).post fun _ _ _ _ hlt => absurd hlt (Nat.lt_irrefl 4)
  | n + 4 => cases hm

private theorem PairingResponder.leads {x : PairingResponder} (hsound : x.validation.Sound) :
    Endpoint.Leads callOrder x.Story (Reached x) := by
  intro n m hm d p hp
  match n with
  | 0 =>
      cases hm
      exact (keeps_discard (receiveInitiatorStart_keeps _ _ hp)).post fun _ _ h hr _ => h hr
  | 1 =>
      cases hm
      exact (keeps_discard (receiveInitiatorFinish_keeps hsound _ _ hp)).post
        fun _ _ h hr _ => h hr
  | 2 =>
      cases hm
      have hlast : Keeps (Tells x.Story) (receiveInitiatorAuth d.first)
          (fun r _ => ∀ out, r = .ok out → True) p :=
        (receiveInitiatorAuth_keeps d.first hp).post fun _ _ _ _ _ => trivial
      exact (keeps_discard hlast).post fun _ _ _ _ hlt => absurd hlt (Nat.lt_irrefl 3)
  | n + 3 => cases hm

variable {ι κ : Type}

/-- An act of an end, or another use of an identity key. -/
inductive Entry (ι κ : Type) where
  | act (who : ι ⊕ κ) (act : Act)
  | other (publicKey : Array8 32) (signing : Signing)
  deriving DecidableEq

/-- Initiators `ι` and responders `κ`, and the log of their acts. -/
structure World (ι κ : Type) where
  initiators : ι → Endpoint PairingInitiator
  responders : κ → Endpoint PairingResponder
  log : List (Entry ι κ)

variable [DecidableEq ι] [DecidableEq κ]

omit [Crypto] [Noise] in
/-- The acts of one end. -/
def Entry.by (who : ι ⊕ κ) : Entry ι κ → Option Act
  | .act actor a => if actor = who then some a else none
  | .other _ _ => none

namespace World

/-- The ends before their first call. -/
def start (xs : ι → PairingInitiator) (ys : κ → PairingResponder) : World ι κ where
  initiators i := ⟨⟨xs i, []⟩, 0⟩
  responders k := ⟨⟨ys k, []⟩, 0⟩
  log := []

def callInitiator (w : World ι κ) (i : ι) (d : Delivery) : World ι κ where
  initiators := Function.update w.initiators i
    ((w.initiators i).call PairingInitiator.callOrder d)
  responders := w.responders
  log := w.log ++ ((w.initiators i).newActs PairingInitiator.callOrder d).map (.act (.inl i))

def callResponder (w : World ι κ) (k : κ) (d : Delivery) : World ι κ where
  initiators := w.initiators
  responders := Function.update w.responders k
    ((w.responders k).call PairingResponder.callOrder d)
  log := w.log ++ ((w.responders k).newActs PairingResponder.callOrder d).map (.act (.inr k))

def sign (w : World ι κ) (publicKey : Array8 32) (signing : Signing) : World ι κ :=
  { w with log := w.log ++ [.other publicKey signing] }

/-- One call of one end, or a signature that is not a transcript's. -/
inductive Step : World ι κ → World ι κ → Prop where
  | initiator (w i d) : Step w (w.callInitiator i d)
  | responder (w k d) : Step w (w.callResponder k d)
  | sign (w publicKey signing) (h : ∀ transcript role, signing ≠ .transcript transcript role) :
      Step w (w.sign publicKey signing)

variable {xs : ι → PairingInitiator} {ys : κ → PairingResponder}

/-- The story of each end. -/
def story (xs : ι → PairingInitiator) (ys : κ → PairingResponder) :
    ι ⊕ κ → List Act → Act → Prop
  | .inl i => (xs i).Story
  | .inr k => (ys k).Story

def acts (w : World ι κ) : ι ⊕ κ → List Act
  | .inl i => (w.initiators i).party.acts
  | .inr k => (w.responders k).party.acts

/-- Each end tells its story, and the log holds the acts of all. -/
structure Sound (xs : ι → PairingInitiator) (ys : κ → PairingResponder) (w : World ι κ) :
    Prop where
  initiator : ∀ i, (w.initiators i).Sound PairingInitiator.callOrder (xs i).Story
    (PairingInitiator.Reached (xs i))
  responder : ∀ k, (w.responders k).Sound PairingResponder.callOrder (ys k).Story
    (PairingResponder.Reached (ys k))
  log : ∀ who, w.log.filterMap (Entry.by who) = w.acts who
  other : ∀ publicKey signing, .other publicKey signing ∈ w.log →
    ∀ transcript role, signing ≠ .transcript transcript role

omit [Crypto] [Noise] in
private theorem filterMap_map_act (who actor : ι ⊕ κ) (new : List Act) :
    (new.map (Entry.act actor)).filterMap (Entry.by who) = if actor = who then new else [] := by
  split
  next h =>
    subst h
    induction new with
    | nil => rfl
    | cons a new ih =>
        have hhead : Entry.by actor (Entry.act actor a) = some a := by simp [Entry.by]
        rw [List.map_cons, List.filterMap_cons_some hhead, ih]
  next h =>
    rw [List.filterMap_eq_nil_iff]
    intro e he
    obtain ⟨a, -, rfl⟩ := List.mem_map.mp he
    simp [Entry.by, h]

private theorem sound_start : (start xs ys).Sound xs ys := by
  constructor
  · intro i
    exact ⟨throughout_nil, fun _ => .start⟩
  · intro k
    exact ⟨throughout_nil, fun _ => .start⟩
  · intro who
    cases who <;> rfl
  · intro _ _ hmem
    cases hmem

variable (hinitiators : ∀ i, (xs i).validation.Sound) (hresponders : ∀ k, (ys k).validation.Sound)

include hinitiators in
private theorem Sound.callInitiator {w : World ι κ} (h : w.Sound xs ys) (i : ι) (d : Delivery) :
    (w.callInitiator i d).Sound xs ys := by
  have hleads := PairingInitiator.leads (hinitiators i)
  constructor
  · intro j
    by_cases hj : j = i
    · subst hj
      simpa [World.callInitiator] using ((h.initiator j).call hleads d).2
    · simpa [World.callInitiator, hj] using h.initiator j
  · exact h.responder
  · intro who
    simp only [World.callInitiator, List.filterMap_append, filterMap_map_act, h.log who]
    cases who with
    | inl j =>
        by_cases hj : j = i
        · subst hj
          simpa [acts] using ((h.initiator j).acts_call hleads d).symm
        · simp [acts, hj, Ne.symm hj]
    | inr k => simp [acts]
  · intro key signing hmem
    rcases List.mem_append.mp hmem with hmem | hmem
    · exact h.other key signing hmem
    · simp at hmem

include hresponders in
private theorem Sound.callResponder {w : World ι κ} (h : w.Sound xs ys) (k : κ) (d : Delivery) :
    (w.callResponder k d).Sound xs ys := by
  have hleads := PairingResponder.leads (hresponders k)
  constructor
  · exact h.initiator
  · intro j
    by_cases hj : j = k
    · subst hj
      simpa [World.callResponder] using ((h.responder j).call hleads d).2
    · simpa [World.callResponder, hj] using h.responder j
  · intro who
    simp only [World.callResponder, List.filterMap_append, filterMap_map_act, h.log who]
    cases who with
    | inl i => simp [acts]
    | inr j =>
        by_cases hj : j = k
        · subst hj
          simpa [acts] using ((h.responder j).acts_call hleads d).symm
        · simp [acts, hj, Ne.symm hj]
  · intro key signing hmem
    rcases List.mem_append.mp hmem with hmem | hmem
    · exact h.other key signing hmem
    · simp at hmem

private theorem Sound.sign {w : World ι κ} (h : w.Sound xs ys) {publicKey : Array8 32} {s : Signing}
    (hs : ∀ transcript role, s ≠ .transcript transcript role) : (w.sign publicKey s).Sound xs ys := by
  constructor
  · exact h.initiator
  · exact h.responder
  · intro who
    have hnone : [Entry.other publicKey s].filterMap (Entry.by who) = [] := rfl
    simp only [World.sign, List.filterMap_append, hnone, List.append_nil, h.log who]
    cases who <;> rfl
  · intro key signing hmem
    rcases List.mem_append.mp hmem with hmem | hmem
    · exact h.other key signing hmem
    · cases List.mem_singleton.mp hmem
      exact hs

include hinitiators hresponders in
/-- In every state reached, each end tells its story. -/
theorem sound_of_reachable {w : World ι κ}
    (hruns : Relation.ReflTransGen Step (start xs ys) w) : w.Sound xs ys := by
  induction hruns with
  | refl => exact sound_start
  | tail _ hstep ih =>
      cases hstep with
      | initiator i d => exact ih.callInitiator hinitiators i d
      | responder k d => exact ih.callResponder hresponders k d
      | sign key s hs => exact ih.sign hs

/-- Where an act stands in the log, its story holds of the acts before. -/
theorem Sound.told {w : World ι κ} (h : w.Sound xs ys) {before after : List (Entry ι κ)}
    {who : ι ⊕ κ} {a : Act} (hlog : w.log = before ++ .act who a :: after) :
    story xs ys who (before.filterMap (Entry.by who)) a := by
  have hacts := h.log who
  rw [hlog, List.filterMap_append, List.filterMap_cons_some (b := a) (by simp [Entry.by])] at hacts
  have htold : Throughout (story xs ys who) (w.acts who) := by
    cases who with
    | inl i => exact (h.initiator i).told
    | inr k => exact (h.responder k).told
  rw [← hacts] at htold
  exact htold _ _ _ rfl

end World

end OmarchySync
