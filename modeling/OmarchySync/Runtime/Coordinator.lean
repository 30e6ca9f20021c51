import OmarchySync.Logic.History
import OmarchySync.Runtime.PeerCache

/-!
# The pairing coordinator

One pairing at a time, and a cooldown for a peer whose pairing has failed. `enter` holds both
locks together, `leave` takes them one after the other, so that sections of other workers may
run between the release of the flag and the storing of the cooldown.
-/

namespace OmarchySync

open Logic Wire

def pairCooldown : ℕ := 30 * 10 ^ 9

structure PairCoordinator where
  active : Bool
  cooldown : AList fun _ : Text => Instant

namespace PairCoordinator

def new : PairCoordinator := ⟨false, ∅⟩

/-- The answer and the coordinator left behind. -/
def enter (c : PairCoordinator) (now : Instant) (id : Text) : Bool × PairCoordinator :=
  let cooldown := filterValues (fun deadline => now < deadline) c.cooldown
  if c.active = true ∨ id ∈ cooldown then (false, { c with cooldown })
  else (true, { active := true, cooldown })

/-- The first section of `leave`. -/
def release (c : PairCoordinator) : PairCoordinator := { c with active := false }

/-- The second section of `leave`, for a worker that is to be retried later. -/
def coolDown (c : PairCoordinator) (now : Instant) (id : Text) : PairCoordinator :=
  { c with cooldown := c.cooldown.insert id (now + pairCooldown) }

/-- Nobody is pairing, and no cooldown of the peer is running. -/
def Free (c : PairCoordinator) (now : Instant) (id : Text) : Prop :=
  c.active = false ∧ ∀ deadline, c.cooldown.lookup id = some deadline → deadline ≤ now

theorem enter_eq_true (c : PairCoordinator) (now : Instant) (id : Text) :
    (c.enter now id).1 = true ↔ c.Free now id := by
  have hcooling : id ∈ filterValues (fun deadline => now < deadline) c.cooldown ↔
      ∃ deadline, c.cooldown.lookup id = some deadline ∧ now < deadline := by
    rw [AList.mem_keys, mem_keys_iff]
    simp only [lookup_filterValues, Option.filter_eq_some_iff, decide_eq_true_eq]
  simp only [enter, Free]
  split
  next hbusy =>
    simp only [Bool.false_eq_true, false_iff, not_and, not_forall, Nat.not_le]
    intro hidle
    obtain ⟨deadline, hdeadline, hlater⟩ := hcooling.mp (hbusy.resolve_left (by simp [hidle]))
    exact ⟨deadline, hdeadline, hlater⟩
  next hfree =>
    rw [not_or, hcooling, Bool.not_eq_true] at hfree
    simp only [true_iff]
    refine ⟨hfree.1, ?_⟩
    intro deadline hdeadline
    exact Nat.not_lt.mp fun hlater => hfree.2 ⟨deadline, hdeadline, hlater⟩

private theorem enter_active (c : PairCoordinator) (now : Instant) (id : Text) :
    (c.enter now id).2.active = (c.active || (c.enter now id).1) := by
  simp only [enter]
  split <;> simp

/-- Only cooldowns that are over are forgotten. -/
theorem enter_lookup (now : Instant) (id : Text) {c : PairCoordinator} {deadline : Instant}
    {j : Text}
    (hdeadline : c.cooldown.lookup j = some deadline) :
    (c.enter now id).2.cooldown.lookup j = some deadline ∨ deadline ≤ now := by
  have hcooldown : (c.enter now id).2.cooldown =
      filterValues (fun deadline => now < deadline) c.cooldown := by
    simp only [enter]
    split <;> rfl
  rw [hcooldown, lookup_filterValues, hdeadline, Option.filter_some]
  by_cases hover : deadline ≤ now
  · exact .inr hover
  · left
    rw [if_pos (decide_eq_true (Nat.not_le.mp hover))]

end PairCoordinator

/-- Where a worker stands: it has not entered, it is pairing, or it has released the flag but
not yet stored the cooldown. -/
inductive Worker where
  | idle
  | pairing (id : Text)
  | leaving (id : Text) (released : Instant)

structure Workers where
  coordinator : PairCoordinator
  worker : ℕ → Worker
  clock : Instant

/-- The sections under the locks, with the worker and the time. -/
inductive LockedSection where
  | enter (w : ℕ) (id : Text) (now : Instant)
  | release (w : ℕ) (retryLater : Bool) (now : Instant)
  | coolDown (w : ℕ) (now : Instant)

namespace Workers

def start : Workers := ⟨.new, fun _ => .idle, 0⟩

def enter (s : Workers) (w : ℕ) (id : Text) (now : Instant) : Workers where
  coordinator := (s.coordinator.enter now id).2
  worker := if (s.coordinator.enter now id).1 then Function.update s.worker w (.pairing id)
    else s.worker
  clock := now

def release (s : Workers) (w : ℕ) (id : Text) (retryLater : Bool) (now : Instant) : Workers where
  coordinator := s.coordinator.release
  worker := Function.update s.worker w (if retryLater then .leaving id now else .idle)
  clock := now

def coolDown (s : Workers) (w : ℕ) (id : Text) (now : Instant) : Workers where
  coordinator := s.coordinator.coolDown now id
  worker := Function.update s.worker w .idle
  clock := now

/-- A worker leaves once for each time it has entered. -/
inductive Step (s : Workers) : LockedSection → Workers → Prop where
  | enter {w id now} (hidle : s.worker w = .idle) (hnow : s.clock ≤ now) :
      Step s (.enter w id now) (s.enter w id now)
  | release {w id retryLater now} (hpairing : s.worker w = .pairing id) (hnow : s.clock ≤ now) :
      Step s (.release w retryLater now) (s.release w id retryLater now)
  | coolDown {w id released now} (hleaving : s.worker w = .leaving id released)
      (hnow : s.clock ≤ now) : Step s (.coolDown w now) (s.coolDown w id now)

end Workers

/-- The sections run so far, each with the state it was run in. -/
abbrev Schedule := List (Workers × LockedSection)

namespace Workers

inductive Run : Schedule → Workers → Prop where
  | start : Run [] start
  | step {schedule s l s'} (hrun : Run schedule s) (hstep : s.Step l s') :
      Run (schedule ++ [(s, l)]) s'

/-- The section is an `enter` that succeeds. -/
def Enters (m : Workers × LockedSection) (id : Text) (now : Instant) : Prop :=
  ∃ w, m.2 = .enter w id now ∧ (m.1.coordinator.enter now id).1 = true

/-- The section releases the flag for a `leave` that stores a cooldown. -/
def Releases (m : Workers × LockedSection) (id : Text) (now : Instant) : Prop :=
  ∃ w, m.2 = .release w true now ∧ m.1.worker w = .pairing id

/-- No two workers are pairing. -/
def Exclusive (s : Workers) : Prop :=
  ∀ w w' id id', s.worker w = .pairing id → s.worker w' = .pairing id' → w = w'

/-- At most one worker is pairing at any time, and nobody enters for a peer before the cooldown
of an earlier release is over. -/
structure SingleFlight (schedule : Schedule) (s : Workers) : Prop where
  exclusive : ∀ t ∈ s :: schedule.map Prod.fst, t.Exclusive
  cooldown : Throughout (fun before m => ∀ id now, Enters m id now →
    ∀ m' ∈ before, ∀ released, Releases m' id released → released + pairCooldown ≤ now) schedule

/-- The section is an `enter` on a free coordinator between the two sections of a `leave` for
the same peer, before the cooldown would be over. -/
def Overtakes (m : Workers × LockedSection) : Prop :=
  ∃ w id now w' released, m.2 = .enter w id now ∧ m.1.coordinator.Free now id ∧
    m.1.worker w' = .leaving id released ∧ now < released + pairCooldown

/-- The release of `id` at the given time is remembered by its worker, then by the cooldown,
until the cooldown is over. -/
def Cooling (s : Workers) (id : Text) (released : Instant) : Prop :=
  (∃ w, s.worker w = .leaving id released) ∨
    (∃ deadline, s.coordinator.cooldown.lookup id = some deadline ∧
      released + pairCooldown ≤ deadline) ∨ released + pairCooldown ≤ s.clock

/-- What the state remembers of the sections run. -/
structure Remembers (schedule : Schedule) (s : Workers) : Prop where
  exclusive : s.Exclusive
  held : ∀ w id, s.worker w = .pairing id → s.coordinator.active = true
  past : ∀ m ∈ schedule, ∀ id released, Releases m id released → released ≤ s.clock
  leaving : ∀ w id released, s.worker w = .leaving id released →
    ∃ m ∈ schedule, Releases m id released
  cooled : ∀ m ∈ schedule, ∀ id released, Releases m id released → s.Cooling id released

variable {schedule : Schedule} {s s' : Workers} {l : LockedSection}

private theorem enter_worker {w w' : ℕ} {id id' : Text} {now : Instant}
    (hpairing : (s.enter w id now).worker w' = .pairing id') :
    s.worker w' = .pairing id' ∨ w' = w ∧ (s.coordinator.enter now id).1 = true := by
  by_cases hentered : (s.coordinator.enter now id).1 = true
  · by_cases heq : w' = w
    · exact .inr ⟨heq, hentered⟩
    · left
      simpa only [enter, if_pos hentered, Function.update_of_ne heq] using hpairing
  · left
    simpa only [enter, if_neg hentered] using hpairing

private theorem enter_leaving {w w' : ℕ} {id id' : Text} {now released : Instant}
    (hidle : s.worker w = .idle) :
    (s.enter w id now).worker w' = .leaving id' released ↔ s.worker w' = .leaving id' released := by
  by_cases hentered : (s.coordinator.enter now id).1 = true
  · simp only [enter, if_pos hentered]
    by_cases heq : w' = w
    · simp [heq, hidle]
    · rw [Function.update_of_ne heq]
  · simp only [enter, if_neg hentered]

private theorem update_pairing {w w' : ℕ} {id' : Text} {worker : Worker}
    (hworker : ∀ id, worker ≠ .pairing id)
    (hpairing : Function.update s.worker w worker w' = .pairing id') :
    w' ≠ w ∧ s.worker w' = .pairing id' := by
  by_cases heq : w' = w
  · rw [heq, Function.update_self] at hpairing
    exact absurd hpairing (hworker id')
  · exact ⟨heq, Function.update_of_ne heq worker s.worker ▸ hpairing⟩

private theorem Step.clock (hstep : s.Step l s') : s.clock ≤ s'.clock := by
  cases hstep with
  | enter _ hnow => exact hnow
  | release _ hnow => exact hnow
  | coolDown _ hnow => exact hnow

private theorem Step.exclusive (hstep : s.Step l s') (hr : Remembers schedule s) :
    s'.Exclusive ∧ ∀ w id, s'.worker w = .pairing id → s'.coordinator.active = true := by
  cases hstep with
  | @enter w id now _ _ =>
      have hbusy : (s.coordinator.enter now id).1 = true → ∀ w id, s.worker w ≠ .pairing id := by
        intro hentered w' id' hpairing
        have hfree := ((s.coordinator.enter_eq_true now id).mp hentered).1
        rw [hr.held w' id' hpairing] at hfree
        cases hfree
      constructor
      · intro w₁ w₂ id₁ id₂ h₁ h₂
        rcases enter_worker h₁ with h₁ | ⟨heq₁, hentered⟩
        · rcases enter_worker h₂ with h₂ | ⟨_, hentered⟩
          · exact hr.exclusive w₁ w₂ id₁ id₂ h₁ h₂
          · exact absurd h₁ (hbusy hentered w₁ id₁)
        · rcases enter_worker h₂ with h₂ | ⟨heq₂, _⟩
          · exact absurd h₂ (hbusy hentered w₂ id₂)
          · rw [heq₁, heq₂]
      · intro w' id' hpairing
        have hactive : (s.enter w id now).coordinator.active = _ :=
          s.coordinator.enter_active now id
        rw [hactive]
        rcases enter_worker hpairing with hold | ⟨_, hentered⟩
        · rw [hr.held w' id' hold, Bool.true_or]
        · rw [hentered, Bool.or_true]
  | @release w id retryLater now hpairing _ =>
      have hworker : ∀ id', (if retryLater then Worker.leaving id now else .idle) ≠ .pairing id' := by
        intro id'
        split <;> exact Worker.noConfusion
      constructor
      · intro w₁ w₂ id₁ id₂ h₁ h₂
        exact hr.exclusive w₁ w₂ id₁ id₂ (update_pairing hworker h₁).2 (update_pairing hworker h₂).2
      · intro w' id' h
        obtain ⟨hne, hold⟩ := update_pairing hworker h
        exact absurd (hr.exclusive w' w id' id hold hpairing) hne
  | @coolDown w id released now _ _ =>
      have hworker : ∀ id', Worker.idle ≠ .pairing id' := fun _ => Worker.noConfusion
      constructor
      · intro w₁ w₂ id₁ id₂ h₁ h₂
        exact hr.exclusive w₁ w₂ id₁ id₂ (update_pairing hworker h₁).2 (update_pairing hworker h₂).2
      · intro w' id' h
        exact hr.held w' id' (update_pairing hworker h).2

private theorem Step.past (hstep : s.Step l s') (hr : Remembers schedule s) :
    ∀ m ∈ schedule ++ [(s, l)], ∀ id released, Releases m id released → released ≤ s'.clock := by
  intro m hm id released hreleases
  rcases List.mem_append.mp hm with hearlier | hlast
  · exact (hr.past m hearlier id released hreleases).trans hstep.clock
  · rw [List.mem_singleton.mp hlast] at hreleases
    obtain ⟨w, rfl, -⟩ := hreleases
    cases hstep
    exact le_refl _

private theorem Step.leaving (hstep : s.Step l s') (hr : Remembers schedule s) :
    ∀ w id released, s'.worker w = .leaving id released →
      ∃ m ∈ schedule ++ [(s, l)], Releases m id released := by
  intro w id released hleaving
  have hbefore : s.worker w = .leaving id released →
      ∃ m ∈ schedule ++ [(s, l)], Releases m id released := by
    intro hold
    obtain ⟨m, hm, hreleases⟩ := hr.leaving w id released hold
    exact ⟨m, List.mem_append_left _ hm, hreleases⟩
  cases hstep with
  | enter hidle _ => exact hbefore ((enter_leaving hidle).mp hleaving)
  | @release w' id' retryLater now hpairing _ =>
      by_cases heq : w = w'
      · subst heq
        simp only [Workers.release, Function.update_self] at hleaving
        cases retryLater with
        | false => cases hleaving
        | true =>
            cases hleaving
            exact ⟨_, List.mem_append_right _ (List.mem_singleton_self _), w, rfl, hpairing⟩
      · simp only [Workers.release, Function.update_of_ne heq] at hleaving
        exact hbefore hleaving
  | @coolDown w' id' released' now _ _ =>
      by_cases heq : w = w'
      · subst heq
        simp only [Workers.coolDown, Function.update_self] at hleaving
        cases hleaving
      · simp only [Workers.coolDown, Function.update_of_ne heq] at hleaving
        exact hbefore hleaving

private theorem Step.cooling {id : Text} {released : Instant} (hstep : s.Step l s')
    (hpast : released ≤ s.clock) (hcooling : s.Cooling id released) : s'.Cooling id released := by
  have hclock := hstep.clock
  cases hstep with
  | @enter w id' now hidle _ =>
      rcases hcooling with ⟨w', hleaving⟩ | ⟨deadline, hdeadline, hle⟩ | hover
      · exact .inl ⟨w', (enter_leaving hidle).mpr hleaving⟩
      · rcases PairCoordinator.enter_lookup now id' hdeadline with hkept | hend
        · exact .inr (.inl ⟨deadline, hkept, hle⟩)
        · exact .inr (.inr (hle.trans hend))
      · exact .inr (.inr (hover.trans hclock))
  | @release w' id' retryLater now hpairing _ =>
      rcases hcooling with ⟨w, hleaving⟩ | hstored | hover
      · have hne : w ≠ w' := by
          intro heq
          rw [heq, hpairing] at hleaving
          cases hleaving
        left
        refine ⟨w, ?_⟩
        simp only [Workers.release, Function.update_of_ne hne]
        exact hleaving
      · exact .inr (.inl hstored)
      · exact .inr (.inr (hover.trans hclock))
  | @coolDown w' id' released' now hleaving' _ =>
      by_cases heq : id = id'
      · -- the new cooldown ends later than any earlier release asks for
        subst heq
        exact .inr (.inl ⟨_, AList.lookup_insert _, Nat.add_le_add_right (hpast.trans hclock) _⟩)
      · rcases hcooling with ⟨w, hleaving⟩ | ⟨deadline, hdeadline, hle⟩ | hover
        · have hne : w ≠ w' := by
            intro hsame
            rw [hsame, hleaving'] at hleaving
            cases hleaving
            exact heq rfl
          left
          refine ⟨w, ?_⟩
          simp only [Workers.coolDown, Function.update_of_ne hne]
          exact hleaving
        · right
          left
          refine ⟨deadline, ?_, hle⟩
          simp only [Workers.coolDown, PairCoordinator.coolDown]
          rw [AList.lookup_insert_ne heq]
          exact hdeadline
        · exact .inr (.inr (hover.trans hclock))

private theorem Step.cooled (hstep : s.Step l s') (hr : Remembers schedule s) :
    ∀ m ∈ schedule ++ [(s, l)], ∀ id released, Releases m id released → s'.Cooling id released := by
  intro m hm id released hreleases
  rcases List.mem_append.mp hm with hearlier | hlast
  · exact hstep.cooling (hr.past m hearlier id released hreleases)
      (hr.cooled m hearlier id released hreleases)
  · rw [List.mem_singleton.mp hlast] at hreleases
    obtain ⟨w, rfl, hpairing⟩ := hreleases
    cases hstep with
    | release hpairing' _ =>
        rw [hpairing] at hpairing'
        cases hpairing'
        left
        refine ⟨w, ?_⟩
        simp only [Workers.release, Function.update_self, if_true]

private theorem Step.remembers (hstep : s.Step l s') (hr : Remembers schedule s) :
    Remembers (schedule ++ [(s, l)]) s' :=
  ⟨(hstep.exclusive hr).1, (hstep.exclusive hr).2, hstep.past hr, hstep.leaving hr, hstep.cooled hr⟩

theorem Run.remembers (hrun : Run schedule s) : Remembers schedule s := by
  induction hrun with
  | start =>
      constructor
      · intro w w' id id' h
        cases h
      · intro w id h
        cases h
      · intro m hm
        cases hm
      · intro w id released h
        cases h
      · intro m hm
        cases hm
  | step _ hstep ih => exact hstep.remembers ih

private theorem Remembers.cooldown_iff (hr : Remembers schedule s) (hstep : s.Step l s') :
    (∀ id now, Enters (s, l) id now → ∀ m ∈ schedule, ∀ released, Releases m id released →
      released + pairCooldown ≤ now) ↔ ¬Overtakes (s, l) := by
  constructor
  · intro hsafe hovertakes
    obtain ⟨w, id, now, w', released, hl, hfree, hleaving, hearly⟩ := hovertakes
    obtain ⟨m, hm, hreleases⟩ := hr.leaving w' id released hleaving
    have hentered := (PairCoordinator.enter_eq_true s.coordinator now id).mpr hfree
    have hlate := hsafe id now ⟨w, hl, hentered⟩ m hm released hreleases
    exact absurd hearly (Nat.not_lt.mpr hlate)
  · intro hclean id now henters m hm released hreleases
    obtain ⟨w, rfl, hentered⟩ := henters
    have hfree := (PairCoordinator.enter_eq_true s.coordinator now id).mp hentered
    rcases hr.cooled m hm id released hreleases with ⟨w', hleaving⟩ | ⟨deadline, hd, hle⟩ | hover
    · exact Nat.not_lt.mp fun hearly =>
        hclean ⟨w, id, now, w', released, rfl, hfree, hleaving, hearly⟩
    · exact hle.trans (hfree.2 deadline hd)
    · cases hstep with
      | enter _ hnow => exact hover.trans hnow

/-- In every run at most one worker is pairing, and the cooldown is kept exactly if no `enter`
overtakes a `leave` for the same peer. -/
theorem singleFlight_iff_not_overtakes {schedule : Schedule} {s : Workers} (hrun : Run schedule s) :
    SingleFlight schedule s ↔ ∀ m ∈ schedule, ¬Overtakes m := by
  have hexclusive : ∀ t ∈ s :: schedule.map Prod.fst, t.Exclusive := by
    induction hrun with
    | start =>
        intro t ht
        rw [List.mem_singleton.mp ht]
        exact Run.start.remembers.exclusive
    | @step schedule s l s' hrun hstep ih =>
        intro t ht
        rw [List.map_append, List.mem_cons, List.mem_append] at ht
        rcases ht with rfl | ht | ht
        · exact (hrun.step hstep).remembers.exclusive
        · exact ih t (List.mem_cons_of_mem _ ht)
        · rw [List.mem_singleton.mp ht]
          exact hrun.remembers.exclusive
  have hcooldown : Throughout (fun before m => ∀ id now, Enters m id now → ∀ m' ∈ before,
      ∀ released, Releases m' id released → released + pairCooldown ≤ now) schedule ↔
        ∀ m ∈ schedule, ¬Overtakes m := by
    clear hexclusive
    induction hrun with
    | start => simp
    | step hrun hstep ih =>
        rw [throughout_append, ih]
        simp only [ThroughoutFrom, and_true, hrun.remembers.cooldown_iff hstep, List.forall_mem_append,
          List.forall_mem_singleton]
  exact ⟨fun h => hcooldown.mp h.cooldown, fun h => ⟨hexclusive, hcooldown.mpr h⟩⟩

end Workers

namespace Loopback

open Workers

def peerId : Text := ⟨[97], by decide⟩

/-- A worker pairs and is to be retried later. -/
def released : Workers := (start.enter 0 peerId 1).release 0 peerId true 2

private theorem released_run :
    Run [(start, .enter 0 peerId 1), (start.enter 0 peerId 1, .release 0 true 2)] released :=
  (Run.start.step (.enter rfl (by decide))).step (.release rfl (by decide))

/-- Another worker enters for the same peer once the cooldown is stored and over. -/
theorem singleFlight_iff_not_overtakes_retried :
    SingleFlight
        [(start, .enter 0 peerId 1), (start.enter 0 peerId 1, .release 0 true 2),
          (released, .coolDown 0 3), (released.coolDown 0 peerId 3, .enter 1 peerId (3 + pairCooldown))]
        ((released.coolDown 0 peerId 3).enter 1 peerId (3 + pairCooldown)) ↔
      ∀ m ∈ [(start, .enter 0 peerId 1), (start.enter 0 peerId 1, .release 0 true 2),
          (released, .coolDown 0 3),
          (released.coolDown 0 peerId 3, .enter 1 peerId (3 + pairCooldown))], ¬Overtakes m :=
  singleFlight_iff_not_overtakes ((released_run.step (.coolDown rfl (by decide))).step
    (.enter rfl (by decide)))

/-- A worker enters between the two sections of a `leave` for the same peer. -/
theorem not_singleFlight_overtaking :
    ¬∀ (schedule : Schedule) (s : Workers), Run schedule s → SingleFlight schedule s := by
  intro hall
  have hrun : Run [(start, .enter 0 peerId 1), (start.enter 0 peerId 1, .release 0 true 2),
      (released, .enter 1 peerId 2)] (released.enter 1 peerId 2) :=
    released_run.step (.enter rfl (by decide))
  have hlate : 2 + pairCooldown ≤ 2 :=
    (hall _ _ hrun).cooldown
      [(start, .enter 0 peerId 1), (start.enter 0 peerId 1, .release 0 true 2)]
      (released, .enter 1 peerId 2) [] rfl peerId 2 ⟨1, rfl, rfl⟩
      (start.enter 0 peerId 1, .release 0 true 2) (by simp) 2 ⟨0, rfl, rfl⟩
  exact absurd hlate (by decide)

end Loopback

end OmarchySync
