import OmarchySync.Logic.Result

/-!
# Computations with observable intermediate states

A traced computation reports, besides its result, every labelled state it passed through,
so that an interruption can stop it at any of them. `Keeps R m Q` says that each step of
`m` is allowed by `R` and that its result and last state satisfy `Q`; the rules follow the
way computations are put together.
-/

namespace OmarchySync.Logic

variable {ℓ σ α β : Type}

/-- A result and the labelled states passed through, oldest first. -/
structure Outcome (ℓ σ α : Type) where
  result : Result α
  visited : List (ℓ × σ)

/-- State-passing computations whose intermediate states are observable. -/
def Traced (ℓ σ α : Type) := σ → Outcome ℓ σ α

/-- The state in which a trace from `s` ends. -/
def endState (s : σ) : List (ℓ × σ) → σ
  | [] => s
  | (_, t) :: rest => endState t rest

@[simp]
theorem endState_append (s : σ) (v w : List (ℓ × σ)) :
    endState s (v ++ w) = endState (endState s v) w := by
  induction v generalizing s with
  | nil => rfl
  | cons p v ih => exact ih p.2

/-- Each state of the trace follows from its predecessor by a step of `R`. -/
def Path (R : ℓ → σ → σ → Prop) (s : σ) : List (ℓ × σ) → Prop
  | [] => True
  | (l, t) :: rest => R l s t ∧ Path R t rest

@[simp]
theorem path_append (R : ℓ → σ → σ → Prop) (s : σ) (v w : List (ℓ × σ)) :
    Path R s (v ++ w) ↔ Path R s v ∧ Path R (endState s v) w := by
  induction v generalizing s with
  | nil => simp [Path, endState]
  | cons p v ih =>
      simp only [List.cons_append, Path, ih, endState, and_assoc]

theorem Path.mono {R R' : ℓ → σ → σ → Prop} (hR : ∀ l s t, R l s t → R' l s t) {s : σ}
    {v : List (ℓ × σ)} (h : Path R s v) : Path R' s v := by
  induction v generalizing s with
  | nil => trivial
  | cons p v ih => exact ⟨hR _ _ _ h.1, ih h.2⟩

theorem Path.and {R R' : ℓ → σ → σ → Prop} {s : σ} {v : List (ℓ × σ)} (h : Path R s v)
    (h' : Path R' s v) : Path (fun l a b => R l a b ∧ R' l a b) s v := by
  induction v generalizing s with
  | nil => trivial
  | cons p v ih => exact ⟨⟨h.1, h'.1⟩, ih h.2 h'.2⟩

theorem Path.of_mem {R : ℓ → σ → σ → Prop} {s t : σ} {l : ℓ} {v : List (ℓ × σ)}
    (h : Path R s v) (hmem : (l, t) ∈ v) : ∃ u, R l u t := by
  induction v generalizing s with
  | nil => cases hmem
  | cons p v ih =>
      rcases List.mem_cons.mp hmem with heq | hmem
      · cases heq
        exact ⟨s, h.1⟩
      · exact ih h.2 hmem

/-- What every step preserves holds in every visited state. -/
theorem Path.invariant {R : ℓ → σ → σ → Prop} {I : σ → Prop}
    (step : ∀ l s t, R l s t → I s → I t) {s : σ} {v : List (ℓ × σ)} (h : Path R s v) (hs : I s) :
    I (endState s v) ∧ ∀ l t, (l, t) ∈ v → I t := by
  induction v generalizing s with
  | nil => exact ⟨hs, by simp⟩
  | cons p v ih =>
      obtain ⟨l, t⟩ := p
      have ht : I t := step l s t h.1 hs
      refine ⟨(ih h.2 ht).1, ?_⟩
      intro l' t' hmem
      rcases List.mem_cons.mp hmem with heq | hmem
      · cases heq
        exact ht
      · exact (ih h.2 ht).2 l' t' hmem

/-- Steps that are stronger where an invariant holds, and keep it. -/
theorem Path.strengthen {R R' : ℓ → σ → σ → Prop} {I : σ → Prop}
    (step : ∀ l s t, R l s t → I s → R' l s t ∧ I t) {s : σ} {v : List (ℓ × σ)} (h : Path R s v)
    (hs : I s) : Path R' s v := by
  induction v generalizing s with
  | nil => trivial
  | cons p v ih =>
      obtain ⟨hstep, ht⟩ := step _ _ _ h.1 hs
      exact ⟨hstep, ih h.2 ht⟩

namespace Traced

instance : Monad (Traced ℓ σ) where
  pure a := fun _ => ⟨.ok a, []⟩
  bind m f := fun s =>
    match (m s).result with
    | .error e => ⟨.error e, (m s).visited⟩
    | .ok a =>
        let rest := f a (endState s (m s).visited)
        ⟨rest.result, (m s).visited ++ rest.visited⟩

/-- Look at the current state. -/
def read : Traced ℓ σ σ := fun s => ⟨.ok s, []⟩

/-- A computation that does not touch the state. -/
def ofResult (r : Result α) : Traced ℓ σ α := fun _ => ⟨r, []⟩

instance : MonadLift Result (Traced ℓ σ) := ⟨ofResult⟩

/-- One atomic step under its label. -/
def step (l : ℓ) (f : σ → σ) : Traced ℓ σ Unit := fun s => ⟨.ok (), [(l, f s)]⟩

theorem read_bind (f : σ → Traced ℓ σ β) (s : σ) : (read >>= f) s = f s s :=
  rfl

theorem lift_bind_congr {r : Result α} {f g : α → Traced ℓ σ β} {s : σ}
    (h : ∀ a, r = .ok a → f a s = g a s) :
    ((liftM r : Traced ℓ σ α) >>= f) s = ((liftM r : Traced ℓ σ α) >>= g) s := by
  cases r with
  | error e => rfl
  | ok a => exact h a rfl

/-- Run `cleanup` after a failure of `m`, ignoring how it ends. -/
def onFailure (m : Traced ℓ σ α) (cleanup : Traced ℓ σ Unit) : Traced ℓ σ α := fun s =>
  match (m s).result with
  | .ok _ => m s
  | .error e => ⟨.error e, (m s).visited ++ (cleanup (endState s (m s).visited)).visited⟩

/-- The same computation under other labels. -/
def relabel {ℓ' : Type} (f : ℓ → ℓ') (m : Traced ℓ σ α) : Traced ℓ' σ α := fun s =>
  ⟨(m s).result, (m s).visited.map (Prod.map f id)⟩

/-- Run `f` on each element in turn. -/
def forEach (f : α → Traced ℓ σ Unit) : List α → Traced ℓ σ Unit
  | [] => pure ()
  | a :: as => do
      f a
      forEach f as

/-- From `s` every step of `m` obeys `R`, and `Q` holds of its result and last state. -/
def Keeps (R : ℓ → σ → σ → Prop) (m : Traced ℓ σ α) (Q : Result α → σ → Prop) (s : σ) : Prop :=
  Path R s (m s).visited ∧ Q (m s).result (endState s (m s).visited)

variable {R R' : ℓ → σ → σ → Prop} {Q Q' : Result α → σ → Prop} {s : σ}

theorem Keeps.mono {m : Traced ℓ σ α} (h : Keeps R m Q s) (hR : ∀ l s t, R l s t → R' l s t)
    (hQ : ∀ r t, Q r t → Q' r t) : Keeps R' m Q' s :=
  ⟨h.1.mono hR, hQ _ _ h.2⟩

theorem Keeps.post {m : Traced ℓ σ α} (h : Keeps R m Q s) (hQ : ∀ r t, Q r t → Q' r t) :
    Keeps R m Q' s :=
  h.mono (fun _ _ _ => id) hQ

theorem Keeps.result {m : Traced ℓ σ α} (h : Keeps R m Q s) :
    Keeps R m (fun r t => Q r t ∧ (m s).result = r) s :=
  ⟨h.1, h.2, rfl⟩

@[simp]
theorem keeps_pure (a : α) : Keeps R (pure a) Q s ↔ Q (.ok a) s := by
  simp [Keeps, pure, Path, endState]

@[simp]
theorem keeps_read {Q : Result σ → σ → Prop} : Keeps R (read : Traced ℓ σ σ) Q s ↔ Q (.ok s) s := by
  simp [Keeps, read, Path, endState]

@[simp]
theorem keeps_ofResult (r : Result α) : Keeps R (ofResult r) Q s ↔ Q r s := by
  simp [Keeps, ofResult, Path, endState]

@[simp]
theorem keeps_lift (r : Result α) :
    Keeps R (liftM r : Traced ℓ σ α) Q s ↔ Q r s :=
  keeps_ofResult r

@[simp]
theorem keeps_step (l : ℓ) (f : σ → σ) {Q : Result Unit → σ → Prop} :
    Keeps R (step l f) Q s ↔ R l s (f s) ∧ Q (.ok ()) (f s) := by
  simp [Keeps, step, Path, endState]

/-- The continuation starts where the first part ended. -/
theorem keeps_bind (m : Traced ℓ σ α) (f : α → Traced ℓ σ β) {Q : Result β → σ → Prop} :
    Keeps R (m >>= f) Q s ↔
      Keeps R m (fun r t => match r with
        | .ok a => Keeps R (f a) Q t
        | .error e => Q (.error e) t) s := by
  simp only [Keeps, bind]
  cases (m s).result <;> simp [and_assoc]

/-- A failing computation that does not touch the state ends the sequence. -/
theorem keeps_lift_bind (r : Result α) (f : α → Traced ℓ σ β) {Q : Result β → σ → Prop} :
    Keeps R ((liftM r : Traced ℓ σ α) >>= f) Q s ↔
      (∀ a, r = .ok a → Keeps R (f a) Q s) ∧ ∀ e, r = .error e → Q (.error e) s := by
  rw [keeps_bind, keeps_lift]
  cases r <;> simp

theorem keeps_ok_bind {r : Result α} {a : α} (hr : r = .ok a) {f : α → Traced ℓ σ β}
    {Q : Result β → σ → Prop} :
    Keeps R ((liftM r : Traced ℓ σ α) >>= f) Q s ↔ Keeps R (f a) Q s := by
  rw [keeps_lift_bind, hr]
  simp

theorem keeps_error_bind {r : Result α} {e : String} (hr : r = .error e) {f : α → Traced ℓ σ β}
    {Q : Result β → σ → Prop} :
    Keeps R ((liftM r : Traced ℓ σ α) >>= f) Q s ↔ Q (.error e) s := by
  rw [keeps_lift_bind, hr]
  simp

theorem keeps_bind_of_ok {m : Traced ℓ σ α} {a : α} {f : α → Traced ℓ σ β}
    {Q : Result β → σ → Prop}
    (hm : Keeps R m (fun r t => r = .ok a ∧ Keeps R (f a) Q t) s) : Keeps R (m >>= f) Q s := by
  rw [keeps_bind]
  apply hm.post
  rintro r t ⟨rfl, hf⟩
  exact hf

theorem keeps_read_bind (f : σ → Traced ℓ σ β) {Q : Result β → σ → Prop} :
    Keeps R ((read : Traced ℓ σ σ) >>= f) Q s ↔ Keeps R (f s) Q s := by
  rw [keeps_bind, keeps_read]

theorem keeps_step_bind (l : ℓ) (g : σ → σ) (f : Unit → Traced ℓ σ β) {Q : Result β → σ → Prop} :
    Keeps R (step l g >>= f) Q s ↔ R l s (g s) ∧ Keeps R (f ()) Q (g s) := by
  rw [keeps_bind, keeps_step]

theorem keeps_ite (p : Prop) [Decidable p] (m m' : Traced ℓ σ α) :
    Keeps R (if p then m else m') Q s ↔ (p → Keeps R m Q s) ∧ (¬p → Keeps R m' Q s) := by
  by_cases hp : p <;> simp [hp]

/-- The failure path also passes through the states of the cleanup. -/
theorem keeps_onFailure (m : Traced ℓ σ α) (cleanup : Traced ℓ σ Unit) :
    Keeps R (onFailure m cleanup) Q s ↔
      Keeps R m (fun r t => match r with
        | .ok a => Q (.ok a) t
        | .error e => Keeps R cleanup (fun _ u => Q (.error e) u) t) s := by
  simp only [Keeps, onFailure]
  cases hr : (m s).result <;> simp [hr, and_assoc]

theorem endState_relabel {ℓ' : Type} (f : ℓ → ℓ') (s : σ) (v : List (ℓ × σ)) :
    endState s (v.map (Prod.map f id)) = endState s v := by
  induction v generalizing s with
  | nil => rfl
  | cons p v ih => exact ih p.2

@[simp]
theorem keeps_relabel {ℓ' : Type} {R' : ℓ' → σ → σ → Prop} (f : ℓ → ℓ') (m : Traced ℓ σ α) :
    Keeps R' (relabel f m) Q s ↔ Keeps (fun l => R' (f l)) m Q s := by
  have hpath : ∀ (s : σ) (v : List (ℓ × σ)),
      Path R' s (v.map (Prod.map f id)) ↔ Path (fun l => R' (f l)) s v := by
    intro s v
    induction v generalizing s with
    | nil => rfl
    | cons p v ih => exact and_congr_right' (ih p.2)
  simp only [Keeps, relabel, hpath, endState_relabel]

/-- Loop rule: what each round preserves, whether it succeeds or fails, the loop preserves. -/
theorem keeps_forEach {f : α → Traced ℓ σ Unit} {I : σ → Prop} (as : List α)
    (round : ∀ a ∈ as, ∀ s, I s → Keeps R (f a) (fun _ t => I t) s) (hs : I s) :
    Keeps R (forEach f as) (fun _ t => I t) s := by
  induction as generalizing s with
  | nil => simpa [forEach] using hs
  | cons a as ih =>
      simp only [forEach, keeps_bind]
      refine (round a (by simp) s hs).post ?_
      intro r t ht
      cases r with
      | error e => exact ht
      | ok u => exact ih (fun b hb => round b (by simp [hb])) ht

theorem keeps_forEach_result {f : α → Traced ℓ σ Unit} {I : σ → Prop} {E : Result Unit → Prop}
    (as : List α) (hdone : E (.ok ()))
    (round : ∀ a ∈ as, ∀ s, I s → Keeps R (f a) (fun r t => I t ∧ E r) s) (hs : I s) :
    Keeps R (forEach f as) (fun r t => I t ∧ E r) s := by
  induction as generalizing s with
  | nil => exact (keeps_pure ()).mpr ⟨hs, hdone⟩
  | cons a as ih =>
      rw [forEach, keeps_bind]
      refine (round a (by simp) s hs).post ?_
      intro r t ht
      cases r with
      | error e => exact ht
      | ok u => exact ih (fun b hb => round b (by simp [hb])) ht.1

/-- Loop rule with an assertion for each rest of the list, for loops that do not fail. -/
theorem keeps_forEach_rest {f : α → Traced ℓ σ Unit} {I : List α → σ → Prop} (as : List α)
    (round : ∀ a rest s, (a :: rest) <:+ as → I (a :: rest) s →
      Keeps R (f a) (fun r t => r = .ok () ∧ I rest t) s) (hs : I as s) :
    Keeps R (forEach f as) (fun r t => r = .ok () ∧ I [] t) s := by
  induction as generalizing s with
  | nil => exact (keeps_pure _).mpr ⟨rfl, hs⟩
  | cons a as ih =>
      simp only [forEach, keeps_bind]
      refine (round a as s (List.suffix_refl _) hs).post ?_
      intro r t ht
      obtain ⟨rfl, hI⟩ := ht
      exact ih (fun b rest u hsuffix => round b rest u (hsuffix.trans (List.suffix_cons a as))) hI

/-- The same for loops that may fail: the assertion reaches the end if the loop does. -/
theorem keeps_forEach_upTo {f : α → Traced ℓ σ Unit} {I : List α → σ → Prop} (as : List α)
    (round : ∀ a rest s, (a :: rest) <:+ as → I (a :: rest) s →
      Keeps R (f a) (fun r t => r = .ok () → I rest t) s) (hs : I as s) :
    Keeps R (forEach f as) (fun r t => r = .ok () → I [] t) s := by
  induction as generalizing s with
  | nil => exact (keeps_pure _).mpr fun _ => hs
  | cons a as ih =>
      simp only [forEach, keeps_bind]
      refine (round a as s (List.suffix_refl _) hs).post ?_
      intro r t ht
      cases r with
      | error e => exact fun h => nomatch h
      | ok u =>
          exact ih (fun b rest u hsuffix => round b rest u (hsuffix.trans (List.suffix_cons a as)))
            (ht rfl)

end Traced

end OmarchySync.Logic
