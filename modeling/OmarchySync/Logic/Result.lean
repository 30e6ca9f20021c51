import Mathlib.Logic.Basic

/-!
# Computations that fail with an error text

A failed check ends the whole computation, so a successful chain of checks is the
conjunction of its guards. The lemmas below turn one into the other.
-/

namespace OmarchySync.Logic

/-- Computations that fail with the text of their outermost error. -/
abbrev Result := Except String

variable {α β : Type}

/-- Fail with `message` when the guard holds. -/
def bailIf (guard : Prop) [Decidable guard] (message : String) : Result Unit :=
  if guard then .error message else .ok ()

/-- Replace the text of an error by that of the enclosing step. -/
def context (message : String) : Result α → Result α
  | .ok a => .ok a
  | .error _ => .error message

/-- Put `label` in front of the text of an error. -/
def labelled (label : String) : Result α → Result α
  | .ok a => .ok a
  | .error e => .error (label ++ e)

/-- Fail with `message` when there is no value. -/
def someOr (message : String) : Option α → Result α
  | some a => .ok a
  | none => .error message

@[simp]
theorem bailIf_eq_ok (guard : Prop) [Decidable guard] (message : String) (u : Unit) :
    bailIf guard message = .ok u ↔ ¬guard := by
  unfold bailIf
  split <;> simp [*]

@[simp]
theorem bailIf_false {inst : Decidable False} (message : String) :
    @bailIf False inst message = .ok () := by
  simp [bailIf]

@[simp]
theorem context_eq_ok (message : String) (r : Result α) (a : α) :
    context message r = .ok a ↔ r = .ok a := by
  cases r <;> simp [context]

@[simp]
theorem labelled_eq_ok (label : String) (r : Result α) (a : α) :
    labelled label r = .ok a ↔ r = .ok a := by
  cases r <;> simp [labelled]

@[simp]
theorem someOr_eq_ok (message : String) (o : Option α) (a : α) :
    someOr message o = .ok a ↔ o = some a := by
  cases o <;> simp [someOr]

@[simp]
theorem bind_eq_ok (r : Result α) (f : α → Result β) (b : β) :
    (r >>= f) = .ok b ↔ ∃ a, r = .ok a ∧ f a = .ok b := by
  cases r <;> simp [bind, Except.bind]

@[simp]
theorem pure_eq_ok (a b : α) : (pure a : Result α) = .ok b ↔ a = b := by
  simp [pure, Except.pure]

theorem not_ok_of_error {α : Type} {r : Result α} {e : String} {a : α} (he : r = .error e)
    (hok : r = .ok a) : False := by
  rw [he] at hok
  cases hok

theorem pure_result (a : α) : (pure a : Result α) = .ok a :=
  rfl

@[simp]
theorem error_bind (message : String) (f : α → Result β) :
    ((Except.error message : Result α) >>= f) = .error message :=
  rfl

@[simp]
theorem ok_bind (a : α) (f : α → Result β) : ((Except.ok a : Result α) >>= f) = f a :=
  rfl

section Avoids

variable {message text : String}

/-- The computation does not fail with `message`. -/
def Avoids (message : String) (r : Result α) : Prop := r ≠ .error message

theorem avoids_ok (a : α) : Avoids message (.ok a : Result α) := by
  intro h
  cases h

theorem Avoids.of_ok {r : Result α} {a : α} (h : r = .ok a) : Avoids message r :=
  h ▸ avoids_ok a

theorem Avoids.bind {r : Result α} {f : α → Result β} (hr : Avoids message r)
    (hf : ∀ a, r = .ok a → Avoids message (f a)) : Avoids message (r >>= f) := by
  cases r with
  | error e => exact fun h => hr (by rw [Except.error.inj h])
  | ok a => exact hf a rfl

theorem avoids_bailIf (guard : Prop) [Decidable guard] (h : text ≠ message) :
    Avoids message (bailIf guard text) := by
  unfold bailIf
  split
  · exact fun heq => h (Except.error.inj heq)
  · exact avoids_ok ()

theorem avoids_someOr (o : Option α) (h : text ≠ message) : Avoids message (someOr text o) := by
  cases o with
  | none => exact fun heq => h (Except.error.inj heq)
  | some a => exact avoids_ok a

end Avoids

/-- The first hit of a loop whose rounds may fail. -/
def search (visit : α → Result (Option β)) : List α → Result (Option β)
  | [] => .ok none
  | a :: as => do
      match ← visit a with
      | some b => return some b
      | none => search visit as

/-- A search whose rounds succeed ends with one of their hits, or without any. -/
theorem search_ok {visit : α → Result (Option β)} {as : List α}
    (hvisit : ∀ a ∈ as, ∃ found, visit a = .ok found) :
    (∃ a ∈ as, ∃ b, visit a = .ok (some b) ∧ search visit as = .ok (some b)) ∨
      (∀ a ∈ as, visit a = .ok none) ∧ search visit as = .ok none := by
  induction as with
  | nil => exact .inr ⟨by simp, rfl⟩
  | cons a as ih =>
      obtain ⟨found, hfound⟩ := hvisit a (by simp)
      cases found with
      | some b => exact .inl ⟨a, by simp, b, hfound, by simp [search, hfound, pure, Except.pure]⟩
      | none =>
          have hrest : search visit (a :: as) = search visit as := by
            simp [search, hfound]
          rw [hrest]
          rcases ih fun c hc => hvisit c (by simp [hc]) with ⟨c, hc, hit⟩ | ⟨hnone, hend⟩
          · exact .inl ⟨c, by simp [hc], hit⟩
          · refine .inr ⟨?_, hend⟩
            intro c hc
            rcases List.mem_cons.mp hc with rfl | hc
            · exact hfound
            · exact hnone c hc

theorem search_hit {visit : α → Result (Option β)} {as : List α} {b : β}
    (h : search visit as = .ok (some b)) : ∃ a ∈ as, visit a = .ok (some b) := by
  induction as with
  | nil => cases h
  | cons a as ih =>
      obtain ⟨found, hfound, hrest⟩ := (bind_eq_ok _ _ _).mp h
      cases found with
      | some b' =>
          cases hrest
          exact ⟨a, by simp, hfound⟩
      | none =>
          obtain ⟨c, hc, hit⟩ := ih hrest
          exact ⟨c, by simp [hc], hit⟩

/-- `s` fails exactly as `r` does, and otherwise their values are related. -/
def Matches (R : α → β → Prop) : Result α → Result β → Prop
  | .ok a, .ok b => R a b
  | .error e, .error e' => e = e'
  | _, _ => False

/-- A check both make leaves what follows it to be compared. -/
theorem Matches.bind {γ : Type} {R : α → β → Prop} {r : Result γ} {f : γ → Result α}
    {g : γ → Result β} (h : ∀ c, r = .ok c → Matches R (f c) (g c)) :
    Matches R (r >>= f) (r >>= g) := by
  cases r with
  | error e => rfl
  | ok c => exact h c rfl

theorem Matches.exists_of_ok {R : α → β → Prop} {r : Result α} {s : Result β} {a : α}
    (h : Matches R r s) (hr : r = .ok a) : ∃ b, s = .ok b ∧ R a b := by
  subst hr
  cases s with
  | error e => cases h
  | ok b => exact ⟨b, rfl, h⟩

theorem Matches.exists_of_ok' {R : α → β → Prop} {r : Result α} {s : Result β} {b : β}
    (h : Matches R r s) (hs : s = .ok b) : ∃ a, r = .ok a ∧ R a b := by
  subst hs
  cases r with
  | error e => cases h
  | ok a => exact ⟨a, rfl, h⟩

/-- A search without a hit has missed in every round. -/
theorem search_miss {visit : α → Result (Option β)} {as : List α}
    (h : search visit as = .ok none) : ∀ a ∈ as, visit a = .ok none := by
  induction as with
  | nil => simp
  | cons a as ih =>
      obtain ⟨found, hfound, hrest⟩ := (bind_eq_ok _ _ _).mp h
      cases found with
      | some b => cases hrest
      | none =>
          intro c hc
          rcases List.mem_cons.mp hc with rfl | hc
          · exact hfound
          · exact ih hrest c hc

theorem isOk_iff (r : Result α) : r.isOk = true ↔ ∃ a, r = .ok a := by
  cases r <;> simp [Except.isOk, Except.toBool]

end OmarchySync.Logic
