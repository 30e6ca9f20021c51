import Mathlib.Data.List.Perm.Basic
import OmarchySync.Logic.Result

/-!
# The order of a search

A search that stops at its first hit or failure depends on the order of its rounds, unless
all the rounds that stop it stop it alike.
-/

namespace OmarchySync.Logic

variable {α β γ : Type}

/-- What a round does with a hit of an inner round. -/
def onHit (f : β → Result γ) : Option β → Result (Option γ)
  | none => .ok none
  | some b => do return some (← f b)

/-- The elements that end a search all end it alike. -/
structure Decisive (rejects : α → String → Prop) (hits : α → β → Prop) : Prop where
  alone : ∀ {a b e c}, rejects a e → ¬hits b c
  rejection : ∀ {a b e e'}, rejects a e → rejects b e' → e = e'
  hit : ∀ {a b c c'}, hits a c → hits b c' → c = c'

theorem search_onHit (visit : α → Result (Option β)) (f : β → Result γ) (as : List α) :
    search (fun a => visit a >>= onHit f) as = search visit as >>= onHit f := by
  induction as with
  | nil => rfl
  | cons a as ih =>
      rw [search, search, ih]
      cases hround : visit a with
      | error e => rfl
      | ok found =>
          cases found with
          | none => rfl
          | some b =>
              simp only [ok_bind, onHit, pure_result]
              cases f b <;> rfl

theorem bind_onHit_eq_error {r : Result (Option β)} {f : β → Result γ} {e : String} :
    r >>= onHit f = .error e ↔ r = .error e ∨ ∃ b, r = .ok (some b) ∧ f b = .error e := by
  cases r with
  | error e' => simp
  | ok found =>
      cases found with
      | none => simp [onHit]
      | some b =>
          simp only [ok_bind, onHit]
          cases hf : f b <;> simp [hf, pure_result]

theorem bind_onHit_eq_hit {r : Result (Option β)} {f : β → Result γ} {c : γ} :
    r >>= onHit f = .ok (some c) ↔ ∃ b, r = .ok (some b) ∧ f b = .ok c := by
  cases r with
  | error e => simp
  | ok found =>
      cases found with
      | none => simp [onHit]
      | some b =>
          simp only [ok_bind, onHit]
          cases hf : f b <;> simp [hf, pure_result]

theorem search_first {visit : α → Result (Option β)} {a : α} (hne : visit a ≠ .ok none)
    (as : List α) : search visit (a :: as) = visit a := by
  rw [search]
  cases hvisit : visit a with
  | error e => rfl
  | ok found =>
      cases found with
      | none => exact absurd hvisit hne
      | some b => rfl

theorem search_append {visit : α → Result (Option β)} {as : List α}
    (hmiss : ∀ a ∈ as, visit a = .ok none) (bs : List α) :
    search visit (as ++ bs) = search visit bs := by
  induction as with
  | nil => rfl
  | cons a as ih =>
      rw [List.cons_append, search, hmiss a (List.mem_cons_self ..)]
      exact ih fun b hb => hmiss b (List.mem_cons_of_mem _ hb)

/-- A search ends as one of the rounds that end it, if there is any. -/
theorem search_ends (visit : α → Result (Option β)) (as : List α) :
    (∃ a ∈ as, visit a ≠ .ok none ∧ search visit as = visit a) ∨
      (∀ a ∈ as, visit a = .ok none) ∧ search visit as = .ok none := by
  induction as with
  | nil => exact .inr ⟨by simp, rfl⟩
  | cons a as ih =>
      by_cases hround : visit a = .ok none
      · have hrest : search visit (a :: as) = search visit as := by
          rw [search, hround]
          rfl
        rw [hrest]
        rcases ih with hend | hmiss
        · rcases hend with ⟨b, hb, hne, heq⟩
          exact .inl ⟨b, by simp [hb], hne, heq⟩
        · apply Or.inr
          constructor
          · intro b hb
            rcases List.mem_cons.mp hb with rfl | hb
            · exact hround
            · exact hmiss.1 b hb
          · exact hmiss.2
      · exact .inl ⟨a, by simp, hround, search_first hround as⟩

theorem search_eq_none_iff (visit : α → Result (Option β)) (as : List α) :
    search visit as = .ok none ↔ ∀ a ∈ as, visit a = .ok none := by
  constructor
  · exact search_miss
  · intro hmiss
    rcases search_ends visit as with hend | hend
    · rcases hend with ⟨a, ha, hne, -⟩
      exact absurd (hmiss a ha) hne
    · exact hend.2

theorem decisive_congr {rejects rejects' : α → String → Prop} {hits hits' : α → β → Prop}
    (hrejects : ∀ a e, rejects a e ↔ rejects' a e) (hhits : ∀ a b, hits a b ↔ hits' a b) :
    Decisive rejects hits ↔ Decisive rejects' hits' := by
  have hr : rejects = rejects' := funext fun a => funext fun e => propext (hrejects a e)
  have hh : hits = hits' := funext fun a => funext fun b => propext (hhits a b)
  rw [hr, hh]

/-- Hits may be compared by any key that tells their values apart. -/
theorem decisive_key_iff {δ : Type} {rejects : α → String → Prop} {hits : α → β → Prop}
    {f : β → Result γ} {key : β → δ} (hok : ∀ a b, hits a b → ∃ c, f b = .ok c)
    (hkey : ∀ a b a' b' c c', hits a b → hits a' b' → f b = .ok c → f b' = .ok c' →
      (c = c' ↔ key b = key b')) :
    Decisive rejects (fun a c => ∃ b, hits a b ∧ f b = .ok c) ↔
      Decisive rejects fun a k => ∃ b, hits a b ∧ key b = k := by
  constructor
  · intro h
    constructor
    · intro a a' e k hrejects hhits
      rcases hhits with ⟨b, hb, -⟩
      rcases hok a' b hb with ⟨c, hc⟩
      exact h.alone hrejects ⟨b, hb, hc⟩
    · exact h.rejection
    · intro a a' k k' hhits hhits'
      rcases hhits with ⟨b, hb, rfl⟩
      rcases hhits' with ⟨b', hb', rfl⟩
      rcases hok a b hb with ⟨c, hc⟩
      rcases hok a' b' hb' with ⟨c', hc'⟩
      exact (hkey a b a' b' c c' hb hb' hc hc').mp (h.hit ⟨b, hb, hc⟩ ⟨b', hb', hc'⟩)
  · intro h
    constructor
    · intro a a' e c hrejects hhits
      rcases hhits with ⟨b, hb, -⟩
      exact h.alone hrejects ⟨b, hb, rfl⟩
    · exact h.rejection
    · intro a a' c c' hhits hhits'
      rcases hhits with ⟨b, hb, hc⟩
      rcases hhits' with ⟨b', hb', hc'⟩
      exact (hkey a b a' b' c c' hb hb' hc hc').mpr (h.hit ⟨b, hb, rfl⟩ ⟨b', hb', rfl⟩)

/-- A decisive search is one whose ending rounds have one result. -/
theorem decisive_iff (visit : α → Result (Option β)) (names : List α) :
    Decisive (fun a e => a ∈ names ∧ visit a = .error e)
        (fun a b => a ∈ names ∧ visit a = .ok (some b)) ↔
      ∀ a ∈ names, ∀ b ∈ names, visit a ≠ .ok none → visit b ≠ .ok none → visit a = visit b := by
  constructor
  · intro hdecisive a ha b hb hne hne'
    cases hvisit : visit a with
    | error e =>
        cases hvisit' : visit b with
        | error e' => rw [hdecisive.rejection ⟨ha, hvisit⟩ ⟨hb, hvisit'⟩]
        | ok found =>
            cases found with
            | none => exact absurd hvisit' hne'
            | some c => exact absurd ⟨hb, hvisit'⟩ (hdecisive.alone ⟨ha, hvisit⟩)
    | ok found =>
        cases found with
        | none => exact absurd hvisit hne
        | some c =>
            cases hvisit' : visit b with
            | error e => exact absurd ⟨ha, hvisit⟩ (hdecisive.alone ⟨hb, hvisit'⟩)
            | ok found' =>
                cases found' with
                | none => exact absurd hvisit' hne'
                | some c' => rw [hdecisive.hit ⟨ha, hvisit⟩ ⟨hb, hvisit'⟩]
  · intro halike
    constructor
    · intro a b e c hrejects hhits
      have heq := halike a hrejects.1 b hhits.1 (by simp [hrejects.2]) (by simp [hhits.2])
      rw [hrejects.2, hhits.2] at heq
      cases heq
    · intro a b e e' hrejects hrejects'
      have heq := halike a hrejects.1 b hrejects'.1 (by simp [hrejects.2]) (by simp [hrejects'.2])
      rw [hrejects.2, hrejects'.2] at heq
      exact Except.error.inj heq
    · intro a b c c' hhits hhits'
      have heq := halike a hhits.1 b hhits'.1 (by simp [hhits.2]) (by simp [hhits'.2])
      rw [hhits.2, hhits'.2] at heq
      exact Option.some.inj (Except.ok.inj heq)

/-- A search gives the same result in every order of its rounds exactly when it is decisive. -/
theorem search_order_iff (visit : α → Result (Option β)) (names : List α) :
    (∀ as bs : List α, as.Perm names → bs.Perm names → search visit as = search visit bs) ↔
      Decisive (fun a e => a ∈ names ∧ visit a = .error e)
        (fun a b => a ∈ names ∧ visit a = .ok (some b)) := by
  rw [decisive_iff]
  constructor
  · intro horder a ha b hb hne hne'
    rcases List.append_of_mem ha with ⟨s, t, rfl⟩
    rcases List.append_of_mem hb with ⟨s', t', hsplit⟩
    have hfront := horder (a :: (s ++ t)) (b :: (s' ++ t')) List.perm_middle.symm
      (hsplit ▸ List.perm_middle.symm)
    rwa [search_first hne, search_first hne'] at hfront
  · intro halike as bs has hbs
    rcases search_ends visit as with hend | hmiss
    · rcases hend with ⟨a, ha, hne, heq⟩
      rcases search_ends visit bs with hend' | hmiss
      · rcases hend' with ⟨b, hb, hne', heq'⟩
        rw [heq, heq']
        exact halike a (has.mem_iff.mp ha) b (hbs.mem_iff.mp hb) hne hne'
      · exact absurd (hmiss.1 a (hbs.mem_iff.mpr (has.mem_iff.mp ha))) hne
    · rcases search_ends visit bs with hend' | hmiss'
      · rcases hend' with ⟨b, hb, hne', -⟩
        exact absurd (hmiss.1 b (has.mem_iff.mpr (hbs.mem_iff.mp hb))) hne'
      · rw [hmiss.2, hmiss'.2]

end OmarchySync.Logic
