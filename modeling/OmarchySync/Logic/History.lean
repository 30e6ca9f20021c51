import Mathlib.Data.List.Induction

/-!
# Histories

Lists of events, oldest first. `Throughout P` relates every event to the part of the history
before it.
-/

namespace OmarchySync.Logic

variable {ε ε' : Type}

/-- `P` relates each event to what came before it. -/
def Throughout (P : List ε → ε → Prop) (l : List ε) : Prop :=
  ∀ before e after, l = before ++ e :: after → P before e

/-- `P` relates each event of a list to `before` and the events in front of it. -/
def ThroughoutFrom (P : List ε → ε → Prop) (before : List ε) : List ε → Prop
  | [] => True
  | e :: l => P before e ∧ ThroughoutFrom P (before ++ [e]) l

variable {P : List ε → ε → Prop}

theorem throughoutFrom_append (before l m : List ε) :
    ThroughoutFrom P before (l ++ m) ↔
      ThroughoutFrom P before l ∧ ThroughoutFrom P (before ++ l) m := by
  induction l generalizing before with
  | nil => simp [ThroughoutFrom]
  | cons e l ih => simp [ThroughoutFrom, ih, and_assoc]

theorem throughoutFrom_nil_iff (l : List ε) : ThroughoutFrom P [] l ↔ Throughout P l := by
  constructor
  · intro h before e after heq
    subst heq
    exact ((throughoutFrom_append [] before (e :: after)).mp h).2.1
  · intro h
    induction l using List.reverseRecOn with
    | nil => trivial
    | append_singleton l e ih =>
        rw [throughoutFrom_append]
        refine ⟨?_, h l e [] rfl, trivial⟩
        apply ih
        intro before a after heq
        exact h before a (after ++ [e]) (by simp [heq])

@[simp]
theorem throughout_nil : Throughout P [] :=
  (throughoutFrom_nil_iff []).mp trivial

theorem throughout_append (l m : List ε) :
    Throughout P (l ++ m) ↔ Throughout P l ∧ ThroughoutFrom P l m := by
  rw [← throughoutFrom_nil_iff, throughoutFrom_append, throughoutFrom_nil_iff, List.nil_append]

/-- The part of a history in front of one of its selected events. -/
theorem exists_split_of_filterMap {f : ε → Option ε'} {l : List ε} {before after : List ε'}
    {e' : ε'} (h : l.filterMap f = before ++ e' :: after) :
    ∃ front e back, l = front ++ e :: back ∧ f e = some e' ∧ front.filterMap f = before := by
  obtain ⟨front, rest, rfl, hfront, hrest⟩ := List.filterMap_eq_append_iff.mp h
  obtain ⟨skipped, e, back, rfl, hskipped, he, -⟩ := List.filterMap_eq_cons_iff.mp hrest
  refine ⟨front ++ skipped, e, back, by simp, he, ?_⟩
  have hnil : skipped.filterMap f = [] := List.filterMap_eq_nil_iff.mpr hskipped
  rw [List.filterMap_append, hfront, hnil, List.append_nil]

end OmarchySync.Logic
