import Mathlib.Data.List.AList

/-!
# Maps filtered by value
-/

namespace OmarchySync.Logic

variable {K V : Type} [DecidableEq K]

/-- The entries whose values pass a test, as `HashMap::retain` leaves them. -/
def filterValues (p : V → Bool) (m : AList fun _ : K => V) : AList fun _ : K => V :=
  ⟨m.entries.filter fun e => p e.2, m.nodupKeys.sublist List.filter_sublist⟩

theorem lookup_filterValues (p : V → Bool) (m : AList fun _ : K => V) (k : K) :
    (filterValues p m).lookup k = (m.lookup k).filter p := by
  apply Option.ext
  intro v
  rw [Option.filter_eq_some_iff]
  change v ∈ (filterValues p m).lookup k ↔ v ∈ m.lookup k ∧ _
  rw [AList.mem_lookup_iff, AList.mem_lookup_iff, filterValues, List.mem_filter]

omit [DecidableEq K] in
theorem filterValues_length_le (p : V → Bool) (m : AList fun _ : K => V) :
    (filterValues p m).entries.length ≤ m.entries.length :=
  List.length_filter_le _ _

theorem mem_keys_iff {m : AList fun _ : K => V} {k : K} :
    k ∈ m.keys ↔ ∃ v, m.lookup k = some v := by
  rw [← AList.mem_keys, ← AList.lookup_isSome, Option.isSome_iff_exists]

end OmarchySync.Logic
