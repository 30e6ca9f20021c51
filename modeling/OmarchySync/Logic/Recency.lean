import Mathlib.Data.Finset.Card
import Mathlib.Data.Finset.Max
import Mathlib.Data.List.TakeWhile

/-!
# The most recently touched keys

Histories of touches, latest first. The keys touched since the last touch of `k` rank `k`
among all keys; a window holds the fresh keys of rank below its size, and follows the history
by refreshing a key, by adding one while there is room, and by replacing its oldest key.
-/

namespace OmarchySync.Logic

variable {K : Type} [DecidableEq K]

/-- The other keys touched since the last touch of `k`. -/
def since (h : List K) (k : K) : Finset K := (h.takeWhile (· ≠ k)).toFinset

variable {h : List K} {j k : K}

@[simp]
theorem since_self (h : List K) (k : K) : since (k :: h) k = ∅ := by
  simp [since]

theorem since_cons (hne : j ≠ k) : since (j :: h) k = insert j (since h k) := by
  simp [since, hne]

theorem notMem_since : k ∉ since h k := by
  intro hmem
  have hne := List.mem_takeWhile_imp (List.mem_toFinset.mp hmem)
  simp at hne

theorem mem_of_mem_since (hmem : j ∈ since h k) : j ∈ h :=
  (List.takeWhile_subset _) (List.mem_toFinset.mp hmem)

theorem insert_since_subset (hmem : j ∈ since h k) : insert j (since h j) ⊆ since h k := by
  induction h with
  | nil => simp [since] at hmem
  | cons a h ih =>
      by_cases hak : a = k
      · subst hak
        simp at hmem
      · rw [since_cons hak] at hmem ⊢
        by_cases haj : a = j
        · subst haj
          simp
        · have hmem' : j ∈ since h k := Finset.mem_of_mem_insert_of_ne hmem (Ne.symm haj)
          rw [since_cons haj, Finset.insert_comm]
          exact Finset.insert_subset_insert a (ih hmem')

theorem since_card_lt (hmem : j ∈ since h k) : (since h j).card < (since h k).card := by
  have hsubset := Finset.card_le_card (insert_since_subset hmem)
  rw [Finset.card_insert_of_notMem notMem_since] at hsubset
  exact hsubset

theorem since_total (hj : j ∈ h) (hne : j ≠ k) : j ∈ since h k ∨ k ∈ since h j := by
  induction h with
  | nil => cases hj
  | cons a h ih =>
      by_cases hak : a = k
      · subst hak
        right
        rw [since_cons hne.symm]
        exact Finset.mem_insert_self _ _
      · by_cases haj : a = j
        · subst haj
          left
          rw [since_cons hak]
          exact Finset.mem_insert_self _ _
        · rw [since_cons hak, since_cons haj]
          have hj' : j ∈ h := List.mem_of_ne_of_mem (Ne.symm haj) hj
          exact (ih hj').imp Finset.mem_insert_of_mem Finset.mem_insert_of_mem

theorem stamp_lt_of_mem_since {E : Type} {key : E → K} {stamp : E → ℕ} {h : List E} {p q : E}
    (hsorted : h.Pairwise fun a b => stamp b < stamp a)
    (hk : h.find? (key · = k) = some p) (hj : h.find? (key · = j) = some q)
    (hmem : j ∈ since (h.map key) k) : stamp p < stamp q := by
  induction h with
  | nil => cases hk
  | cons a h ih =>
      obtain ⟨hfirst, hrest⟩ := List.pairwise_cons.mp hsorted
      rw [List.map_cons] at hmem
      by_cases hak : key a = k
      · rw [hak] at hmem
        simp at hmem
      · rw [List.find?_cons_of_neg (by simpa using hak)] at hk
        by_cases haj : key a = j
        · rw [List.find?_cons_of_pos (by simpa using haj)] at hj
          cases hj
          exact hfirst p (List.mem_of_find?_eq_some hk)
        · rw [List.find?_cons_of_neg (by simpa using haj)] at hj
          rw [since_cons hak] at hmem
          exact ih hrest hk hj (Finset.mem_of_mem_insert_of_ne hmem (Ne.symm haj))

/-- The fresh keys of the `limit` most recently touched ones. Whatever was touched after a fresh
key is fresh itself. -/
structure Window (limit : ℕ) (h : List K) (fresh : K → Prop) (window : Finset K) : Prop where
  mem : ∀ k, k ∈ window ↔ k ∈ h ∧ fresh k ∧ (since h k).card < limit
  newer : ∀ k ∈ h, fresh k → ∀ j ∈ since h k, fresh j

namespace Window

variable {limit : ℕ} {fresh : K → Prop} {window : Finset K}

theorem since_subset (hw : Window limit h fresh window) (hk : k ∈ window) :
    since h k ⊆ window := by
  obtain ⟨hmem, hfresh, hcard⟩ := (hw.mem k).mp hk
  intro j hj
  have hless := since_card_lt hj
  exact (hw.mem j).mpr ⟨mem_of_mem_since hj, hw.newer k hmem hfresh j hj, by omega⟩

/-- A window never outgrows its size. -/
theorem card_le (hw : Window limit h fresh window) : window.card ≤ limit := by
  rcases window.eq_empty_or_nonempty with hempty | hnonempty
  · simp [hempty]
  · -- the oldest key has all others behind it
    obtain ⟨x, hx, hmax⟩ := window.exists_max_image (fun k => (since h k).card) hnonempty
    have hsubset : window ⊆ insert x (since h x) := by
      intro j hj
      by_cases heq : j = x
      · exact Finset.mem_insert.mpr (.inl heq)
      · rcases since_total ((hw.mem j).mp hj).1 heq with hnew | hold
        · exact Finset.mem_insert_of_mem hnew
        · have hless := since_card_lt hold
          have hle := hmax j hj
          omega
    have hcard := Finset.card_le_card hsubset
    rw [Finset.card_insert_of_notMem notMem_since] at hcard
    have hlimit := ((hw.mem x).mp hx).2.2
    omega

/-- Keys go stale, the older ones first. -/
theorem expire {fresh' : K → Prop} {window' : Finset K} (hw : Window limit h fresh window)
    (hkept : ∀ k, k ∈ window' ↔ k ∈ window ∧ fresh' k) (hstale : ∀ k, fresh' k → fresh k)
    (hnewer : ∀ k ∈ h, fresh' k → ∀ j ∈ since h k, fresh' j) :
    Window limit h fresh' window' := by
  refine ⟨?_, hnewer⟩
  intro k
  rw [hkept, hw.mem]
  constructor
  · intro hk
    exact ⟨hk.1.1, hk.2, hk.1.2.2⟩
  · intro hk
    exact ⟨⟨hk.1, hstale k hk.2.1, hk.2.2⟩, hk.2.1⟩

private theorem newer_touch (hw : Window limit h fresh window) :
    ∀ j ∈ k :: h, j = k ∨ fresh j → ∀ i ∈ since (k :: h) j, i = k ∨ fresh i := by
  intro j hj hfresh i hi
  by_cases hjk : j = k
  · subst hjk
    simp at hi
  · rw [since_cons (Ne.symm hjk)] at hi
    rcases Finset.mem_insert.mp hi with heq | hi
    · exact .inl heq
    · have hmem : j ∈ h := List.mem_of_ne_of_mem hjk hj
      exact .inr (hw.newer j hmem (hfresh.resolve_left hjk) i hi)

private theorem mem_touch {window' : Finset K} (hw : Window limit h fresh window)
    (hpos : 0 < limit) (hk : k ∈ window')
    (hkept : ∀ j, j ≠ k → (j ∈ window' ↔ j ∈ window ∧ (insert k (since h j)).card < limit)) :
    Window limit (k :: h) (fun j => j = k ∨ fresh j) window' := by
  refine ⟨?_, hw.newer_touch⟩
  intro j
  by_cases hjk : j = k
  · subst hjk
    simp [hk, hpos]
  · have hgrows := Finset.card_le_card (Finset.subset_insert k (since h j))
    rw [hkept j hjk, hw.mem, since_cons (Ne.symm hjk), List.mem_cons]
    constructor
    · intro hj
      exact ⟨.inr hj.1.1, .inr hj.1.2.1, hj.2⟩
    · intro hj
      exact ⟨⟨hj.1.resolve_left hjk, hj.2.1.resolve_left hjk, by omega⟩, hj.2.2⟩

theorem refresh (hw : Window limit h fresh window) (hk : k ∈ window) :
    Window limit (k :: h) (fun j => j = k ∨ fresh j) window := by
  have hcard := ((hw.mem k).mp hk).2.2
  apply hw.mem_touch (by omega) hk
  intro j hjk
  rw [iff_self_and]
  intro hj
  have hcard' := ((hw.mem j).mp hj).2.2
  rcases since_total ((hw.mem j).mp hj).1 hjk with hnew | hold
  · have hless := since_card_lt hnew
    have hinsert := Finset.card_insert_le k (since h j)
    omega
  · rw [Finset.insert_eq_of_mem hold]
    exact hcard'

theorem add (hw : Window limit h fresh window) (hroom : window.card < limit) :
    Window limit (k :: h) (fun j => j = k ∨ fresh j) (insert k window) := by
  apply hw.mem_touch (by omega) (Finset.mem_insert_self ..)
  intro j hjk
  rw [Finset.mem_insert, or_iff_right hjk, iff_self_and]
  intro hj
  have hothers : since h j ⊆ window.erase j :=
    Finset.subset_erase.mpr ⟨hw.since_subset hj, notMem_since⟩
  have hcard := Finset.card_le_card hothers
  rw [Finset.card_erase_of_mem hj] at hcard
  have hinsert := Finset.card_insert_le k (since h j)
  have hpos := Finset.card_pos.mpr ⟨j, hj⟩
  omega

/-- Touching another key while there is none: it takes the place of the oldest one. -/
theorem replace {x : K} (hw : Window limit h fresh window) (hk : k ∉ window)
    (hfull : limit ≤ window.card) (hx : x ∈ window)
    (holdest : ∀ j ∈ window, j ≠ x → j ∈ since h x) :
    Window limit (k :: h) (fun j => j = k ∨ fresh j) (insert k (window.erase x)) := by
  have hpos := Finset.card_pos.mpr ⟨x, hx⟩
  have hle := hw.card_le
  apply hw.mem_touch (by omega) (Finset.mem_insert_self ..)
  intro j hjk
  rw [Finset.mem_insert, or_iff_right hjk, Finset.mem_erase]
  by_cases hjx : j = x
  · -- all others were touched after the oldest key, so one more touch pushes it out
    subst hjx
    have hall : window.erase j ⊆ since h j := by
      intro i hi
      obtain ⟨hne, hi⟩ := Finset.mem_erase.mp hi
      exact holdest i hi hne
    have hcard := Finset.card_le_card hall
    rw [Finset.card_erase_of_mem hx] at hcard
    have hfresh : k ∉ since h j := fun hmem => hk (hw.since_subset hx hmem)
    rw [Finset.card_insert_of_notMem hfresh]
    simp only [ne_eq, not_true_eq_false, false_and, false_iff, not_and, not_lt]
    omega
  · simp only [ne_eq, hjx, not_false_eq_true, true_and, iff_self_and]
    intro hj
    have hlater : x ∉ since h j := by
      intro hmem
      have hless := since_card_lt hmem
      have hless' := since_card_lt (holdest j hj hjx)
      omega
    have hothers : since h j ⊆ (window.erase j).erase x :=
      Finset.subset_erase.mpr ⟨Finset.subset_erase.mpr ⟨hw.since_subset hj, notMem_since⟩, hlater⟩
    have hcard := Finset.card_le_card hothers
    rw [Finset.card_erase_of_mem (Finset.mem_erase.mpr ⟨Ne.symm hjx, hx⟩),
      Finset.card_erase_of_mem hj] at hcard
    have hinsert := Finset.card_insert_le k (since h j)
    have htwo : 2 ≤ window.card := Finset.one_lt_card.mpr ⟨j, hj, x, hx, hjx⟩
    omega

end Window

end OmarchySync.Logic
