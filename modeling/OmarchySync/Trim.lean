import OmarchySync.Wire.Bytes

/-!
# Trimming

`str::trim` on the bytes of a text: codes are taken off both ends as long as there are any. It
undoes the padding of a text exactly when no code begins or ends another one.
-/

namespace OmarchySync.Wire

section Trim

/-- What follows the first of the codes that the bytes begin with. -/
def strip (codes : List Bytes) (bs : Bytes) : Option Bytes :=
  codes.findSome? fun code => if code <+: bs then some (bs.drop code.length) else none

/-- Strip codes as long as there are any; `fuel` bounds their number. -/
def trimStart (codes : List Bytes) : ℕ → Bytes → Bytes
  | 0, bs => bs
  | fuel + 1, bs =>
      match strip codes bs with
      | none => bs
      | some rest => trimStart codes fuel rest

/-- A sequence of codes. -/
def Blank (codes : List Bytes) (bs : Bytes) : Prop :=
  ∃ l : List Bytes, (∀ code ∈ l, code ∈ codes) ∧ bs = l.flatten

/-- No code begins another one, and none is empty. -/
structure PrefixFree (codes : List Bytes) : Prop where
  nonempty : [] ∉ codes
  free : ∀ code ∈ codes, ∀ code' ∈ codes, code <+: code' → code = code'

variable {codes : List Bytes} {bs ws body : Bytes}

theorem strip_eq_none : strip codes bs = none ↔ ∀ code ∈ codes, ¬code <+: bs := by
  simp [strip, List.findSome?_eq_none_iff]

private theorem strip_eq_some {rest : Bytes} (h : strip codes bs = some rest) :
    ∃ code ∈ codes, bs = code ++ rest := by
  obtain ⟨code, hcode, hstrip⟩ := List.exists_of_findSome?_eq_some h
  split at hstrip
  next hprefix =>
    obtain ⟨tail, rfl⟩ := hprefix
    rw [List.drop_left, Option.some.injEq] at hstrip
    exact ⟨code, hcode, by rw [hstrip]⟩
  next => cases hstrip

private theorem PrefixFree.strip_append (hfree : PrefixFree codes) {code rest : Bytes}
    (hcode : code ∈ codes) : strip codes (code ++ rest) = some rest := by
  cases h : strip codes (code ++ rest) with
  | none => exact absurd (List.prefix_append code rest) (strip_eq_none.mp h code hcode)
  | some rest' =>
      obtain ⟨code', hcode', heq⟩ := strip_eq_some h
      have hprefix : code <+: code' ++ rest' := heq ▸ List.prefix_append code rest
      have hsame : code = code' := by
        rcases List.prefix_or_prefix_of_prefix hprefix (List.prefix_append code' rest') with h | h
        · exact hfree.free code hcode code' hcode' h
        · exact (hfree.free code' hcode' code hcode h).symm
      rw [hsame] at heq
      rw [List.append_cancel_left heq]

private theorem trimStart_of_none (h : strip codes bs = none) (fuel : ℕ) :
    trimStart codes fuel bs = bs := by
  cases fuel with
  | zero => rfl
  | succ fuel => simp only [trimStart, h]

private theorem PrefixFree.trimStart_append (hfree : PrefixFree codes) (hblank : Blank codes ws)
    (hstop : strip codes body = none) :
    ∀ fuel, ws.length ≤ fuel → trimStart codes fuel (ws ++ body) = body := by
  obtain ⟨l, hl, rfl⟩ := hblank
  induction l with
  | nil =>
      intro fuel _
      exact trimStart_of_none hstop fuel
  | cons code l ih =>
      intro fuel hfuel
      have hcode : code ∈ codes := hl code List.mem_cons_self
      have hpos : 0 < code.length := by
        apply List.length_pos_of_ne_nil
        rintro rfl
        exact hfree.nonempty hcode
      rw [List.flatten_cons, List.length_append] at hfuel
      cases fuel with
      | zero => omega
      | succ fuel =>
          rw [List.flatten_cons, List.append_assoc]
          simp only [trimStart, hfree.strip_append hcode]
          exact ih (fun code h => hl code (List.mem_cons_of_mem _ h)) fuel (by omega)

private theorem trimStart_split (codes : List Bytes) (fuel : ℕ) (bs : Bytes) :
    ∃ ws, Blank codes ws ∧ bs = ws ++ trimStart codes fuel bs := by
  induction fuel generalizing bs with
  | zero => exact ⟨[], ⟨[], by simp, rfl⟩, rfl⟩
  | succ fuel ih =>
      cases h : strip codes bs with
      | none => exact ⟨[], ⟨[], by simp, rfl⟩, by simp only [trimStart, h, List.nil_append]⟩
      | some rest =>
          obtain ⟨code, hcode, rfl⟩ := strip_eq_some h
          obtain ⟨ws, ⟨l, hl, rfl⟩, hrest⟩ := ih rest
          refine ⟨code ++ l.flatten, ⟨code :: l, ?_, rfl⟩, ?_⟩
          · intro c hc
            rcases List.mem_cons.mp hc with rfl | hc
            · exact hcode
            · exact hl c hc
          · simp only [trimStart, h]
            rw [List.append_assoc, ← hrest]

/-- Codes are stripped in front and behind. -/
def trim (codes : List Bytes) (bs : Bytes) : Bytes :=
  let front := trimStart codes bs.length bs
  (trimStart (codes.map List.reverse) front.length front.reverse).reverse

private theorem Blank.reverse (h : Blank codes ws) : Blank (codes.map List.reverse) ws.reverse := by
  obtain ⟨l, hl, rfl⟩ := h
  refine ⟨(l.map List.reverse).reverse, ?_, List.reverse_flatten ..⟩
  intro code hcode
  obtain ⟨c, hc, rfl⟩ := List.mem_map.mp (List.mem_reverse.mp hcode)
  exact List.mem_map_of_mem (hl c hc)

theorem trim_split (codes : List Bytes) (bs : Bytes) :
    ∃ ws ws', Blank codes ws ∧ Blank codes ws' ∧ bs = ws ++ (trim codes bs ++ ws') := by
  obtain ⟨ws, hws, hfront⟩ := trimStart_split codes bs.length bs
  obtain ⟨ws', hws', hback⟩ := trimStart_split (codes.map List.reverse)
    (trimStart codes bs.length bs).length (trimStart codes bs.length bs).reverse
  refine ⟨ws, ws'.reverse, hws, ?_, ?_⟩
  · have hreverse := hws'.reverse
    rwa [List.map_map, List.reverse_involutive.comp_self, List.map_id] at hreverse
  · conv_lhs => rw [hfront]
    rw [List.append_cancel_left_eq]
    have hrev := congrArg List.reverse hback
    rwa [List.reverse_reverse, List.reverse_append] at hrev

/-- The codes around a text that neither begins nor ends with one are trimmed away. -/
theorem trim_blank {ws' : Bytes} (hfree : PrefixFree codes)
    (hfree' : PrefixFree (codes.map List.reverse)) (hws : Blank codes ws) (hws' : Blank codes ws')
    (hstart : strip codes (body ++ ws') = none)
    (hend : strip (codes.map List.reverse) body.reverse = none) :
    trim codes (ws ++ (body ++ ws')) = body := by
  have hfront : trimStart codes (ws ++ (body ++ ws')).length (ws ++ (body ++ ws')) = body ++ ws' :=
    hfree.trimStart_append hws hstart _ (by rw [List.length_append]; omega)
  simp only [trim, hfront]
  rw [List.reverse_append, hfree'.trimStart_append hws'.reverse hend _ (by simp),
    List.reverse_reverse]

end Trim

/-- The encodings of the characters with the property White_Space. -/
def whitespace : List Bytes :=
  [[0x09], [0x0A], [0x0B], [0x0C], [0x0D], [0x20], [0xC2, 0x85], [0xC2, 0xA0], [0xE1, 0x9A, 0x80],
    [0xE2, 0x80, 0x80], [0xE2, 0x80, 0x81], [0xE2, 0x80, 0x82], [0xE2, 0x80, 0x83],
    [0xE2, 0x80, 0x84], [0xE2, 0x80, 0x85], [0xE2, 0x80, 0x86], [0xE2, 0x80, 0x87],
    [0xE2, 0x80, 0x88], [0xE2, 0x80, 0x89], [0xE2, 0x80, 0x8A], [0xE2, 0x80, 0xA8],
    [0xE2, 0x80, 0xA9], [0xE2, 0x80, 0xAF], [0xE2, 0x81, 0x9F], [0xE3, 0x80, 0x80]]

theorem whitespace_prefixFree : PrefixFree whitespace := ⟨by decide, by decide⟩

theorem whitespace_suffixFree : PrefixFree (whitespace.map List.reverse) :=
  ⟨by decide, by decide⟩

theorem isUtf8_blank {ws : Bytes} (h : Blank whitespace ws) : isUtf8 ws = true := by
  have hcode : ∀ code ∈ whitespace, isUtf8 code = true := by decide
  obtain ⟨l, hl, rfl⟩ := h
  induction l with
  | nil => rfl
  | cons code l ih =>
      rw [List.flatten_cons]
      exact isUtf8_append (hcode _ (hl _ List.mem_cons_self))
        (ih fun c hc => hl c (List.mem_cons_of_mem _ hc))

end OmarchySync.Wire
