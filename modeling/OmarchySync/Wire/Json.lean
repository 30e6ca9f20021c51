import OmarchySync.Wire.Bytes

/-!
# Compact JSON

The encodings a compact serializer gives to words, byte arrays, texts and objects, each
with a reader of exactly that form. A `Format` carries the proof that its reader inverts
its printer, and formats are put together without further proof.
-/

namespace OmarchySync.Wire

def isDigit (b : UInt8) : Bool := 48 ≤ b && b ≤ 57

/-- What follows a number must not continue it. -/
def Stops (rest : Bytes) : Prop := ∀ b ∈ rest.head?, isDigit b = false

theorem stops_cons {b : UInt8} (h : isDigit b = false) (rest : Bytes) : Stops (b :: rest) := by
  simpa [Stops] using h

/-- The decimal digits of `n`, at most `width` of them. -/
def decimal : Nat → Nat → Bytes
  | 0, _ => []
  | width + 1, n =>
      if n < 10 then [UInt8.ofNat (48 + n)]
      else decimal width (n / 10) ++ [UInt8.ofNat (48 + n % 10)]

/-- The number after reading one more digit. -/
def pushDigit (acc : Nat) (b : UInt8) : Nat := acc * 10 + (b.toNat - 48)

private theorem digit_facts : ∀ d, d < 10 →
    isDigit (UInt8.ofNat (48 + d)) = true ∧ (UInt8.ofNat (48 + d)).toNat - 48 = d := by
  decide

theorem decimal_isDigit (width n : Nat) : ∀ b ∈ decimal width n, isDigit b = true := by
  induction width generalizing n with
  | zero => simp [decimal]
  | succ width ih =>
      intro b hb
      unfold decimal at hb
      split at hb
      next hn =>
        rw [List.mem_singleton] at hb
        exact hb ▸ (digit_facts n hn).1
      next hn =>
        rcases List.mem_append.mp hb with hb | hb
        · exact ih _ b hb
        · rw [List.mem_singleton] at hb
          exact hb ▸ (digit_facts (n % 10) (Nat.mod_lt _ (by decide))).1

theorem decimal_ne_nil (width n : Nat) : decimal (width + 1) n ≠ [] := by
  unfold decimal
  split <;> simp

theorem decimal_length_le (width n digits : Nat) (h : n < 10 ^ (digits + 1)) :
    (decimal width n).length ≤ digits + 1 := by
  induction width generalizing n digits with
  | zero => simp [decimal]
  | succ width ih =>
      unfold decimal
      split
      next => simp
      next hn =>
        cases digits with
        | zero => omega
        | succ digits =>
            have hdiv : n / 10 < 10 ^ (digits + 1) := by
              rw [pow_succ] at h
              exact Nat.div_lt_of_lt_mul (by omega)
            have hrest := ih (n / 10) digits hdiv
            rw [List.length_append, List.length_singleton]
            omega

theorem foldl_decimal (width n : Nat) (h : n < 10 ^ width) :
    (decimal width n).foldl pushDigit 0 = n := by
  induction width generalizing n with
  | zero => simp_all [decimal]
  | succ width ih =>
      unfold decimal
      split
      next hn =>
        have hdigit := (digit_facts n hn).2
        simp only [List.foldl_cons, List.foldl_nil, pushDigit, hdigit]
        omega
      next hn =>
        have hdiv : n / 10 < 10 ^ width := by
          rw [pow_succ] at h
          exact Nat.div_lt_of_lt_mul (by omega)
        have hdigit := (digit_facts (n % 10) (Nat.mod_lt _ (by decide))).2
        simp only [List.foldl_append, ih _ hdiv, List.foldl_cons, List.foldl_nil, pushDigit, hdigit]
        omega

/-- The bytes a printed JSON value occupies, and a reader of that form. The reader may
look one byte ahead, so a number must not be followed by a digit. -/
structure Format (α : Type) where
  print : α → Bytes
  parse : Bytes → Option (α × Bytes)
  parse_print : ∀ a rest, Stops rest → parse (print a ++ rest) = some (a, rest)

namespace Format

variable {α β : Type}

/-- Print and read through another type. -/
def map (f : Format α) (forth : α → β) (back : β → α)
    (h : ∀ b, forth (back b) = b) : Format β where
  print b := f.print (back b)
  parse bs := (f.parse bs).map fun p => (forth p.1, p.2)
  parse_print b rest hrest := by
    simp [f.parse_print _ _ hrest, h]

/-- The input behind an expected prefix. -/
def expect : Bytes → Bytes → Option Bytes
  | [], bs => some bs
  | _ :: _, [] => none
  | e :: es, b :: bs => if e = b then expect es bs else none

@[simp]
theorem expect_append (label rest : Bytes) : expect label (label ++ rest) = some rest := by
  induction label with
  | nil => rfl
  | cons b label ih => simp [expect, ih]

/-- Two values separated by a comma and a label. -/
def pair (f : Format α) (label : String) (g : Format β) : Format (α × β) where
  print p := f.print p.1 ++ (44 :: (ascii label ++ g.print p.2))
  parse bs := do
    let (a, bs) ← f.parse bs
    let bs ← expect [44] bs
    let bs ← expect (ascii label) bs
    let (b, bs) ← g.parse bs
    return ((a, b), bs)
  parse_print p rest hrest := by
    have hf := f.parse_print p.1 (44 :: (ascii label ++ (g.print p.2 ++ rest)))
      (stops_cons (by decide) _)
    have hg := g.parse_print p.2 rest hrest
    simp [hf, hg, expect]

theorem pair_length (f : Format α) (label : String) (g : Format β) (p : α × β) :
    ((f.pair label g).print p).length =
      (f.print p.1).length + ((ascii label).length + 1 + (g.print p.2).length) := by
  simp only [pair, List.length_append, List.length_cons]
  omega

/-- A value between an opening text and a closing brace. -/
def braces (opening : String) (f : Format α) : Format α where
  print a := ascii opening ++ (f.print a ++ [125])
  parse bs := do
    let bs ← expect (ascii opening) bs
    let (a, bs) ← f.parse bs
    let bs ← expect [125] bs
    return (a, bs)
  parse_print a rest _ := by
    have hf := f.parse_print a (125 :: rest) (stops_cons (by decide) _)
    simp [hf, expect]

/-- A value between an opening text and a closing brace on a line of its own. -/
def block (opening : String) (f : Format α) : Format α where
  print a := ascii opening ++ (f.print a ++ [10, 125])
  parse bs := do
    let bs ← expect (ascii opening) bs
    let (a, bs) ← f.parse bs
    let bs ← expect [10, 125] bs
    return (a, bs)
  parse_print a rest _ := by
    have hf := f.parse_print a (10 :: 125 :: rest) (stops_cons (by decide) _)
    simp [hf, expect]

/-- Read a whole input. -/
def parseAll (f : Format α) (bs : Bytes) : Option α :=
  match f.parse bs with
  | some (a, []) => some a
  | _ => none

theorem parseAll_print (f : Format α) (a : α) : f.parseAll (f.print a) = some a := by
  have h := f.parse_print a [] (by simp [Stops])
  rw [List.append_nil] at h
  simp [parseAll, h]

end Format

/-- Read the digits at the front of the input. -/
def scanDigits (acc : Nat) : Bytes → Nat × Bytes
  | [] => (acc, [])
  | b :: bs => if isDigit b then scanDigits (pushDigit acc b) bs else (acc, b :: bs)

theorem scanDigits_append (acc : Nat) (ds rest : Bytes) (hds : ∀ b ∈ ds, isDigit b = true)
    (hrest : Stops rest) : scanDigits acc (ds ++ rest) = (ds.foldl pushDigit acc, rest) := by
  induction ds generalizing acc with
  | nil =>
      cases rest with
      | nil => rfl
      | cons b rest => simp [scanDigits, hrest b (by simp)]
  | cons d ds ih =>
      simp only [List.cons_append, scanDigits, hds d (by simp), if_true, List.foldl_cons]
      exact ih _ fun b hb => hds b (by simp [hb])

/-- Decimal words below `limit`. -/
def Format.word (limit : Nat) (hlimit : limit ≤ 10 ^ 20) : Format (Fin limit) where
  print n := decimal 20 n.val
  parse bs :=
    let (n, rest) := scanDigits 0 bs
    if h : n < limit then some (⟨n, h⟩, rest) else none
  parse_print n rest hrest := by
    have hn : n.val < 10 ^ 20 := Nat.lt_of_lt_of_le n.isLt hlimit
    simp [scanDigits_append 0 _ rest (decimal_isDigit 20 n.val) hrest, foldl_decimal 20 n.val hn]

def Format.u8 : Format UInt8 :=
  (Format.word UInt8.size (by decide)).map UInt8.ofFin UInt8.toFin fun _ => rfl

def Format.u64 : Format UInt64 :=
  (Format.word UInt64.size (by decide)).map UInt64.ofFin UInt64.toFin fun _ => rfl

/-- The rest of an array behind its first element. -/
private def arrayTail : Bytes → Bytes
  | [] => [93]
  | b :: bs => 44 :: (decimal 20 b.toNat ++ arrayTail bs)

/-- A byte array as a list of decimal numbers. -/
def jsonArray : Bytes → Bytes
  | [] => [91, 93]
  | b :: bs => 91 :: (decimal 20 b.toNat ++ arrayTail bs)

/-- Every byte takes at most three digits and a separator. -/
theorem jsonArray_length_le (bs : Bytes) : (jsonArray bs).length ≤ 4 * bs.length + 2 := by
  have hdigits : ∀ b : UInt8, (decimal 20 b.toNat).length ≤ 3 := by
    intro b
    have hb : b.toNat < 256 := b.toNat_lt
    exact decimal_length_le 20 b.toNat 2 (by omega)
  have htail : ∀ bs : Bytes, (arrayTail bs).length ≤ 4 * bs.length + 1 := by
    intro bs
    induction bs with
    | nil => simp [arrayTail]
    | cons b bs ih =>
        have hb := hdigits b
        simp only [arrayTail, List.length_cons, List.length_append]
        omega
  cases bs with
  | nil => simp [jsonArray]
  | cons b bs =>
      have hb := hdigits b
      have hrest := htail bs
      simp only [jsonArray, List.length_cons, List.length_append]
      omega

/-- And at least one digit. -/
theorem length_le_jsonArray (bs : Bytes) : bs.length ≤ (jsonArray bs).length := by
  have htail : ∀ bs : Bytes, bs.length ≤ (arrayTail bs).length := by
    intro bs
    induction bs with
    | nil => simp
    | cons b bs ih =>
        simp only [arrayTail, List.length_cons, List.length_append]
        omega
  cases bs with
  | nil => simp
  | cons b bs =>
      have hrest := htail bs
      simp only [jsonArray, List.length_cons, List.length_append]
      omega

/-- Read array elements; `current` is the number read so far. -/
private def scanArray : Option Nat → Bytes → Option (Bytes × Bytes)
  | _, [] => none
  | current, b :: bs =>
      if isDigit b then scanArray (some (pushDigit (current.getD 0) b)) bs
      else
        match current with
        | none => if b = 93 then some ([], bs) else none
        | some n =>
            if 256 ≤ n then none
            else if b = 93 then some ([UInt8.ofNat n], bs)
            else if b = 44 then (scanArray none bs).map fun p => (UInt8.ofNat n :: p.1, p.2)
            else none

private theorem scanArray_digits (current : Option Nat) (ds rest : Bytes) (hne : ds ≠ [])
    (hds : ∀ b ∈ ds, isDigit b = true) :
    scanArray current (ds ++ rest) =
      scanArray (some (ds.foldl pushDigit (current.getD 0))) rest := by
  induction ds generalizing current with
  | nil => contradiction
  | cons d ds ih =>
      simp only [List.cons_append, scanArray, hds d (by simp), if_true, List.foldl_cons]
      by_cases hnil : ds = []
      · simp [hnil]
      · rw [ih _ hnil fun b hb => hds b (by simp [hb])]
        rfl

private theorem scanArray_element (b : UInt8) (rest : Bytes) :
    scanArray none (decimal 20 b.toNat ++ rest) = scanArray (some b.toNat) rest := by
  have hb : b.toNat < 256 := b.toNat_lt
  rw [scanArray_digits none _ rest (decimal_ne_nil 19 _) (decimal_isDigit 20 _)]
  rw [Option.getD_none, foldl_decimal 20 b.toNat (Nat.lt_of_lt_of_le hb (by decide))]

private theorem scanArray_arrayTail (b : UInt8) (bs rest : Bytes) :
    scanArray (some b.toNat) (arrayTail bs ++ rest) = some (b :: bs, rest) := by
  induction bs generalizing b with
  | nil =>
      have hb : ¬256 ≤ b.toNat := Nat.not_le.mpr b.toNat_lt
      simp [arrayTail, scanArray, isDigit, hb]
  | cons c bs ih =>
      have hb : ¬256 ≤ b.toNat := Nat.not_le.mpr b.toNat_lt
      have htail := scanArray_element c (arrayTail bs ++ rest)
      simp [arrayTail, scanArray, isDigit, hb, htail, ih]

def Format.bytes : Format Bytes where
  print := jsonArray
  parse bs := do
    let bs ← Format.expect [91] bs
    scanArray none bs
  parse_print a rest _ := by
    cases a with
    | nil => simp [jsonArray, Format.expect, scanArray, isDigit]
    | cons b bs =>
        have htail := scanArray_element b (arrayTail bs ++ rest)
        simp [jsonArray, Format.expect, htail, scanArray_arrayTail]

/-- A fixed-size byte array. -/
def Format.array (n : Nat) : Format (Array8 n) where
  print v := jsonArray v.toList
  parse bs := do
    let (xs, rest) ← Format.bytes.parse bs
    if h : xs.length = n then some (⟨xs, h⟩, rest) else none
  parse_print v rest hrest := by
    have h := Format.bytes.parse_print v.toList rest hrest
    have hprint : Format.bytes.print v.toList = jsonArray v.toList := rfl
    rw [← hprint, h]
    simp only [Option.bind_eq_bind, Option.bind_some, v.toList_length, dif_pos]
    rfl

/-- An optional byte array. -/
def Format.optional : Format (Option Bytes) where
  print
    | none => ascii "null"
    | some bs => jsonArray bs
  parse bs :=
    match Format.expect (ascii "null") bs with
    | some rest => some (none, rest)
    | none => (Format.bytes.parse bs).map fun p => (some p.1, p.2)
  parse_print a rest hrest := by
    cases a with
    | none => simp
    | some bs =>
        have h : Format.bytes.parse (jsonArray bs ++ rest) = some (bs, rest) :=
          Format.bytes.parse_print bs rest hrest
        have hnull : Format.expect (ascii "null") (jsonArray bs ++ rest) = none := by
          cases bs <;> rfl
        simp [h, hnull]

/-- The letter of a two-character escape, where there is one. -/
def shortEscape (b : UInt8) : Option UInt8 :=
  if b = 34 then some 34 else if b = 92 then some 92 else if b = 8 then some 98
  else if b = 9 then some 116 else if b = 10 then some 110 else if b = 12 then some 102
  else if b = 13 then some 114 else none

/-- One byte of a JSON string. -/
def escapeByte (b : UInt8) : Bytes :=
  match shortEscape b with
  | some letter => [92, letter]
  | none =>
      if b < 32 then [92, 117, 48, 48, hexDigit (b.toNat / 16), hexDigit (b.toNat % 16)] else [b]

def jsonString (bs : Bytes) : Bytes := 34 :: (bs.flatMap escapeByte ++ [34])

private def unescape (letter : UInt8) : UInt8 :=
  if letter = 98 then 8 else if letter = 116 then 9 else if letter = 110 then 10
  else if letter = 102 then 12 else if letter = 114 then 13 else letter

private def hexValue (b : UInt8) : Nat := if b ≤ 57 then b.toNat - 48 else b.toNat - 87

/-- Read string contents: state 1 follows a backslash, and `n + 2` is a hexadecimal escape
with `n + 1` digits due. -/
private def scanString : Nat → Nat → Bytes → Option (Bytes × Bytes)
  | _, _, [] => none
  | 0, _, b :: bs =>
      if b = 34 then some ([], bs)
      else if b = 92 then scanString 1 0 bs
      else (scanString 0 0 bs).map fun p => (b :: p.1, p.2)
  | 1, _, b :: bs =>
      if b = 117 then scanString 5 0 bs
      else (scanString 0 0 bs).map fun p => (unescape b :: p.1, p.2)
  | 2, acc, b :: bs =>
      (scanString 0 0 bs).map fun p => (UInt8.ofNat (acc * 16 + hexValue b) :: p.1, p.2)
  | n + 3, acc, b :: bs => scanString (n + 2) (acc * 16 + hexValue b) bs

private theorem shortEscape_facts {b letter : UInt8} (h : shortEscape b = some letter) :
    letter ≠ 117 ∧ unescape letter = b := by
  unfold shortEscape at h
  split_ifs at h with h₁ h₂ h₃ h₄ h₅ h₆ h₇ <;> cases h <;> simp [unescape, *]

private theorem hexValue_hexDigit : ∀ n, n < 16 → hexValue (hexDigit n) = n := by
  decide

private theorem scanString_escapeByte (b : UInt8) (rest : Bytes) :
    scanString 0 0 (escapeByte b ++ rest) =
      (scanString 0 0 rest).map fun p => (b :: p.1, p.2) := by
  unfold escapeByte
  cases hshort : shortEscape b with
  | some letter =>
      obtain ⟨hu, hb⟩ := shortEscape_facts hshort
      simp [scanString, hu, hb]
  | none =>
      have hplain : b ≠ 34 ∧ b ≠ 92 := by
        constructor <;> rintro rfl <;> simp [shortEscape] at hshort
      have hb : b.toNat < 256 := b.toNat_lt
      have hhigh := hexValue_hexDigit (b.toNat / 16) (by omega)
      have hlow := hexValue_hexDigit (b.toNat % 16) (Nat.mod_lt _ (by decide))
      have hval : b.toNat / 16 * 16 + b.toNat % 16 = b.toNat := Nat.div_add_mod' _ _
      have hzero : hexValue 48 = 0 := rfl
      by_cases hctl : b < 32
      · simp [hctl, scanString, hhigh, hlow, hval, hzero]
      · simp [hctl, scanString, hplain]

def Format.string : Format Text where
  print t := jsonString t.bytes
  parse bs := do
    let bs ← Format.expect [34] bs
    let (xs, rest) ← scanString 0 0 bs
    let t ← Text.ofBytes? xs
    return (t, rest)
  parse_print t rest _ := by
    have hscan : ∀ bs, scanString 0 0 (bs.flatMap escapeByte ++ 34 :: rest) = some (bs, rest) := by
      intro bs
      induction bs with
      | nil => simp [scanString]
      | cons b bs ih =>
          rw [List.flatMap_cons, List.append_assoc, scanString_escapeByte, ih]
          rfl
    simp [jsonString, Format.expect, hscan]

theorem Format.string_print (t : Text) : Format.string.print t = jsonString t.bytes := rfl

theorem Format.bytes_print (bs : Bytes) : Format.bytes.print bs = jsonArray bs := rfl

theorem Format.array_print (n : Nat) (v : Array8 n) :
    (Format.array n).print v = jsonArray v.toList := rfl

theorem Format.u64_print (n : UInt64) : Format.u64.print n = decimal 20 n.toNat := rfl

/-- A text without escapes is printed between two quotes. -/
theorem jsonString_length {bs : Bytes} (hplain : ∀ b ∈ bs, escapeByte b = [b]) :
    (jsonString bs).length = bs.length + 2 := by
  have hflat : bs.flatMap escapeByte = bs := by
    induction bs with
    | nil => rfl
    | cons b bs ih =>
        rw [List.flatMap_cons, hplain b (by simp), ih fun c hc => hplain c (by simp [hc])]
        rfl
  simp [jsonString, hflat]

namespace Format

section List

variable {α : Type} (f : Format α) (next last : String)

/-- The elements behind the first one, up to the closing text. -/
private def listTail : List α → Bytes
  | [] => ascii last
  | a :: as => ascii next ++ (f.print a ++ listTail as)

/-- Read them, at most as many as the fuel allows. -/
private def scanList : Nat → Bytes → Option (List α × Bytes)
  | 0, _ => none
  | fuel + 1, bs =>
      match expect (ascii next) bs with
      | none => (expect (ascii last) bs).map fun bs => ([], bs)
      | some bs => do
          let (a, bs) ← f.parse bs
          let (as, bs) ← scanList fuel bs
          return (a :: as, bs)

variable {next last}

private theorem stops_listTail (hnext : (ascii next).head? = some 44)
    (hlast : (ascii last).head? = some 10) (as : List α) (rest : Bytes) :
    Stops (listTail f next last as ++ rest) := by
  cases as with
  | nil => simp [listTail, Stops, hlast, isDigit]
  | cons a as => simp [listTail, Stops, hnext, isDigit]

private theorem scanList_listTail (hnext : (ascii next).head? = some 44)
    (hlast : (ascii last).head? = some 10) (as : List α) (fuel : Nat) (hfuel : as.length < fuel)
    (rest : Bytes) : scanList f next last fuel (listTail f next last as ++ rest) = some (as, rest) := by
  induction as generalizing fuel with
  | nil =>
      obtain ⟨fuel, rfl⟩ := Nat.exists_eq_succ_of_ne_zero (Nat.ne_of_gt hfuel)
      have hmiss : expect (ascii next) (ascii last ++ rest) = none := by
        cases hn : ascii next with
        | nil => simp [hn] at hnext
        | cons b bs =>
            cases hl : ascii last with
            | nil => simp [hl] at hlast
            | cons c cs =>
                simp only [hn, hl, List.head?_cons, Option.some.injEq] at hnext hlast
                simp [expect, hnext, hlast]
      simp [listTail, scanList, hmiss]
  | cons a as ih =>
      obtain ⟨fuel, rfl⟩ := Nat.exists_eq_succ_of_ne_zero (Nat.ne_of_gt (Nat.zero_lt_of_lt hfuel))
      have hparse := f.parse_print a _ (stops_listTail f hnext hlast as rest)
      have hrest := ih fuel (by simpa using hfuel)
      simp [listTail, scanList, hparse, hrest]

private theorem length_le_listTail (as : List α) (hnext : (ascii next).head? = some 44) :
    as.length ≤ (listTail f next last as).length := by
  have hpos : 0 < (ascii next).length := by
    cases hn : ascii next with
    | nil => simp [hn] at hnext
    | cons b bs => simp
  induction as with
  | nil => simp
  | cons a as ih =>
      simp only [listTail, List.length_cons, List.length_append]
      omega

/-- A list in brackets, its elements on lines of their own. -/
def list (first next last : String)
    (hfirst : ∀ rest, expect (ascii "[]") (ascii first ++ rest) = none)
    (hnext : (ascii next).head? = some 44) (hlast : (ascii last).head? = some 10) :
    Format (List α) where
  print
    | [] => ascii "[]"
    | a :: as => ascii first ++ (f.print a ++ listTail f next last as)
  parse bs :=
    match expect (ascii "[]") bs with
    | some bs => some ([], bs)
    | none => do
        let bs ← expect (ascii first) bs
        let (a, bs) ← f.parse bs
        let (as, bs) ← scanList f next last (bs.length + 1) bs
        return (a :: as, bs)
  parse_print as rest _ := by
    cases as with
    | nil => simp
    | cons a as =>
        have hparse := f.parse_print a _ (stops_listTail f hnext hlast as rest)
        have hlength := @length_le_listTail _ f _ last as hnext
        have hscan := scanList_listTail f hnext hlast as
          ((listTail f next last as ++ rest).length + 1)
          (by simp only [List.length_append]; omega) rest
        simp only [List.append_assoc, hfirst, expect_append, Option.bind_eq_bind, Option.bind_some,
          hparse, hscan]
        rfl

end List

end Format

end OmarchySync.Wire
