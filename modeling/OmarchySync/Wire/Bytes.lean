import Mathlib.Data.List.Basic
import Mathlib.Data.Vector.Basic

/-!
# Byte strings, big-endian words and UTF-8 text

The byte-level vocabulary of the wire formats. Nothing here knows which format is
encoded: words are natural numbers of a stated width, and a text is a byte string
together with the proof that it is UTF-8.
-/

namespace OmarchySync.Wire

abbrev Bytes := List UInt8

/-- A fixed-size byte array `[u8; n]`. -/
abbrev Array8 (n : Nat) := List.Vector UInt8 n

/-- The bytes of an ASCII literal. -/
def ascii (s : String) : Bytes := s.toList.map fun c => UInt8.ofNat c.toNat

/-- The `width` low-order bytes of `n`, most significant first. -/
def beBytes : Nat → Nat → Bytes
  | 0, _ => []
  | width + 1, n => UInt8.ofNat (n / 256 ^ width) :: beBytes width n

/-- The number a big-endian byte string denotes. -/
def beValue : Bytes → Nat
  | [] => 0
  | b :: bs => b.toNat * 256 ^ bs.length + beValue bs

@[simp]
theorem beBytes_length (width n : Nat) : (beBytes width n).length = width := by
  induction width with
  | zero => rfl
  | succ width ih => simp [beBytes, ih]

theorem beValue_lt (bs : Bytes) : beValue bs < 256 ^ bs.length := by
  induction bs with
  | nil => simp [beValue]
  | cons b bs ih =>
      have hb : b.toNat < 256 := b.toNat_lt
      have hstep : (b.toNat + 1) * 256 ^ bs.length ≤ 256 * 256 ^ bs.length :=
        Nat.mul_le_mul_right _ hb
      simp only [beValue, List.length_cons, pow_succ]
      rw [Nat.add_mul, Nat.one_mul] at hstep
      omega

theorem beValue_beBytes (width n : Nat) : beValue (beBytes width n) = n % 256 ^ width := by
  induction width with
  | zero => simp [beBytes, beValue, Nat.mod_one]
  | succ width ih =>
      have hhead : (UInt8.ofNat (n / 256 ^ width)).toNat = n / 256 ^ width % 256 :=
        UInt8.toNat_ofNat'
      simp only [beBytes, beValue, beBytes_length, ih, hhead]
      rw [pow_succ, Nat.mod_mul, Nat.mul_comm (n / 256 ^ width % 256)]
      omega

theorem beValue_beBytes_of_lt (width n : Nat) (hn : n < 256 ^ width) :
    beValue (beBytes width n) = n := by
  rw [beValue_beBytes, Nat.mod_eq_of_lt hn]

/-- Only the `width` low-order bytes are written. -/
theorem beBytes_mod (width k n : Nat) (hk : width ≤ k) :
    beBytes width (n % 256 ^ k) = beBytes width n := by
  induction width with
  | zero => rfl
  | succ width ih =>
      have hsplit : 256 ^ k = 256 ^ width * (256 * 256 ^ (k - width - 1)) := by
        rw [← pow_succ', ← pow_add]
        congr 1
        omega
      simp only [beBytes]
      rw [ih (by omega)]
      congr 1
      rw [hsplit, Nat.mod_mul_right_div_self]
      apply UInt8.toNat_inj.mp
      simp only [UInt8.toNat_ofNat']
      exact Nat.mod_mul_right_mod _ _ _

/-- Every byte string is the encoding of the number it denotes. -/
theorem beBytes_beValue (bs : Bytes) : beBytes bs.length (beValue bs) = bs := by
  induction bs with
  | nil => rfl
  | cons b bs ih =>
      have hlt := beValue_lt bs
      have hpos : 0 < 256 ^ bs.length := Nat.pow_pos (by decide)
      simp only [List.length_cons, beBytes, beValue]
      have hhead : (b.toNat * 256 ^ bs.length + beValue bs) / 256 ^ bs.length = b.toNat := by
        rw [Nat.add_comm, Nat.add_mul_div_right _ _ hpos, Nat.div_eq_of_lt hlt, Nat.zero_add]
      rw [hhead, UInt8.ofNat_toNat]
      congr 1
      rw [← beBytes_mod bs.length bs.length _ (le_refl _), Nat.mul_add_mod_of_lt hlt, ih]

theorem beBytes_injective (width a b : Nat) (ha : a < 256 ^ width) (hb : b < 256 ^ width)
    (h : beBytes width a = beBytes width b) : a = b := by
  rw [← beValue_beBytes_of_lt width a ha, h, beValue_beBytes_of_lt width b hb]

/-- A field behind its 16-bit length determines itself and what follows it. -/
theorem lengthPrefixed_inj {a b x y : Bytes} (ha : a.length < 65536) (hb : b.length < 65536)
    (h : beBytes 2 a.length ++ (a ++ x) = beBytes 2 b.length ++ (b ++ y)) : a = b ∧ x = y := by
  have hsplit := List.append_inj h (by simp)
  have hlen : a.length = b.length := beBytes_injective 2 _ _ ha hb hsplit.1
  exact List.append_inj hsplit.2 hlen

/-- Byte strings that differ at one position of their prefixes differ. -/
theorem append_ne_of_getElem? {m n x y : Bytes} (k : Nat) {a b : UInt8} (hm : m[k]? = some a)
    (hn : n[k]? = some b) (hab : a ≠ b) : m ++ x ≠ n ++ y := by
  intro h
  have hk : (m ++ x)[k]? = (n ++ y)[k]? := by rw [h]
  rw [List.getElem?_append_left (List.getElem?_eq_some_iff.mp hm).1,
    List.getElem?_append_left (List.getElem?_eq_some_iff.mp hn).1, hm, hn] at hk
  exact hab (Option.some.inj hk)

/-- UTF-8 decoding state: `owed` continuation bytes are still due, the next of them
between `low` and `high`. The bounds rule out overlong forms, surrogates and code points
above U+10FFFF. -/
private def utf8From : Nat → UInt8 → UInt8 → Bytes → Bool
  | 0, _, _, [] => true
  | _ + 1, _, _, [] => false
  | owed + 1, low, high, b :: bs => low ≤ b && b ≤ high && utf8From owed 0x80 0xBF bs
  | 0, _, _, b :: bs =>
      if b ≤ 0x7F then utf8From 0 0x80 0xBF bs
      else if 0xC2 ≤ b && b ≤ 0xDF then utf8From 1 0x80 0xBF bs
      else if b == 0xE0 then utf8From 2 0xA0 0xBF bs
      else if b == 0xED then utf8From 2 0x80 0x9F bs
      else if 0xE1 ≤ b && b ≤ 0xEF then utf8From 2 0x80 0xBF bs
      else if b == 0xF0 then utf8From 3 0x90 0xBF bs
      else if 0xF1 ≤ b && b ≤ 0xF3 then utf8From 3 0x80 0xBF bs
      else if b == 0xF4 then utf8From 3 0x80 0x8F bs
      else false

/-- The well-formed UTF-8 byte sequences. -/
def isUtf8 (bs : Bytes) : Bool := utf8From 0 0x80 0xBF bs

theorem isUtf8_of_ascii (bs : Bytes) (h : ∀ b ∈ bs, b ≤ 0x7F) : isUtf8 bs = true := by
  induction bs with
  | nil => rfl
  | cons b bs ih =>
      have hb : b ≤ 0x7F := h b (by simp)
      have htail : utf8From 0 0x80 0xBF bs = true :=
        ih fun c hc => h c (List.mem_cons_of_mem _ hc)
      simp [isUtf8, utf8From, hb, htail]

private theorem utf8From_append (bs cs : Bytes) : ∀ owed low high,
    utf8From owed low high bs = true →
      utf8From owed low high (bs ++ cs) = utf8From 0 0x80 0xBF cs := by
  induction bs with
  | nil =>
      intro owed low high h
      cases owed with
      | zero => cases cs <;> rfl
      | succ owed => cases h
  | cons b bs ih =>
      intro owed low high h
      cases owed with
      | zero =>
          simp only [utf8From, List.cons_append] at h ⊢
          split_ifs at h ⊢ <;> exact ih _ _ _ h
      | succ owed =>
          simp only [utf8From, List.cons_append, Bool.and_eq_true] at h ⊢
          rw [ih _ _ _ h.2, h.1.1, h.1.2]
          rfl

theorem isUtf8_append {bs cs : Bytes} (hbs : isUtf8 bs = true) (hcs : isUtf8 cs = true) :
    isUtf8 (bs ++ cs) = true :=
  (utf8From_append bs cs _ _ _ hbs).trans hcs

/-- A UTF-8 string. -/
structure Text where
  bytes : Bytes
  utf8 : isUtf8 bytes = true
  deriving DecidableEq

namespace Text

@[ext]
theorem ext {s t : Text} (h : s.bytes = t.bytes) : s = t := by
  cases s
  cases t
  subst h
  rfl

/-- Strict UTF-8 decoding. -/
def ofBytes? (bs : Bytes) : Option Text :=
  if h : isUtf8 bs = true then some ⟨bs, h⟩ else none

@[simp]
theorem ofBytes?_bytes (t : Text) : ofBytes? t.bytes = some t := by
  simp [ofBytes?, t.utf8]

theorem bytes_of_ofBytes? {bs : Bytes} {t : Text} (h : ofBytes? bs = some t) : t.bytes = bs := by
  unfold ofBytes? at h
  split at h
  · cases h
    rfl
  · contradiction

/-- Bytes as `str::len` counts them. -/
def len (t : Text) : Nat := t.bytes.length

end Text

/-- Lowercase hexadecimal digit of a value below sixteen. -/
def hexDigit (n : Nat) : UInt8 := if n < 10 then UInt8.ofNat (48 + n) else UInt8.ofNat (87 + n)

/-- Two lowercase hexadecimal digits for each byte. -/
def hexBytes : Bytes → Bytes
  | [] => []
  | b :: bs => hexDigit (b.toNat / 16) :: hexDigit (b.toNat % 16) :: hexBytes bs

@[simp]
theorem hexBytes_length (bs : Bytes) : (hexBytes bs).length = 2 * bs.length := by
  induction bs with
  | nil => rfl
  | cons b bs ih =>
      simp only [hexBytes, List.length_cons, ih]
      omega

/-- The lowercase hexadecimal digits as byte values. -/
def IsLowerHex (b : UInt8) : Prop := (48 ≤ b ∧ b ≤ 57) ∨ (97 ≤ b ∧ b ≤ 102)

instance (b : UInt8) : Decidable (IsLowerHex b) := inferInstanceAs (Decidable (_ ∨ _))

theorem hexDigit_isLowerHex : ∀ n, n < 16 → IsLowerHex (hexDigit n) := by
  decide

theorem hexBytes_isLowerHex (bs : Bytes) : ∀ b ∈ hexBytes bs, IsLowerHex b := by
  induction bs with
  | nil => simp [hexBytes]
  | cons a bs ih =>
      intro b hb
      have ha : a.toNat < 256 := a.toNat_lt
      simp only [hexBytes, List.mem_cons] at hb
      rcases hb with rfl | rfl | hb
      · exact hexDigit_isLowerHex _ (by omega)
      · exact hexDigit_isLowerHex _ (by omega)
      · exact ih b hb

theorem isLowerHex_le_ascii {b : UInt8} (h : IsLowerHex b) : b ≤ 0x7F := by
  rcases h with ⟨_, h⟩ | ⟨_, h⟩
  · exact UInt8.le_trans h (by decide)
  · exact UInt8.le_trans h (by decide)

/-- The text of the hexadecimal rendering. -/
def hexText (bs : Bytes) : Text :=
  ⟨hexBytes bs, isUtf8_of_ascii _ fun _ hb => isLowerHex_le_ascii (hexBytes_isLowerHex bs _ hb)⟩

end OmarchySync.Wire
