import OmarchySync.Certificate
import OmarchySync.Trim

/-!
# The root key file

The two forms in which the pinned root may be installed: the raw key, or its hexadecimal digits
in either case between blanks.
-/

namespace OmarchySync

open Logic Wire

/-- `u8::to_ascii_lowercase`. -/
def toAsciiLowercase (b : UInt8) : UInt8 := if 65 ≤ b ∧ b ≤ 90 then b + 32 else b

def hexValue (byte : UInt8) : Result UInt8 :=
  if 48 ≤ byte ∧ byte ≤ 57 then .ok (byte - 48)
  else if 97 ≤ byte ∧ byte ≤ 102 then .ok (byte - 97 + 10)
  else if 65 ≤ byte ∧ byte ≤ 70 then .ok (byte - 65 + 10)
  else .error "invalid hexadecimal root key"

/-- Two digits for each byte of the key. -/
def fromHex : Bytes → Result Bytes
  | high :: low :: rest => do
      let high ← hexValue high
      let low ← hexValue low
      let bytes ← fromHex rest
      return (high <<< 4 ||| low) :: bytes
  | _ => return []

section Hex

/-- The digits of the key, each in either case. -/
def Spells (text key : Bytes) : Prop := text.map toAsciiLowercase = hexBytes key

variable {b : UInt8} {text key : Bytes}

private theorem forall_byte {p : UInt8 → Bool} (h : ∀ n < 256, p (UInt8.ofNat n) = true)
    (b : UInt8) : p b = true := by
  have hb := h b.toNat b.toNat_lt
  rwa [UInt8.ofNat_toNat] at hb

set_option maxRecDepth 10000 in
private theorem hexValue_ok (h : isAsciiHexdigit b = true) :
    ∃ n < 16, hexValue b = .ok (UInt8.ofNat n) ∧ toAsciiLowercase b = hexDigit n := by
  let value (b : UInt8) : Bool := isAsciiHexdigit b → (hexValue b).toOption.any fun v =>
    v.toNat < 16 ∧ toAsciiLowercase b = hexDigit v.toNat
  have hvalue : value b = true := forall_byte (by decide) b
  have hb := of_decide_eq_true hvalue h
  cases heq : hexValue b with
  | error e =>
      rw [heq] at hb
      cases hb
  | ok v =>
      rw [heq] at hb
      obtain ⟨hlt, hlower⟩ := of_decide_eq_true hb
      exact ⟨v.toNat, hlt, by rw [UInt8.ofNat_toNat], hlower⟩

set_option maxRecDepth 10000 in
private theorem isAsciiHexdigit_of_lower (h : IsLowerHex (toAsciiLowercase b)) :
    isAsciiHexdigit b = true := by
  let digit (b : UInt8) : Bool := IsLowerHex (toAsciiLowercase b) → isAsciiHexdigit b
  have hdigit : digit b = true := forall_byte (by decide) b
  exact of_decide_eq_true hdigit h

set_option maxRecDepth 10000 in
private theorem isAsciiHexdigit_ascii (h : isAsciiHexdigit b = true) : b ≤ 0x7F := by
  let small (b : UInt8) : Bool := isAsciiHexdigit b → b ≤ 0x7F
  have hsmall : small b = true := forall_byte (by decide) b
  exact of_decide_eq_true hsmall h

private theorem hexBytes_cons_digits {m n : ℕ} (hm : m < 16) (hn : n < 16) (rest : Bytes) :
    hexBytes ((UInt8.ofNat m <<< 4 ||| UInt8.ofNat n) :: rest) =
      hexDigit m :: hexDigit n :: hexBytes rest := by
  have hvalue : ∀ m < 16, ∀ n < 16, (UInt8.ofNat m <<< 4 ||| UInt8.ofNat n).toNat = 16 * m + n := by
    decide
  rw [hexBytes, hvalue m hm n hn]
  congr 2
  · omega
  · congr 1
    omega

private theorem fromHex_ok (hdigits : text.all isAsciiHexdigit = true)
    (heven : text.length % 2 = 0) :
    ∃ key, fromHex text = .ok key ∧ Spells text key := by
  induction text using fromHex.induct with
  | case1 high low rest ih =>
      rw [List.all_cons, List.all_cons, Bool.and_eq_true, Bool.and_eq_true] at hdigits
      obtain ⟨hhigh, hlow, hrest⟩ := hdigits
      have heven' : rest.length % 2 = 0 := by
        rw [List.length_cons, List.length_cons] at heven
        omega
      obtain ⟨m, hm, hvalue, hlower⟩ := hexValue_ok hhigh
      obtain ⟨n, hn, hvalue', hlower'⟩ := hexValue_ok hlow
      obtain ⟨key, hkey, hspells⟩ := ih hrest heven'
      refine ⟨(UInt8.ofNat m <<< 4 ||| UInt8.ofNat n) :: key, ?_, ?_⟩
      · simp only [fromHex, hvalue, hvalue', hkey, ok_bind, pure_result]
      · rw [Spells, hexBytes_cons_digits hm hn, List.map_cons, List.map_cons, hlower, hlower',
          show rest.map toAsciiLowercase = hexBytes key from hspells]
  | case2 text hshort =>
      cases text with
      | nil => exact ⟨[], rfl, rfl⟩
      | cons a text =>
          cases text with
          | nil => simp at heven
          | cons b rest => exact absurd rfl (hshort a b rest)

private theorem hexBytes_injective {bs cs : Bytes} (h : hexBytes bs = hexBytes cs) : bs = cs := by
  have hdigit : ∀ m < 16, ∀ n < 16, hexDigit m = hexDigit n → m = n := by decide
  induction bs generalizing cs with
  | nil =>
      cases cs with
      | nil => rfl
      | cons c cs => cases h
  | cons b bs ih =>
      cases cs with
      | nil => cases h
      | cons c cs =>
          rw [hexBytes, hexBytes, List.cons.injEq, List.cons.injEq] at h
          have hb : b.toNat < 256 := b.toNat_lt
          have hc : c.toNat < 256 := c.toNat_lt
          have hhigh := hdigit _ (by omega) _ (by omega) h.1
          have hlow := hdigit _ (by omega) _ (by omega) h.2.1
          rw [ih h.2.2, UInt8.toNat_inj.mp (by omega : b.toNat = c.toNat)]

private theorem Spells.digits (h : Spells text key) :
    text.length = 2 * key.length ∧ text.all isAsciiHexdigit = true := by
  constructor
  · have hlength := congrArg List.length h
    rwa [List.length_map, hexBytes_length] at hlength
  · rw [List.all_eq_true]
    intro b hb
    apply isAsciiHexdigit_of_lower
    apply hexBytes_isLowerHex key
    rw [← h]
    exact List.mem_map_of_mem hb

theorem fromHex_eq_ok (hdigits : text.all isAsciiHexdigit = true) (heven : text.length % 2 = 0) :
    fromHex text = .ok key ↔ Spells text key := by
  obtain ⟨key', hkey, hspells⟩ := fromHex_ok hdigits heven
  rw [hkey, Except.ok.injEq]
  constructor
  · rintro rfl
    exact hspells
  · intro h
    exact hexBytes_injective (hspells.symm.trans h)

end Hex

variable [Crypto]

/-- `PinnedOmarchyRoot::from_bytes`. -/
def PinnedOmarchyRoot.parse (bytes : Bytes) : Result PinnedOmarchyRoot :=
  if h : bytes.length = 32 then PinnedOmarchyRoot.fromBytes ⟨bytes, h⟩
  else do
    let text ← someOr "Omarchy root key is not raw bytes or UTF-8 hex" (Text.ofBytes? bytes)
    let text := trim whitespace text.bytes
    bailIf (text.length ≠ 64 ∨ ¬text.all isAsciiHexdigit)
      "Omarchy root key must be 32 raw bytes or 64 hex characters"
    let key ← fromHex text
    let key ← exactly 32 "invalid hexadecimal root key" key
    PinnedOmarchyRoot.fromBytes key

/-- The forms of a root key file. -/
inductive KeyFile (key : Array8 32) : Bytes → Prop where
  | raw : KeyFile key key.toList
  | hex {before text after : Bytes} (hbefore : Blank whitespace before)
      (hafter : Blank whitespace after) (hspells : Spells text key.toList) :
      KeyFile key (before ++ (text ++ after))

section Trimmed

omit [Crypto]

variable {before text after : Bytes}

private theorem strip_digit {codes : List Bytes}
    (hcodes : ∀ code ∈ codes, code ≠ [] ∧ code.head?.any isAsciiHexdigit = false) {b : UInt8}
    (hb : isAsciiHexdigit b = true) (bs : Bytes) : strip codes (b :: bs) = none := by
  rw [strip_eq_none]
  intro code hcode hprefix
  obtain ⟨hne, hhead⟩ := hcodes code hcode
  cases code with
  | nil => exact hne rfl
  | cons c code =>
      rw [(List.cons_prefix_cons.mp hprefix).1, List.head?_cons, Option.any_some, hb] at hhead
      cases hhead

private theorem trim_digits (hbefore : Blank whitespace before) (hafter : Blank whitespace after)
    (hdigits : text.all isAsciiHexdigit = true) (hne : text ≠ []) :
    trim whitespace (before ++ (text ++ after)) = text := by
  have hcodes : (∀ code ∈ whitespace, code ≠ [] ∧ code.head?.any isAsciiHexdigit = false) ∧
      ∀ code ∈ whitespace.map List.reverse, code ≠ [] ∧ code.head?.any isAsciiHexdigit = false := by
    decide
  rw [List.all_eq_true] at hdigits
  apply trim_blank whitespace_prefixFree whitespace_suffixFree hbefore hafter
  · obtain ⟨b, bs, rfl⟩ := List.exists_cons_of_ne_nil hne
    exact strip_digit hcodes.1 (hdigits b List.mem_cons_self) _
  · have hne' : text.reverse ≠ [] := List.reverse_ne_nil_iff.mpr hne
    obtain ⟨b, bs, hreverse⟩ := List.exists_cons_of_ne_nil hne'
    rw [hreverse]
    apply strip_digit hcodes.2
    apply hdigits
    rw [← List.mem_reverse, hreverse]
    exact List.mem_cons_self

end Trimmed

namespace PinnedOmarchyRoot

variable {bytes : Bytes} {root : PinnedOmarchyRoot}

theorem fromBytes_eq_ok (key : Array8 32) :
    fromBytes key = .ok root ↔ root.publicKey = key := by
  unfold fromBytes
  split
  next h =>
    rw [Except.ok.injEq]
    constructor
    · rintro rfl
      rfl
    · rintro rfl
      rfl
  next h =>
    constructor
    · intro heq
      cases heq
    · rintro rfl
      exact absurd root.valid h

/-- A file is accepted exactly if it is the raw key, or spells it between blanks. -/
theorem parse_eq_ok : parse bytes = .ok root ↔ KeyFile root.publicKey bytes := by
  unfold parse
  split
  next hlength =>
    refine (fromBytes_eq_ok _).trans ?_
    constructor
    · intro hkey
      have hbytes : bytes = root.publicKey.toList := by rw [hkey]; rfl
      rw [hbytes]
      exact .raw
    · intro hfile
      cases hfile with
      | raw => rfl
      | hex hbefore hafter hspells =>
          obtain ⟨hdigits, -⟩ := hspells.digits
          rw [List.length_append, List.length_append, hdigits, List.Vector.toList_length] at hlength
          omega
  next hlength =>
    simp only [bind_eq_ok, someOr_eq_ok, bailIf_eq_ok, exists_const, not_or, not_not, exactly_eq_ok,
      fromBytes_eq_ok]
    constructor
    · intro h
      obtain ⟨text, htext, ⟨h64, hdigits⟩, key, hkey, array, rfl, hroot⟩ := h
      have hspells := (fromHex_eq_ok hdigits (by rw [h64])).mp hkey
      obtain ⟨before, after, hbefore, hafter, hbytes⟩ := trim_split whitespace text.bytes
      rw [← hroot] at hspells
      rw [← Text.bytes_of_ofBytes? htext, hbytes]
      exact .hex hbefore hafter hspells
    · intro hfile
      cases hfile with
      | raw => exact absurd (List.Vector.toList_length _) hlength
      | @hex before text after hbefore hafter hspells =>
          obtain ⟨h64, hdigits⟩ := hspells.digits
          rw [List.Vector.toList_length] at h64
          have hne : text ≠ [] := by
            rintro rfl
            cases h64
          have hascii : isUtf8 text = true :=
            isUtf8_of_ascii text fun b hb =>
              isAsciiHexdigit_ascii (List.all_eq_true.mp hdigits b hb)
          have hutf8 : isUtf8 (before ++ (text ++ after)) = true :=
            isUtf8_append (isUtf8_blank hbefore) (isUtf8_append hascii (isUtf8_blank hafter))
          have htext : Text.ofBytes? (before ++ (text ++ after)) =
              some ⟨before ++ (text ++ after), hutf8⟩ := dif_pos hutf8
          have htrim := trim_digits hbefore hafter hdigits hne
          refine ⟨_, htext, ?_, root.publicKey.toList, ?_, root.publicKey, rfl, rfl⟩
          · rw [htrim]
            exact ⟨h64, hdigits⟩
          · rw [htrim]
            exact (fromHex_eq_ok hdigits (by rw [h64])).mpr hspells

end PinnedOmarchyRoot

end OmarchySync
