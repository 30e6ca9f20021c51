import OmarchySync.Logic.Result
import OmarchySync.Wire.Bytes

/-!
# Bounded cursors

A cursor consumes a byte string from the front. Every primitive comes with the exact set
of inputs it accepts, so that a decoder built from them accepts precisely the encodings of
its results.
-/

namespace OmarchySync.Wire

open Logic

/-- The texts a cursor reports. -/
structure Dialect where
  truncated : String
  overLimit : String
  trailing : String
  notUtf8 : String

/-- Decoders over the unread bytes. -/
abbrev Reader := StateT Bytes Result

namespace Reader

variable {α β : Type} {d : Dialect} {bs rest : Bytes}

theorem bind_eq_ok (m : Reader α) (f : α → Reader β) (b : β) :
    (m >>= f) bs = .ok (b, rest) ↔ ∃ a mid, m bs = .ok (a, mid) ∧ f a mid = .ok (b, rest) := by
  change (m bs >>= fun p => f p.1 p.2) = _ ↔ _
  simp

theorem pure_eq_ok (a b : α) : (pure a : Reader α) bs = .ok (b, rest) ↔ a = b ∧ bs = rest := by
  change Except.ok (a, bs) = Except.ok (b, rest) ↔ _
  simp

theorem lift_eq_ok (r : Result α) (a : α) :
    (liftM r : Reader α) bs = .ok (a, rest) ↔ r = .ok a ∧ bs = rest := by
  cases r <;> simp [liftM, monadLift, MonadLift.monadLift, StateT.lift, bind, Except.bind, pure,
    Except.pure]

/-- Read exactly `n` bytes. -/
def take (d : Dialect) (n : Nat) : Reader Bytes := fun bs =>
  if n ≤ bs.length then .ok (bs.take n, bs.drop n) else .error d.truncated

theorem take_eq_ok (n : Nat) (xs : Bytes) :
    take d n bs = .ok (xs, rest) ↔ xs.length = n ∧ bs = xs ++ rest := by
  unfold take
  constructor
  · intro h
    split at h
    next hn =>
      obtain ⟨rfl, rfl⟩ := Prod.mk.inj (Except.ok.inj h)
      exact ⟨by simp [hn], by simp⟩
    next => contradiction
  · rintro ⟨rfl, rfl⟩
    simp

/-- Read a fixed-size array. -/
def takeArray (d : Dialect) (n : Nat) : Reader (Array8 n) := fun bs =>
  if h : n ≤ bs.length then .ok (⟨bs.take n, by simp [h]⟩, bs.drop n) else .error d.truncated

theorem takeArray_eq_ok (n : Nat) (v : Array8 n) :
    takeArray d n bs = .ok (v, rest) ↔ bs = v.toList ++ rest := by
  obtain ⟨xs, hxs⟩ := v
  unfold takeArray
  constructor
  · intro h
    split at h
    next hn =>
      obtain ⟨h₁, rfl⟩ := Prod.mk.inj (Except.ok.inj h)
      have htake : bs.take n = xs := congrArg Subtype.val h₁
      simp [List.Vector.toList, ← htake]
    next => contradiction
  · rintro rfl
    subst hxs
    simp [List.Vector.toList]

/-- Read one byte. -/
def u8 (d : Dialect) : Reader UInt8
  | [] => .error d.truncated
  | b :: bs => .ok (b, bs)

theorem u8_eq_ok (b : UInt8) : u8 d bs = .ok (b, rest) ↔ bs = b :: rest := by
  cases bs <;> simp [u8]

/-- Read a big-endian word of `width` bytes. -/
def word (d : Dialect) (width : Nat) : Reader Nat := do
  return beValue (← take d width)

theorem word_eq_ok (width n : Nat) :
    word d width bs = .ok (n, rest) ↔ n < 256 ^ width ∧ bs = beBytes width n ++ rest := by
  simp only [word, bind_eq_ok, take_eq_ok, pure_eq_ok]
  constructor
  · rintro ⟨xs, mid, ⟨rfl, rfl⟩, rfl, rfl⟩
    exact ⟨beValue_lt xs, by rw [beBytes_beValue]⟩
  · rintro ⟨hn, rfl⟩
    exact ⟨_, rest, ⟨beBytes_length width n, rfl⟩, beValue_beBytes_of_lt width n hn, rfl⟩

/-- Read a 16-bit big-endian word. -/
def u16 (d : Dialect) : Reader UInt16 := do
  return UInt16.ofNat (← word d 2)

theorem u16_eq_ok (x : UInt16) : u16 d bs = .ok (x, rest) ↔ bs = beBytes 2 x.toNat ++ rest := by
  simp only [u16, bind_eq_ok, word_eq_ok, pure_eq_ok]
  constructor
  · rintro ⟨n, mid, ⟨hn, rfl⟩, rfl, rfl⟩
    rw [UInt16.toNat_ofNat_of_lt' hn]
  · rintro rfl
    exact ⟨x.toNat, rest, ⟨x.toNat_lt, rfl⟩, UInt16.ofNat_toNat, rfl⟩

/-- Read a 64-bit big-endian word. -/
def u64 (d : Dialect) : Reader UInt64 := do
  return UInt64.ofNat (← word d 8)

theorem u64_eq_ok (x : UInt64) : u64 d bs = .ok (x, rest) ↔ bs = beBytes 8 x.toNat ++ rest := by
  simp only [u64, bind_eq_ok, word_eq_ok, pure_eq_ok]
  constructor
  · rintro ⟨n, mid, ⟨hn, rfl⟩, rfl, rfl⟩
    rw [UInt64.toNat_ofNat_of_lt' hn]
  · rintro rfl
    exact ⟨x.toNat, rest, ⟨x.toNat_lt, rfl⟩, UInt64.ofNat_toNat, rfl⟩

/-- Read a nonempty field of at most `max` bytes behind its 16-bit length. -/
def bytes (d : Dialect) (max : Nat) : Reader Bytes := do
  let n ← word d 2
  bailIf (n = 0 ∨ n > max) d.overLimit
  take d n

/-- The fields `bytes` reads and `putBytes` writes. -/
def Bounded (max : Nat) (xs : Bytes) : Prop := xs ≠ [] ∧ xs.length ≤ max ∧ xs.length < 65536

instance (max : Nat) (xs : Bytes) : Decidable (Bounded max xs) :=
  inferInstanceAs (Decidable (_ ∧ _ ∧ _))

theorem bytes_eq_ok (max : Nat) (xs : Bytes) :
    bytes d max bs = .ok (xs, rest) ↔
      Bounded max xs ∧ bs = beBytes 2 xs.length ++ (xs ++ rest) := by
  simp only [bytes, bind_eq_ok, word_eq_ok, lift_eq_ok, bailIf_eq_ok, take_eq_ok, Bounded,
    ne_eq, ← List.length_eq_zero_iff]
  constructor
  · rintro ⟨n, mid, ⟨hn, rfl⟩, u, mid', ⟨hlim, rfl⟩, rfl, rfl⟩
    exact ⟨⟨by omega, by omega, hn⟩, rfl⟩
  · rintro ⟨⟨hne, hmax, hlt⟩, rfl⟩
    exact ⟨xs.length, xs ++ rest, ⟨hlt, rfl⟩, (), xs ++ rest, ⟨by omega, rfl⟩, rfl, rfl⟩

/-- Read a bounded field of UTF-8 text. -/
def string (d : Dialect) (max : Nat) : Reader Text := do
  let xs ← bytes d max
  someOr d.notUtf8 (Text.ofBytes? xs)

theorem string_eq_ok (max : Nat) (t : Text) :
    string d max bs = .ok (t, rest) ↔
      Bounded max t.bytes ∧ bs = beBytes 2 t.bytes.length ++ (t.bytes ++ rest) := by
  simp only [string, bind_eq_ok, bytes_eq_ok, lift_eq_ok, someOr_eq_ok]
  constructor
  · rintro ⟨xs, mid, ⟨hb, rfl⟩, ht, rfl⟩
    rw [Text.bytes_of_ofBytes? ht]
    exact ⟨hb, rfl⟩
  · rintro ⟨hb, rfl⟩
    exact ⟨t.bytes, rest, ⟨hb, rfl⟩, Text.ofBytes?_bytes t, rfl⟩

/-- The input is used up. -/
def finish (d : Dialect) : Reader Unit := fun bs =>
  if bs = [] then .ok ((), []) else .error d.trailing

theorem finish_eq_ok (u : Unit) : finish d bs = .ok (u, rest) ↔ bs = [] ∧ rest = [] := by
  unfold finish
  split <;> simp_all [eq_comm]

/-- How many bytes are unread. -/
def remaining : Reader Nat := fun bs => .ok (bs.length, bs)

theorem remaining_eq_ok (n : Nat) : remaining bs = .ok (n, rest) ↔ n = bs.length ∧ rest = bs := by
  simp [remaining, eq_comm]

/-- Run a decoder on a whole message. -/
def run (m : Reader α) (bs : Bytes) : Result α := do
  let (a, _) ← m bs
  return a

theorem run_eq_ok (m : Reader α) (a : α) : run m bs = .ok a ↔ ∃ rest, m bs = .ok (a, rest) := by
  simp only [run, Logic.bind_eq_ok, Prod.exists, Logic.pure_eq_ok]
  constructor
  · rintro ⟨_, rest, h, rfl⟩
    exact ⟨rest, h⟩
  · rintro ⟨rest, h⟩
    exact ⟨a, rest, h, rfl⟩

end Reader

/-- Convert a slice to an array of the given size. -/
def exactly (n : Nat) (message : String) (bs : Bytes) : Result (Array8 n) :=
  if h : bs.length = n then .ok ⟨bs, h⟩ else .error message

@[simp]
theorem exactly_eq_ok (n : Nat) (message : String) (bs : Bytes) (v : Array8 n) :
    exactly n message bs = .ok v ↔ bs = v.toList := by
  unfold exactly
  constructor
  · intro h
    split at h
    · cases h
      rfl
    · contradiction
  · intro h
    subst h
    simp

/-- A bounded field behind its 16-bit length. -/
def putBytes (message : String) (max : Nat) (value : Bytes) : Result Bytes := do
  bailIf (value = [] ∨ value.length > max ∨ value.length > 65535) message
  return beBytes 2 value.length ++ value

theorem putBytes_eq_ok (message : String) (max : Nat) (value out : Bytes) :
    putBytes message max value = .ok out ↔
      Reader.Bounded max value ∧ out = beBytes 2 value.length ++ value := by
  simp only [putBytes, Logic.bind_eq_ok, bailIf_eq_ok, Logic.pure_eq_ok, Reader.Bounded]
  constructor
  · rintro ⟨_, hlim, rfl⟩
    push Not at hlim
    exact ⟨⟨hlim.1, hlim.2.1, by omega⟩, rfl⟩
  · rintro ⟨⟨hne, hmax, hlt⟩, rfl⟩
    exact ⟨(), by push Not; exact ⟨hne, hmax, by omega⟩, rfl⟩

/-- Every value has at most one accepted input, no accepted input continues another one, and
all of them are short. -/
structure Canonical {α : Type} (decode : Bytes → Result α) (max : Nat) : Prop where
  unique : ∀ bytes bytes' a, decode bytes = .ok a → decode bytes' = .ok a → bytes = bytes'
  prefixFree : ∀ bytes more a a', decode bytes = .ok a → decode (bytes ++ more) = .ok a' → more = []
  bounded : ∀ bytes a, decode bytes = .ok a → bytes.length ≤ max

end OmarchySync.Wire
