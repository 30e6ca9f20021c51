import OmarchySync.Wire.Reader

/-!
# Device identities

The permanent Ed25519 identity of an installation. The signature scheme and the hash come
from libraries outside the repository and are parameters.
-/

namespace OmarchySync

open Logic Wire

/-- Ed25519 with strict verification, and SHA-256. -/
class Crypto where
  SigningKey : Type
  verifyingKey : SigningKey → Array8 32
  sign : SigningKey → Bytes → Array8 64
  /-- The byte strings `VerifyingKey::from_bytes` decodes. -/
  validKey : Array8 32 → Bool
  verifyStrict : Array8 32 → Bytes → Array8 64 → Bool
  sha256 : Bytes → Array8 32

/-- What the signature library promises of keys it generated itself. -/
class LawfulCrypto [Crypto] : Prop where
  validKey_verifyingKey (key : Crypto.SigningKey) :
    Crypto.validKey (Crypto.verifyingKey key) = true
  verifyStrict_sign (key : Crypto.SigningKey) (message : Bytes) :
    Crypto.verifyStrict (Crypto.verifyingKey key) message (Crypto.sign key message) = true

attribute [simp] LawfulCrypto.validKey_verifyingKey LawfulCrypto.verifyStrict_sign

/-- `u8::is_ascii_hexdigit`. -/
def isAsciiHexdigit (b : UInt8) : Bool :=
  (48 ≤ b && b ≤ 57) || (97 ≤ b && b ≤ 102) || (65 ≤ b && b ≤ 70)

/-- `u8::is_ascii_uppercase`. -/
def isAsciiUppercase (b : UInt8) : Bool := 65 ≤ b && b ≤ 90

/-- The shape every DeviceID and PairID check rejects. -/
def badHexId (id : Text) : Prop :=
  id.len ≠ 32 ∨ ¬id.bytes.all isAsciiHexdigit ∨ id.bytes.any isAsciiUppercase

instance (id : Text) : Decidable (badHexId id) := inferInstanceAs (Decidable (_ ∨ _ ∨ _))

/-- The well-formed identifiers: 32 lowercase hexadecimal digits. -/
def HexId (id : Text) : Prop := id.len = 32 ∧ ∀ b ∈ id.bytes, IsLowerHex b

private theorem isLowerHex_iff (b : UInt8) :
    IsLowerHex b ↔ isAsciiHexdigit b = true ∧ isAsciiUppercase b = false := by
  simp only [IsLowerHex, isAsciiHexdigit, isAsciiUppercase, Bool.or_eq_true, Bool.and_eq_true,
    decide_eq_true_eq, Bool.and_eq_false_iff, decide_eq_false_iff_not, UInt8.le_iff_toNat_le]
  simp only [UInt8.toNat_ofNat]
  omega

theorem not_badHexId_iff (id : Text) : ¬badHexId id ↔ HexId id := by
  simp only [badHexId, HexId, not_or, not_not, List.all_eq_true, Bool.not_eq_true,
    List.any_eq_false, isLowerHex_iff]
  constructor
  · rintro ⟨hlen, hhex, hupper⟩
    exact ⟨hlen, fun b hb => ⟨hhex b hb, by simpa using hupper b hb⟩⟩
  · rintro ⟨hlen, h⟩
    exact ⟨hlen, fun b hb => (h b hb).1, fun b hb => by simpa using (h b hb).2⟩

/-- Lowercase hexadecimal rendering of sixteen bytes is a well-formed identifier. -/
theorem hexId_hexText (bs : Bytes) (h : bs.length = 16) : HexId (hexText bs) := by
  refine ⟨?_, hexBytes_isLowerHex bs⟩
  simp [Text.len, hexText, h]

variable [Crypto]

/-- The installation's permanent Ed25519 identity. -/
structure DeviceIdentity where
  signingKey : Crypto.SigningKey

/-- The compact stable DeviceID of an Ed25519 public key. -/
def deviceIdForPublicKey (publicKey : Array8 32) : Text :=
  hexText ((Crypto.sha256 publicKey.toList).toList.take 16)

@[simp]
theorem deviceIdForPublicKey_hexId (publicKey : Array8 32) :
    HexId (deviceIdForPublicKey publicKey) :=
  hexId_hexText _ (by simp)

namespace DeviceIdentity

def publicKey (identity : DeviceIdentity) : Array8 32 := Crypto.verifyingKey identity.signingKey

def deviceId (identity : DeviceIdentity) : Text := deviceIdForPublicKey identity.publicKey

def sign (identity : DeviceIdentity) (message : Bytes) : Array8 64 :=
  Crypto.sign identity.signingKey message

end DeviceIdentity

/-- `VerifyingKey::from_bytes(key)?.verify_strict(message, signature)` under one context. -/
def verifyWithKey (invalid : String) (key : Array8 32) (message : Bytes) (signature : Array8 64) :
    Result Unit := do
  bailIf (Crypto.validKey key = false) "Cannot decompress Edwards point"
  bailIf (Crypto.verifyStrict key message signature = false) invalid

@[simp]
theorem verifyWithKey_eq_ok (invalid : String) (key : Array8 32) (message : Bytes)
    (signature : Array8 64) (u : Unit) :
    verifyWithKey invalid key message signature = .ok u ↔
      Crypto.validKey key = true ∧ Crypto.verifyStrict key message signature = true := by
  simp [verifyWithKey]

end OmarchySync
