import Mathlib.Data.List.Lex
import OmarchySync.Wire.Json
import OmarchySync.Trust.Host

/-!
# Capabilities

Grants live in a directory of their own, one file a peer. The store asks for an active pairing
before it grants and never otherwise looks at the pairing records.
-/

namespace OmarchySync

open Logic Wire

/-- Texts are ordered as their bytes are. -/
instance : LinearOrder Text :=
  LinearOrder.lift' (fun t => t.bytes.map UInt8.toNat) fun _ _ h =>
    Text.ext (List.map_injective_iff.mpr (fun _ _ => UInt8.toNat_inj.mp) h)

/-- A `BTreeSet` of strings, as its iterator lists it. -/
structure TextSet where
  elems : List Text
  ordered : elems.Pairwise (· < ·)
  deriving DecidableEq

namespace TextSet

instance : Membership Text TextSet := ⟨fun s t => t ∈ s.elems⟩

instance : EmptyCollection TextSet := ⟨⟨[], .nil⟩⟩

def insertElem (t : Text) : List Text → List Text
  | [] => [t]
  | u :: us => if t < u then t :: u :: us else if t = u then u :: us else u :: insertElem t us

private theorem mem_insertElem (t u : Text) (l : List Text) :
    u ∈ insertElem t l ↔ u = t ∨ u ∈ l := by
  induction l with
  | nil => simp [insertElem]
  | cons v l ih =>
      unfold insertElem
      split_ifs with hlt heq
      · simp
      · subst heq
        simp
      · simp only [List.mem_cons, ih]
        exact or_left_comm

private theorem insertElem_ordered (t : Text) {l : List Text} (h : l.Pairwise (· < ·)) :
    (insertElem t l).Pairwise (· < ·) := by
  induction l with
  | nil => simp [insertElem]
  | cons u l ih =>
      have hu := List.pairwise_cons.mp h
      unfold insertElem
      split_ifs with hlt heq
      · apply List.pairwise_cons.mpr
        refine ⟨?_, h⟩
        intro v hv
        rcases List.mem_cons.mp hv with rfl | hv
        · exact hlt
        · exact hlt.trans (hu.1 v hv)
      · exact h
      · apply List.pairwise_cons.mpr
        refine ⟨?_, ih hu.2⟩
        intro v hv
        rcases (mem_insertElem t v l).mp hv with rfl | hv
        · exact lt_of_le_of_ne (not_lt.mp hlt) (Ne.symm heq)
        · exact hu.1 v hv

def insert (s : TextSet) (t : Text) : TextSet := ⟨insertElem t s.elems, insertElem_ordered t s.ordered⟩

@[simp]
theorem mem_insert (s : TextSet) (t u : Text) : u ∈ s.insert t ↔ u = t ∨ u ∈ s :=
  mem_insertElem t u s.elems

@[simp]
theorem not_mem_empty (t : Text) : t ∉ (∅ : TextSet) := List.not_mem_nil

/-- The set that collects from a list. -/
def ofList (l : List Text) : TextSet := l.foldr (fun t s => s.insert t) ∅

private theorem ofList_elems (s : TextSet) : ofList s.elems = s := by
  obtain ⟨l, h⟩ := s
  induction l with
  | nil => rfl
  | cons t l ih =>
      have ht := List.pairwise_cons.mp h
      have hrest : ofList l = ⟨l, ht.2⟩ := ih ht.2
      have hcons : ofList (t :: l) = (ofList l).insert t := rfl
      rw [hcons, hrest]
      simp only [insert, TextSet.mk.injEq]
      cases l with
      | nil => rfl
      | cons u l => simp [insertElem, ht.1 u (by simp)]

end TextSet

structure CapabilityRecord where
  deviceId : Text
  capabilities : TextSet
  deriving DecidableEq

namespace CapabilityRecord

/-- The stored form, as `serde_json::to_vec_pretty` prints it. -/
def format : Format CapabilityRecord :=
  (Format.block "\x7b\n  \"device_id\": " <|
    Format.string.pair "\n  \"capabilities\": "
    (Format.list Format.string "[\n    " ",\n    " "\n  ]" (fun _ => rfl) rfl rfl)).map
    (fun p => ⟨p.1, .ofList p.2⟩) (fun r => (r.deviceId, r.capabilities.elems))
    fun r => by rw [TextSet.ofList_elems]

def toVecPretty (r : CapabilityRecord) : Bytes := format.print r

example : toVecPretty ⟨⟨ascii "ab", by decide⟩, .ofList [⟨ascii "b", by decide⟩, ⟨ascii "a", by decide⟩]⟩ =
    ascii "\x7b\n  \"device_id\": \"ab\",\n  \"capabilities\": [\n    \"a\",\n    \"b\"\n  ]\n\x7d" := by
  decide

end CapabilityRecord

/-- `serde_json::from_slice`, which reads every JSON form of a record. -/
class CapabilitySerde where
  fromSlice : Bytes → Option CapabilityRecord

/-- Reading inverts writing. -/
class LawfulCapabilitySerde [CapabilitySerde] : Prop where
  fromSlice_toVecPretty : ∀ r : CapabilityRecord, CapabilitySerde.fromSlice r.toVecPretty = some r

attribute [simp] LawfulCapabilitySerde.fromSlice_toVecPretty

@[reducible]
def CapabilityRecord.canonicalSerde : CapabilitySerde where
  fromSlice := format.parseAll

theorem CapabilityRecord.canonicalSerde_lawful : @LawfulCapabilitySerde canonicalSerde :=
  @LawfulCapabilitySerde.mk canonicalSerde format.parseAll_print

/-- Steps on the directory of grants. -/
abbrev GrantM := Traced FsStep Dir

/-- Write a file under a temporary name and move it over the one in place. -/
def writeState (stamp : Stamp) (name : FileName) (bytes : Bytes) : GrantM Unit :=
  let temporary := temporaryName name stamp
  Traced.onFailure
    (do
      let d ← Traced.read
      bailIf ((d.lookup temporary).isSome) "create atomic state file"
      Traced.step .create (·.insert temporary [])
      Traced.step .write (·.insert temporary bytes)
      Traced.step .rename fun d => (d.erase temporary).insert name bytes)
    (do
      let d ← Traced.read
      if (d.lookup temporary).isSome then Traced.step .removeTemporary (·.erase temporary)
      else return ())

namespace CapabilityStore

/-- `u8::is_ascii_alphanumeric`. -/
def isAsciiAlphanumeric (b : UInt8) : Bool :=
  (48 ≤ b && b ≤ 57) || (97 ≤ b && b ≤ 122) || (65 ≤ b && b ≤ 90)

def validateCapability (capability : Text) : Result Unit :=
  bailIf (capability.bytes = [] ∨ capability.len > 64 ∨
    ¬capability.bytes.all fun b => isAsciiAlphanumeric b || b == 46 || b == 45 || b == 95)
    "invalid capability"

def pathFor (deviceId : Text) : Result FileName := do
  bailIf (deviceId.len ≠ 32 ∨ ¬deviceId.bytes.all isAsciiHexdigit) "invalid DeviceID"
  return recordFile deviceId

variable [CapabilitySerde]

def load (d : Dir) (deviceId : Text) : Result (Option TextSet) := do
  let path ← pathFor deviceId
  match d.lookup path with
  | none => return none
  | some bytes =>
      let record ← someOr "malformed capability record" (CapabilitySerde.fromSlice bytes)
      bailIf (record.deviceId ≠ deviceId) "capability record identity mismatch"
      return some record.capabilities

def grantCapability (stamp : Stamp) (hasActivePairing : Text → Text → Result Bool)
    (localDeviceId peerDeviceId capability : Text) : GrantM TextSet := do
  let active ← hasActivePairing localDeviceId peerDeviceId
  bailIf (active = false) "cannot grant capability without an active bilateral pairing"
  validateCapability capability
  let d ← Traced.read
  let stored ← load d peerDeviceId
  let capabilities := (stored.getD ∅).insert capability
  let record : CapabilityRecord := { deviceId := peerDeviceId, capabilities }
  let path ← pathFor peerDeviceId
  writeState stamp path record.toVecPretty
  return capabilities

section Rules

open Traced

omit [CapabilitySerde] in
theorem pathFor_eq_ok {deviceId : Text} {name : FileName} (h : pathFor deviceId = .ok name) :
    name = recordFile deviceId := by
  simp only [pathFor, bind_eq_ok, pure_eq_ok] at h
  obtain ⟨_, -, rfl⟩ := h
  rfl

omit [CapabilitySerde] in
private theorem pathFor_ok {deviceId : Text} (hid : HexId deviceId) :
    pathFor deviceId = .ok (recordFile deviceId) := by
  have hgood := (not_badHexId_iff deviceId).mpr hid
  simp only [badHexId, not_or] at hgood
  simp only [pathFor, bind_eq_ok, bailIf_eq_ok, pure_eq_ok, exists_const, not_or]
  exact ⟨⟨hgood.1, hgood.2.1⟩, trivial⟩

theorem load_none {d : Dir} {deviceId : Text} (hid : HexId deviceId)
    (h : d.lookup (recordFile deviceId) = none) : load d deviceId = .ok none := by
  simp only [load, pathFor_ok hid, ok_bind, h]
  rfl

theorem load_some {d : Dir} {deviceId : Text} {found : TextSet} (hid : HexId deviceId) :
    load d deviceId = .ok (some found) ↔ ∃ bytes, d.lookup (recordFile deviceId) = some bytes ∧
      CapabilitySerde.fromSlice bytes = some ⟨deviceId, found⟩ := by
  simp only [load, pathFor_ok hid, ok_bind]
  cases d.lookup (recordFile deviceId) with
  | none => simp [pure_result]
  | some bytes =>
      simp only [bind_eq_ok, someOr_eq_ok, bailIf_eq_ok, pure_eq_ok, exists_const, not_not,
        Option.some.injEq, exists_eq_left']
      constructor
      · intro h
        obtain ⟨record, hread, rfl, rfl⟩ := h
        exact hread
      · intro h
        exact ⟨_, h, rfl, rfl⟩

variable {stamp : Stamp} {hasActivePairing : Text → Text → Result Bool}
  {localDeviceId peerDeviceId capability : Text} {d : Dir}

/-- What a grant may leave in the file of a device: what was there, or for its own peer the
stored capabilities and the granted one. -/
def Granted (d : Dir) (peerDeviceId capability deviceId : Text) (bytes : Bytes) : Prop :=
  d.lookup (recordFile deviceId) = some bytes ∨
    deviceId = peerDeviceId ∧ ∃ stored, load d peerDeviceId = .ok stored ∧
      bytes = CapabilityRecord.toVecPretty ⟨peerDeviceId, (stored.getD ∅).insert capability⟩

theorem keeps_grantCapability {deviceId : Text} (hid : HexId deviceId) :
    Keeps (fun _ a b => ∀ bytes, b.lookup (recordFile deviceId) = some bytes →
        a.lookup (recordFile deviceId) = some bytes ∨
          Granted d peerDeviceId capability deviceId bytes)
      (grantCapability stamp hasActivePairing localDeviceId peerDeviceId capability)
      (fun _ _ => True) d := by
  have htemp : ∀ name, recordFile deviceId ≠ temporaryName name stamp :=
    fun name => (temporaryName_ne_recordFile name stamp hid).symm
  simp only [grantCapability, keeps_lift_bind, keeps_read_bind, implies_true, and_true]
  intro _ _ _ _ _ _ stored hstored name hname
  obtain rfl := pathFor_eq_ok hname
  have hother : ∀ (a : Dir) content, (a.insert (temporaryName (recordFile peerDeviceId) stamp)
      content).lookup (recordFile deviceId) = a.lookup (recordFile deviceId) :=
    fun a content => AList.lookup_insert_ne (htemp _)
  have herased : ∀ a : Dir, (a.erase (temporaryName (recordFile peerDeviceId) stamp)).lookup
      (recordFile deviceId) = a.lookup (recordFile deviceId) :=
    fun a => AList.lookup_erase_ne (htemp _)
  rw [keeps_bind]
  simp only [writeState, keeps_onFailure, keeps_read_bind, keeps_lift_bind, keeps_step_bind,
    keeps_step, keeps_ite, keeps_pure, hother, herased, implies_true, and_true]
  constructor
  · intro _ _
    refine ⟨fun _ => .inl, fun _ => .inl, ?_⟩
    intro bytes hfile
    by_cases heq : deviceId = peerDeviceId
    · subst heq
      rw [AList.lookup_insert, Option.some.injEq] at hfile
      exact .inr (.inr ⟨rfl, stored, hstored, hfile.symm⟩)
    · have hne : recordFile deviceId ≠ recordFile peerDeviceId := fun hname => heq (recordFile_inj hname)
      rw [AList.lookup_insert_ne hne, herased, hother, hother] at hfile
      exact .inl hfile
  · intro _ _ _ bytes
    exact .inl

end Rules

end CapabilityStore

end OmarchySync
