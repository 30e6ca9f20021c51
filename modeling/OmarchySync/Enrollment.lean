import Mathlib.Logic.Relation
import OmarchySync.Discovery
import OmarchySync.RootKey

/-!
# Enrollment

The pinned root and the device certificate as they are read from the disk. What the checks on the
root key are for is that nobody but root can ever change what they have let through.
-/

namespace OmarchySync

open Logic Wire

/-- An absolute path, innermost name first. -/
abbrev FsPath := List String

def FsPath.display (path : FsPath) : String := "/" ++ "/".intercalate path.reverse

inductive FileKind where
  | regular (content : Bytes)
  | directory
  | symlink
  deriving DecidableEq

/-- What `symlink_metadata` tells of an object, and the content of a file. -/
structure Inode where
  uid : UInt32
  mode : UInt32
  kind : FileKind
  deriving DecidableEq

/-- The objects that paths lead to. A last symbolic link is not followed. -/
abbrev Disk := FsPath → Option Inode

/-- Bits for the group and for others. -/
def writableByOthers : UInt32 := 0o022
def accessibleToOthers : UInt32 := 0o077

def Inode.isFile (i : Inode) : Bool :=
  match i.kind with
  | .regular _ => true
  | _ => false

def Inode.content (i : Inode) : Bytes :=
  match i.kind with
  | .regular content => content
  | _ => []

section RootKey

def rootKeyPolicy (ownerUid mode : UInt32) (regularFile : Bool) : Bool :=
  ownerUid == 0 && regularFile && mode &&& writableByOthers == 0

def rootKeyMetadataIsSecure (metadata : Inode) : Bool :=
  rootKeyPolicy metadata.uid metadata.mode metadata.isFile

/-- The loop over the parents, up to the root directory. -/
def rootControlledParentChain (disk : Disk) : FsPath → Result Bool
  | [] => return true
  | _ :: directory => do
      let metadata ← someOr ("inspect root key parent " ++ FsPath.display directory) (disk directory)
      if metadata.kind ≠ .directory ∨ metadata.uid ≠ 0 ∨ metadata.mode &&& writableByOthers ≠ 0 then
        return false
      else rootControlledParentChain disk directory

variable [Crypto]

def PinnedOmarchyRoot.fromSecurePath (disk : Disk) (path : FsPath) : Result PinnedOmarchyRoot := do
  let metadata ← someOr "inspect Omarchy root key" (disk path)
  bailIf (rootKeyMetadataIsSecure metadata = false)
    "Omarchy root key must be root-owned, regular, non-symlink, and non-writable"
  let controlled ← rootControlledParentChain disk path
  bailIf (controlled = false) "Omarchy root key parent path is not root-controlled"
  let bytes := metadata.content
  bailIf (bytes.length > 4096) "Omarchy root key file is too large"
  PinnedOmarchyRoot.parse bytes

def productionRootKeyPath : FsPath := ["omarchy-root.ed25519", "omarchy-sync", "share", "usr"]

def PinnedOmarchyRoot.fromProductionPath (disk : Disk) : Result PinnedOmarchyRoot :=
  PinnedOmarchyRoot.fromSecurePath disk productionRootKeyPath

end RootKey

section Users

/-- Root alone may change the object. -/
def Inode.Controlled (i : Inode) : Prop := i.uid = 0 ∧ i.mode &&& writableByOthers = 0

/-- What users without privileges can do, the members of every group at once. A change of a
directory's entries may change all that lies below. -/
inductive UserStep (disk : Disk) : Disk → Prop where
  | write {path i} (content : Bytes) (hobject : disk path = some i) (hopen : ¬i.Controlled) :
      UserStep disk (Function.update disk path (some { i with kind := .regular content }))
  | chmod {path i} (mode : UInt32) (hobject : disk path = some i) (howner : i.uid ≠ 0) :
      UserStep disk (Function.update disk path (some { i with mode }))
  | entries {directory i disk'} (hobject : disk directory = some i) (hopen : ¬i.Controlled)
      (helsewhere : ∀ path, ¬(directory <:+ path ∧ path ≠ directory) → disk' path = disk path) :
      UserStep disk disk'
  | behind {link i disk'} (hobject : disk link = some i) (hlink : i.kind ≠ .directory)
      (helsewhere : ∀ path, ¬(link <:+ path ∧ path ≠ link) → disk' path = disk path) :
      UserStep disk disk'

variable {disk disk' : Disk} {path : FsPath} {i : Inode}

/-- The object at the path is root's, and so are all directories above it. -/
structure Guarded (disk : Disk) (path : FsPath) : Prop where
  object : ∀ i, disk path = some i → i.Controlled
  above : ∀ directory, directory <:+ path → directory ≠ path → ∀ i, disk directory = some i →
    i.Controlled ∧ i.kind = .directory

theorem rootControlledParentChain_eq_ok : rootControlledParentChain disk path = .ok true ↔
    ∀ directory, directory <:+ path → directory ≠ path →
      ∃ i, disk directory = some i ∧ i.Controlled ∧ i.kind = .directory := by
  induction path with
  | nil =>
      simp only [rootControlledParentChain, pure_eq_ok, true_iff]
      intro directory hsuffix hne
      exact absurd (List.suffix_nil.mp hsuffix) hne
  | cons name parent ih =>
      -- the directories above are the parent and those above it
      have habove : ∀ directory : FsPath,
          (directory <:+ name :: parent ∧ directory ≠ name :: parent) ↔
          (directory = parent ∨ directory <:+ parent ∧ directory ≠ parent) := by
        intro directory
        rw [List.suffix_cons_iff]
        constructor
        · rintro ⟨heq | hsuffix, hne⟩
          · exact absurd heq hne
          · by_cases heq : directory = parent
            · exact .inl heq
            · exact .inr ⟨hsuffix, heq⟩
        · rintro (rfl | ⟨hsuffix, -⟩)
          · exact ⟨.inr (List.suffix_refl _), fun heq => by simpa using congrArg List.length heq⟩
          · refine ⟨.inr hsuffix, ?_⟩
            rintro rfl
            have hlength := hsuffix.length_le
            rw [List.length_cons] at hlength
            omega
      simp only [rootControlledParentChain, bind_eq_ok, someOr_eq_ok]
      constructor
      · intro h directory hsuffix hne
        obtain ⟨i, hobject, h⟩ := h
        split_ifs at h with hopen
        · cases h
        · simp only [not_or, not_not] at hopen
          rcases (habove directory).mp ⟨hsuffix, hne⟩ with rfl | ⟨hsuffix', hne'⟩
          · exact ⟨i, hobject, ⟨hopen.2.1, hopen.2.2⟩, hopen.1⟩
          · exact ih.mp h directory hsuffix' hne'
      · intro h
        obtain ⟨hsuffix, hne⟩ := (habove parent).mpr (.inl rfl)
        obtain ⟨i, hobject, hcontrolled, hdirectory⟩ := h parent hsuffix hne
        refine ⟨i, hobject, ?_⟩
        rw [if_neg (by simp [hdirectory, hcontrolled.1, hcontrolled.2])]
        apply ih.mpr
        intro directory hsuffix' hne'
        obtain ⟨hsuffix'', hne''⟩ := (habove directory).mpr (.inr ⟨hsuffix', hne'⟩)
        exact h directory hsuffix'' hne''

private theorem Guarded.suffix (h : Guarded disk path) {q : FsPath} (hq : q <:+ path) :
    Guarded disk q := by
  constructor
  · intro i hobject
    by_cases heq : q = path
    · exact h.object i (heq ▸ hobject)
    · exact (h.above q hq heq i hobject).1
  · intro directory hsuffix hne i hobject
    refine h.above directory (hsuffix.trans hq) ?_ i hobject
    rintro rfl
    exact hne (hsuffix.eq_of_length_le hq.length_le)

/-- No user reaches a guarded object. -/
theorem Guarded.step (h : Guarded disk path) (hstep : UserStep disk disk') :
    disk' path = disk path := by
  cases hstep with
  | @write p i content hobject hopen =>
      rw [Function.update_of_ne]
      rintro rfl
      exact hopen (h.object i hobject)
  | @chmod p i mode hobject howner =>
      rw [Function.update_of_ne]
      rintro rfl
      exact howner (h.object i hobject).1
  | @entries directory i _ hobject hopen helsewhere =>
      apply helsewhere
      rintro ⟨hsuffix, hne⟩
      exact hopen (h.above directory hsuffix hne.symm i hobject).1
  | @behind link i _ hobject hlink helsewhere =>
      apply helsewhere
      rintro ⟨hsuffix, hne⟩
      exact hlink (h.above link hsuffix hne.symm i hobject).2

theorem Guarded.run (h : Guarded disk path) (hrun : Relation.ReflTransGen UserStep disk disk') :
    ∀ q, q <:+ path → disk' q = disk q := by
  induction hrun with
  | refl => exact fun q _ => rfl
  | tail _ hstep ih =>
      rename_i disk₁ disk₂ _
      have hguarded : Guarded disk₁ path := by
        constructor
        · intro i hobject
          exact h.object i ((ih path (List.suffix_refl _)).symm.trans hobject)
        · intro directory hsuffix hne i hobject
          exact h.above directory hsuffix hne i ((ih directory hsuffix).symm.trans hobject)
      intro q hq
      rw [(hguarded.suffix hq).step hstep, ih q hq]

end Users

section Pinned

variable [Crypto] {disk disk' : Disk} {path : FsPath} {root : PinnedOmarchyRoot}

private theorem PinnedOmarchyRoot.guarded_of_ok (h : fromSecurePath disk path = .ok root) :
    Guarded disk path := by
  simp only [fromSecurePath, bind_eq_ok, someOr_eq_ok, bailIf_eq_ok, exists_const,
    Bool.not_eq_false] at h
  obtain ⟨i, hobject, hsecure, controlled, hchain, rfl, -⟩ := h
  simp only [rootKeyMetadataIsSecure, rootKeyPolicy, Bool.and_eq_true, beq_iff_eq] at hsecure
  constructor
  · intro j hj
    rw [hobject, Option.some.injEq] at hj
    subst hj
    exact ⟨hsecure.1.1, hsecure.2⟩
  · intro directory hsuffix hne j hj
    obtain ⟨k, hk, hcontrolled⟩ := rootControlledParentChain_eq_ok.mp hchain directory hsuffix hne
    rw [hj, Option.some.injEq] at hk
    exact hk ▸ hcontrolled

omit [Crypto] in
private theorem rootControlledParentChain_congr (hsame : ∀ q, q <:+ path → disk' q = disk q) :
    rootControlledParentChain disk' path = rootControlledParentChain disk path := by
  induction path with
  | nil => rfl
  | cons name parent ih =>
      have hparent : parent <:+ name :: parent := List.suffix_cons ..
      simp only [rootControlledParentChain, hsame parent hparent,
        ih fun q hq => hsame q (hq.trans hparent)]

private theorem PinnedOmarchyRoot.fromSecurePath_run (h : fromSecurePath disk path = .ok root)
    (hrun : Relation.ReflTransGen UserStep disk disk') :
    fromSecurePath disk' path = .ok root := by
  have hsame := (guarded_of_ok h).run hrun
  rw [← h]
  simp only [fromSecurePath, hsame path (List.suffix_refl _), rootControlledParentChain_congr hsame]

end Pinned

section Enrollment

variable [Crypto]

structure Enrollment where
  root : PinnedOmarchyRoot
  certificate : DeviceCertificate

/-- `identity/device-cert.bin` below the state root. -/
def certificatePath (stateRoot : FsPath) : FsPath := "device-cert.bin" :: "identity" :: stateRoot

def loadEnrollment (disk : Disk) (stateRoot : FsPath) (now : UInt64) (identity : DeviceIdentity) :
    Result Enrollment := do
  let root ← labelled "production Omarchy root is not installed: "
    (PinnedOmarchyRoot.fromProductionPath disk)
  let metadata ← someOr "device certificate is not installed" (disk (certificatePath stateRoot))
  bailIf (metadata.isFile = false) "device certificate is not a regular file"
  bailIf (metadata.mode &&& accessibleToOthers ≠ 0) "device certificate is group/world accessible"
  bailIf (metadata.content.length > maxCertificateBytes)
    "device certificate exceeds the 512-byte limit"
  let certificate ← DeviceCertificate.fromBytes metadata.content
  certificate.verify root now
  bailIf (certificate.deviceId ≠ identity.deviceId ∨ certificate.publicKey ≠ identity.publicKey)
    "device certificate does not match the local DeviceIdentity"
  return { root, certificate }

variable {disk disk' : Disk} {stateRoot : FsPath} {now : UInt64} {identity : DeviceIdentity}
  {e : Enrollment}

/-- The certificate is the root's, for this identity. -/
structure Enrollment.Enrolls (e : Enrollment) (identity : DeviceIdentity) : Prop where
  issued : e.certificate.IssuedBy e.root
  deviceId : e.certificate.deviceId = identity.deviceId
  publicKey : e.certificate.publicKey = identity.publicKey

theorem loadEnrollment_ok (h : loadEnrollment disk stateRoot now identity = .ok e) :
    PinnedOmarchyRoot.fromProductionPath disk = .ok e.root ∧ e.Enrolls identity ∧
      e.certificate.ValidAt now := by
  simp only [loadEnrollment, bind_eq_ok, labelled_eq_ok, someOr_eq_ok, bailIf_eq_ok, exists_const,
    pure_eq_ok, DeviceCertificate.verify_eq_ok, not_or, not_not] at h
  obtain ⟨root, hroot, _, -, -, -, -, certificate, -, ⟨hissued, hvalid⟩, ⟨hid, hkey⟩, rfl⟩ := h
  exact ⟨hroot, ⟨hissued, hid, hkey⟩, hvalid⟩

/-- Whatever users do between two starts of the daemon, its root stays accepted, and it enrolls
under no other and for no other identity. -/
theorem loadEnrollment_root (h : loadEnrollment disk stateRoot now identity = .ok e)
    (hrun : Relation.ReflTransGen UserStep disk disk') :
    PinnedOmarchyRoot.fromProductionPath disk' = .ok e.root ∧
      ∀ stateRoot' now' identity' e', loadEnrollment disk' stateRoot' now' identity' = .ok e' →
        e'.root = e.root ∧ e'.Enrolls identity' := by
  have hsame : PinnedOmarchyRoot.fromProductionPath disk' = .ok e.root :=
    PinnedOmarchyRoot.fromSecurePath_run (loadEnrollment_ok h).1 hrun
  refine ⟨hsame, ?_⟩
  intro stateRoot' now' identity' e' h'
  obtain ⟨hroot, henrolls, -⟩ := loadEnrollment_ok h'
  rw [hsame, Except.ok.injEq] at hroot
  exact ⟨hroot.symm, henrolls⟩

end Enrollment

namespace Loopback

attribute [local instance] crypto

/-- Root's directories with its key, and the certificate of the first device. -/
def disk : Disk := fun path =>
  if path = productionRootKeyPath then some ⟨0, 0o644, .regular (keyOf 9).toList⟩
  else if path = certificatePath ["state"] then
    some ⟨1000, 0o600, .regular ((certificate (keyOf 1)).toBytes.toOption.getD [])⟩
  else if path <:+ productionRootKeyPath then some ⟨0, 0o755, .directory⟩
  else none

private theorem disk_root : PinnedOmarchyRoot.fromProductionPath disk = .ok root := by
  have hobject : disk productionRootKeyPath = some ⟨0, 0o644, .regular (keyOf 9).toList⟩ := rfl
  have hchain : rootControlledParentChain disk productionRootKeyPath = .ok true := by
    decide +kernel
  have hfile : KeyFile (keyOf 9) (keyOf 9).toList := .raw
  simp only [PinnedOmarchyRoot.fromProductionPath, PinnedOmarchyRoot.fromSecurePath, hobject,
    hchain, bind_eq_ok, someOr_eq_ok, bailIf_eq_ok, exists_const, Option.some.injEq,
    PinnedOmarchyRoot.parse_eq_ok]
  exact ⟨_, rfl, by decide, true, rfl, by decide, by decide, hfile⟩

theorem disk_enrolls :
    loadEnrollment disk ["state"] 100 ⟨keyOf 1⟩ = .ok ⟨root, certificate (keyOf 1)⟩ := by
  have hobject : disk (certificatePath ["state"]) =
      some ⟨1000, 0o600, .regular ((certificate (keyOf 1)).toBytes.toOption.getD [])⟩ := rfl
  have hparsed : DeviceCertificate.fromBytes ((certificate (keyOf 1)).toBytes.toOption.getD []) =
      .ok (certificate (keyOf 1)) := by decide +kernel
  have hvalid : (certificate (keyOf 1)).verify root 100 = .ok () := by decide +kernel
  simp only [loadEnrollment, disk_root, hobject, bind_eq_ok, labelled_eq_ok, someOr_eq_ok,
    bailIf_eq_ok, exists_const, pure_eq_ok]
  refine ⟨root, rfl, _, rfl, by decide, by decide, by decide +kernel, _, ?_, (), hvalid,
    by decide +kernel, rfl⟩
  simp only [Inode.content]
  exact hparsed

/-- A user shuts the certificate for all and then empties it. -/
theorem loadEnrollment_root_emptied :
    PinnedOmarchyRoot.fromProductionPath (Function.update disk (certificatePath ["state"])
      (some ⟨1000, 0, .regular []⟩)) = .ok root := by
  let held : Inode := ⟨1000, 0o600, .regular ((certificate (keyOf 1)).toBytes.toOption.getD [])⟩
  let shut : Inode := { held with mode := 0 }
  have howner : (1000 : UInt32) ≠ 0 := by decide
  have hheld : disk (certificatePath ["state"]) = some held := rfl
  have hchmod : UserStep disk (Function.update disk (certificatePath ["state"]) (some shut)) :=
    .chmod 0 hheld howner
  have hshut : Function.update disk (certificatePath ["state"]) (some shut)
      (certificatePath ["state"]) = some shut := Function.update_self ..
  have hwrite := UserStep.write [] hshut fun hcontrolled => howner hcontrolled.1
  rw [Function.update_idem] at hwrite
  exact (loadEnrollment_root disk_enrolls (.tail (.single hchmod) hwrite)).1

end Loopback

end OmarchySync
