import Mathlib.Data.List.AList
import OmarchySync.Logic.Traced
import OmarchySync.Signing

/-!
# The state of a host

The three pairing directories and a journal of what the user approved and the identity key
signed. The journal is history only: no operation reads it. Operations act through atomic
steps, and an interruption may stop them after any of these.
-/

namespace OmarchySync

open Logic Wire

abbrev FileName := Bytes

/-- A directory of regular files. -/
abbrev Dir := AList fun _ : FileName => Bytes

inductive Folder where
  | active
  | pending
  | revoked
  deriving DecidableEq

inductive Event where
  | approved (peer : DeviceCertificate)
  | signed (signing : Signing)
  deriving DecidableEq

structure Host where
  trust : Folder → Dir
  journal : List Event

/-- The atomic steps of the store. -/
inductive FsStep where
  | approve
  | sign
  | create
  | write
  | rename
  | removeTemporary
  | removePending
  | revoke
  deriving DecidableEq

/-- The order in which `fs::read_dir` lists a directory. -/
structure ReadDir where
  enumerate : Dir → List FileName
  perm : ∀ d, (enumerate d).Perm d.keys

/-- The process id and the clock reading that name a temporary file. -/
structure Stamp where
  pid : UInt32
  nanos : Nat

def recordFile (pairId : Text) : FileName := pairId.bytes ++ ascii ".json"

def temporaryName (name : FileName) (stamp : Stamp) : FileName :=
  46 :: (name ++ (ascii ".tmp-" ++ (decimal 10 stamp.pid.toNat ++
    (45 :: decimal 39 stamp.nanos))))

/-- `Path::file_stem`: the name up to its last dot, if something stands before it. -/
def fileStem (name : FileName) : FileName :=
  let extension := name.reverse.takeWhile (· ≠ 46)
  let before := name.take (name.length - extension.length - 1)
  if name = ascii ".." ∨ before = [] ∨ extension.length = name.length then name else before

theorem recordFile_inj {p q : Text} (h : recordFile p = recordFile q) : p = q :=
  Text.ext (List.append_cancel_right h)

theorem temporaryName_ne_recordFile (name : FileName) (stamp : Stamp) {p : Text}
    (hp : HexId p) : temporaryName name stamp ≠ recordFile p := by
  intro h
  have hlen : p.bytes.length = 32 := hp.1
  cases hbytes : p.bytes with
  | nil => simp [hbytes] at hlen
  | cons b bs =>
      simp only [temporaryName, recordFile, hbytes, List.cons_append, List.cons.injEq] at h
      have hhex := hp.2 b (by simp [hbytes])
      rw [← h.1] at hhex
      exact absurd hhex (by decide)

theorem fileStem_recordFile {p : Text} (hp : HexId p) : fileStem (recordFile p) = p.bytes := by
  have hlen : p.bytes.length = 32 := hp.1
  have hext : (recordFile p).reverse.takeWhile (· ≠ 46) = [110, 111, 115, 106] := by
    have hrev : (recordFile p).reverse = 110 :: 111 :: 115 :: 106 :: 46 :: p.bytes.reverse := by
      simp [recordFile, ascii]
    rw [hrev]
    simp
  have hdots : recordFile p ≠ ascii ".." := by
    intro h
    have hcount := congrArg List.length h
    simp [recordFile, hlen, ascii] at hcount
  have hne : p.bytes ≠ [] := by
    intro h
    simp [h] at hlen
  have htotal : (recordFile p).length = 37 := by
    simp [recordFile, hlen, ascii]
  have htake : (recordFile p).take (37 - 4 - 1) = p.bytes := by
    rw [show 37 - 4 - 1 = p.bytes.length by omega]
    exact List.take_left
  simp only [fileStem, hext, htotal, List.length_cons, List.length_nil, htake, hdots, hne]
  simp

namespace Host

/-- The contents of a file. -/
def file (h : Host) (folder : Folder) (name : FileName) : Option Bytes :=
  (h.trust folder).lookup name

def names (h : Host) (folder : Folder) : List FileName := (h.trust folder).keys

def put (h : Host) (folder : Folder) (name : FileName) (bytes : Bytes) : Host :=
  { h with trust := Function.update h.trust folder ((h.trust folder).insert name bytes) }

def drop (h : Host) (folder : Folder) (name : FileName) : Host :=
  { h with trust := Function.update h.trust folder ((h.trust folder).erase name) }

/-- Move a file, replacing any file under the new name. -/
def rename (h : Host) (source : Folder) (name : FileName) (target : Folder)
    (name' : FileName) : Host :=
  match h.file source name with
  | none => h
  | some bytes => (h.drop source name).put target name' bytes

def log (h : Host) (event : Event) : Host := { h with journal := h.journal ++ [event] }

/-- No directory holds a file. -/
def empty : Host := ⟨fun _ => ∅, []⟩

theorem mem_names (h : Host) (folder : Folder) (name : FileName) :
    name ∈ h.names folder ↔ (h.file folder name).isSome :=
  AList.lookup_isSome.symm

@[simp]
theorem file_empty (folder : Folder) (name : FileName) : empty.file folder name = none :=
  AList.lookup_empty name

theorem file_put (h : Host) (folder folder' : Folder) (name name' : FileName) (bytes : Bytes) :
    (h.put folder name bytes).file folder' name' =
      if folder' = folder ∧ name' = name then some bytes else h.file folder' name' := by
  by_cases hf : folder' = folder
  · subst hf
    by_cases hn : name' = name
    · subst hn
      simp [file, put]
    · simp [file, put, hn, AList.lookup_insert_ne]
  · simp [file, put, hf]

theorem file_drop (h : Host) (folder folder' : Folder) (name name' : FileName) :
    (h.drop folder name).file folder' name' =
      if folder' = folder ∧ name' = name then none else h.file folder' name' := by
  by_cases hf : folder' = folder
  · subst hf
    by_cases hn : name' = name
    · subst hn
      simp [file, drop]
    · simp [file, drop, hn, AList.lookup_erase_ne]
  · simp [file, drop, hf]

theorem rename_of_file {h : Host} {source : Folder} {name : FileName} {bytes : Bytes}
    (hfile : h.file source name = some bytes) (target : Folder) (name' : FileName) :
    h.rename source name target name' = (h.drop source name).put target name' bytes := by
  simp [rename, hfile]

theorem file_rename_target {h : Host} {source : Folder} {name : FileName} {bytes : Bytes}
    (hfile : h.file source name = some bytes) (target : Folder) (name' : FileName) :
    (h.rename source name target name').file target name' = some bytes := by
  rw [rename_of_file hfile, file_put, if_pos ⟨rfl, rfl⟩]

theorem file_rename_source {h : Host} {source : Folder} {name : FileName} {bytes : Bytes}
    (hfile : h.file source name = some bytes) {target : Folder} {name' : FileName}
    (hne : ¬(source = target ∧ name = name')) :
    (h.rename source name target name').file source name = none := by
  rw [rename_of_file hfile, file_put, if_neg hne, file_drop, if_pos ⟨rfl, rfl⟩]

theorem file_rename_ne {h : Host} {source : Folder} {name : FileName} {bytes : Bytes}
    (hfile : h.file source name = some bytes) {target folder : Folder} {name' name'' : FileName}
    (hsource : ¬(folder = source ∧ name'' = name)) (htarget : ¬(folder = target ∧ name'' = name')) :
    (h.rename source name target name').file folder name'' = h.file folder name'' := by
  rw [rename_of_file hfile, file_put, if_neg htarget, file_drop, if_neg hsource]

@[simp]
theorem file_log (h : Host) (event : Event) (folder : Folder) (name : FileName) :
    (h.log event).file folder name = h.file folder name :=
  rfl

@[simp]
theorem journal_log (h : Host) (event : Event) : (h.log event).journal = h.journal ++ [event] :=
  rfl

@[simp]
theorem journal_put (h : Host) (folder : Folder) (name : FileName) (bytes : Bytes) :
    (h.put folder name bytes).journal = h.journal :=
  rfl

@[simp]
theorem journal_drop (h : Host) (folder : Folder) (name : FileName) :
    (h.drop folder name).journal = h.journal :=
  rfl

@[simp]
theorem journal_rename (h : Host) (source target : Folder) (name name' : FileName) :
    (h.rename source name target name').journal = h.journal := by
  unfold rename
  split <;> rfl

end Host

theorem ReadDir.mem_enumerate (order : ReadDir) (h : Host) (folder : Folder) (name : FileName) :
    name ∈ order.enumerate (h.trust folder) ↔ (h.file folder name).isSome := by
  rw [(order.perm _).mem_iff]
  exact h.mem_names folder name

/-- Store operations. -/
abbrev StoreM := Traced FsStep Host

/-- `fs::remove_file` on a file that may be missing, ignoring the failure. -/
def removeTemporary (folder : Folder) (name : FileName) : StoreM Unit := do
  let h ← Traced.read
  if (h.file folder name).isSome then Traced.step .removeTemporary (·.drop folder name)
  else return ()

/-- Write a file under a temporary name in its own directory and move it into place. -/
def writeAtomic (stamp : Stamp) (folder : Folder) (name : FileName) (bytes : Bytes) :
    StoreM Unit :=
  let temporary := temporaryName name stamp
  Traced.onFailure
    (do
      let h ← Traced.read
      bailIf ((h.file folder temporary).isSome) "create pairing record"
      Traced.step .create (·.put folder temporary [])
      Traced.step .write (·.put folder temporary bytes)
      let h ← Traced.read
      bailIf ((h.file folder name).isSome) "pairing record appeared during write"
      Traced.step .rename (·.rename folder temporary folder name))
    (removeTemporary folder temporary)

section Rules

open Traced

variable {R : FsStep → Host → Host → Prop} {Q : Result Unit → Host → Prop} {h : Host}

theorem keeps_removeTemporary (folder : Folder) (name : FileName)
    (hdrop : (h.file folder name).isSome → R .removeTemporary h (h.drop folder name) ∧
      Q (.ok ()) (h.drop folder name))
    (hnone : h.file folder name = none → Q (.ok ()) h) :
    Keeps R (removeTemporary folder name) Q h := by
  simp only [removeTemporary, keeps_read_bind, keeps_ite, keeps_step, keeps_pure]
  exact ⟨hdrop, fun hfile => hnone (Option.not_isSome_iff_eq_none.mp hfile)⟩

/-- The two hosts differ at most in one file. -/
def Host.AgreeExcept (h g : Host) (folder : Folder) (name : FileName) : Prop :=
  g.journal = h.journal ∧
    ∀ folder' name', ¬(folder' = folder ∧ name' = name) → g.file folder' name' = h.file folder' name'

/-- Rule for an atomic write: the temporary file comes and goes, and the rename happens only
while the name is free. -/
theorem keeps_writeAtomic (stamp : Stamp) (folder : Folder) (name : FileName) (bytes : Bytes)
    (hstage : ∀ g l content, l = .create ∧ content = [] ∨ l = .write ∧ content = bytes →
      R l g (g.put folder (temporaryName name stamp) content))
    (hunstage : ∀ g, h.AgreeExcept g folder (temporaryName name stamp) →
      R .removeTemporary g (g.drop folder (temporaryName name stamp)))
    (hcommit : ∀ g, h.AgreeExcept g folder (temporaryName name stamp) →
      g.file folder (temporaryName name stamp) = some bytes → g.file folder name = none →
      R .rename g (g.rename folder (temporaryName name stamp) folder name) ∧
        Q (.ok ()) (g.rename folder (temporaryName name stamp) folder name))
    (herror : ∀ e g, h.AgreeExcept g folder (temporaryName name stamp) →
      g.file folder (temporaryName name stamp) = none → Q (.error e) g) :
    Keeps R (writeAtomic stamp folder name bytes) Q h := by
  have hagree : ∀ content, h.AgreeExcept (h.put folder (temporaryName name stamp) content) folder
      (temporaryName name stamp) :=
    fun content => ⟨rfl, fun f n hne => by rw [Host.file_put, if_neg hne]⟩
  have hcleanup : ∀ e g, h.AgreeExcept g folder (temporaryName name stamp) →
      Keeps R (removeTemporary folder (temporaryName name stamp)) (fun _ u => Q (.error e) u) g := by
    intro e g hg
    apply keeps_removeTemporary
    · intro _
      refine ⟨hunstage g hg, herror e _ ⟨hg.1, ?_⟩ ?_⟩
      · intro f n hne
        rw [Host.file_drop, if_neg hne]
        exact hg.2 f n hne
      · rw [Host.file_drop, if_pos ⟨rfl, rfl⟩]
    · exact herror e g hg
  have hwritten : h.AgreeExcept ((h.put folder (temporaryName name stamp) []).put folder
      (temporaryName name stamp) bytes) folder (temporaryName name stamp) := by
    refine ⟨rfl, fun f n hne => ?_⟩
    rw [Host.file_put, if_neg hne]
    exact (hagree []).2 f n hne
  simp only [writeAtomic, keeps_onFailure, keeps_read_bind, keeps_lift_bind, keeps_step_bind,
    keeps_step, bailIf_eq_ok, Bool.not_eq_true, Option.isSome_eq_false_iff, Option.isNone_iff_eq_none]
  refine ⟨fun _ _ => ⟨hstage _ _ _ (.inl ⟨rfl, rfl⟩), hstage _ _ _ (.inr ⟨rfl, rfl⟩), ?_, ?_⟩, ?_⟩
  · intro _ hfree
    exact hcommit _ hwritten (by rw [Host.file_put, if_pos ⟨rfl, rfl⟩]) hfree
  · intro e _
    exact hcleanup e _ hwritten
  · intro e _
    exact hcleanup e _ ⟨rfl, fun _ _ _ => rfl⟩

end Rules

end OmarchySync
