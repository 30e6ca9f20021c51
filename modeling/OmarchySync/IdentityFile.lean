import OmarchySync.Loopback
import OmarchySync.Trust.Host

/-!
# The identity on disk

The private key is made once, under a temporary name, and moved into place. Calls may fail at
any system call and may be interrupted between any two.
-/

namespace OmarchySync

open Logic Wire

def identityDirMode : UInt32 := 0o700
def privateKeyMode : UInt32 := 0o600

/-- What a name leads to. A symbolic link may lead to nothing. -/
inductive Node where
  | file (mode : UInt32) (content : Bytes)
  | directory
  | link (dangling : Bool)
  deriving DecidableEq

/-- `state_root/identity`; it has no mode as long as it does not exist. -/
structure IdentityDirectory where
  mode : Option UInt32
  nodes : FileName → Option Node

/-- The system calls that may fail. -/
inductive SystemCall where
  | exists
  | createDirectory
  | restrictDirectory
  | inspect
  | restrictKey
  | read
  | createParent
  | restrictParent
  | openTemporary
  | write
  | sync
  | rename
  | openDirectory
  | syncDirectory
  | removeTemporary
  deriving DecidableEq

/-- What one call takes from the operating system: the error texts of its system calls, how far
a write gets at first, and the rest. -/
structure IdentityEnv where
  fault : SystemCall → Option String
  written : ℕ
  random : Result (Array8 32)
  umask : UInt32
  stamp : Stamp

def keyName : FileName := ascii "identity.ed25519"

namespace IdentityDirectory

def create (d : IdentityDirectory) (umask : UInt32) : IdentityDirectory :=
  { d with mode := some (d.mode.getD (0o777 &&& ~~~umask)) }

def restrict (d : IdentityDirectory) : IdentityDirectory := { d with mode := some identityDirMode }

def put (d : IdentityDirectory) (name : FileName) (node : Node) : IdentityDirectory :=
  { d with nodes := Function.update d.nodes name (some node) }

def drop (d : IdentityDirectory) (name : FileName) : IdentityDirectory :=
  { d with nodes := Function.update d.nodes name none }

/-- `fs::set_permissions` on a regular file. -/
def chmod (d : IdentityDirectory) (name : FileName) (mode : UInt32) : IdentityDirectory :=
  match d.nodes name with
  | some (.file _ content) => d.put name (.file mode content)
  | _ => d

/-- Move an object, replacing what is under the new name. -/
def rename (d : IdentityDirectory) (name name' : FileName) : IdentityDirectory :=
  match d.nodes name with
  | none => d
  | some node => (d.drop name).put name' node

/-- `Path::exists`, which follows a last link. -/
def leads (d : IdentityDirectory) (name : FileName) : Bool :=
  match d.nodes name with
  | none => false
  | some (.link dangling) => !dangling
  | some _ => true

def isFile (d : IdentityDirectory) (name : FileName) : Bool :=
  match d.nodes name with
  | some (.file ..) => true
  | _ => false

def content (d : IdentityDirectory) (name : FileName) : Bytes :=
  match d.nodes name with
  | some (.file _ content) => content
  | _ => []

end IdentityDirectory

abbrev IdentityM := Traced SystemCall IdentityDirectory

def IdentityEnv.attempt (env : IdentityEnv) (call : SystemCall) : Result Unit :=
  match env.fault call with
  | none => .ok ()
  | some e => .error e

/-- A system call that changes the directory unless it fails. -/
def IdentityEnv.perform (env : IdentityEnv) (call : SystemCall)
    (f : IdentityDirectory → IdentityDirectory) : IdentityM Unit := do
  env.attempt call
  Traced.step call f

section Operations

variable (env : IdentityEnv)

/-- The mode of a new file. -/
def IdentityEnv.openMode : UInt32 := privateKeyMode &&& ~~~env.umask

/-- `fs::remove_file`, ignoring its failure. -/
def discard (name : FileName) : IdentityM Unit := do
  let d ← Traced.read
  if env.fault .removeTemporary = none ∧ (d.nodes name).isSome then
    Traced.step .removeTemporary (·.drop name)
  else return ()

/-- What `write_atomic` does under the temporary name. -/
def installKey (temporary : FileName) (bytes : Bytes) : IdentityM Unit := do
  let d ← Traced.read
  bailIf ((d.nodes temporary).isSome) "create atomic state file"
  context "create atomic state file" (env.attempt .openTemporary)
  Traced.step .openTemporary (·.put temporary (.file env.openMode []))
  -- `write_all` may stop on the way
  Traced.step .write (·.put temporary (.file env.openMode (bytes.take env.written)))
  env.perform .write (·.put temporary (.file env.openMode bytes))
  env.attempt .sync
  let d ← Traced.read
  bailIf (d.nodes keyName = some .directory) "Is a directory (os error 21)"
  env.perform .rename (·.rename temporary keyName)
  env.attempt .openDirectory
  env.attempt .syncDirectory

/-- `write_atomic` on the private key. -/
def writeKey (bytes : Bytes) : IdentityM Unit := do
  env.perform .createParent (·.create env.umask)
  env.perform .restrictParent (·.restrict)
  let temporary := temporaryName keyName env.stamp
  Traced.onFailure (installKey env temporary bytes) (discard env temporary)

def privateBytes (bytes : Bytes) : Result (Array8 32) :=
  if h : bytes.length = 32 then .ok ⟨bytes, h⟩
  else .error "malformed device identity: expected 32 bytes"

/-- The branch of a key that is there. -/
def existingKey : IdentityM (Array8 32) := do
  context "inspect device identity" (env.attempt .inspect)
  let d ← Traced.read
  bailIf (d.isFile keyName = false) "device identity is not a regular file"
  env.perform .restrictKey (·.chmod keyName privateKeyMode)
  context "read device identity" (env.attempt .read)
  let d ← Traced.read
  privateBytes (d.content keyName)

/-- The branch of a key that is missing. -/
def newKey : IdentityM (Array8 32) := do
  let key ← env.random
  writeKey env key.toList
  return key

/-- The bytes of the private key, as `load_or_create` finds or makes them. A failing `stat` looks
like a missing key. -/
def loadOrCreateKey : IdentityM (Array8 32) := do
  env.perform .createDirectory (·.create env.umask)
  env.perform .restrictDirectory (·.restrict)
  let d ← Traced.read
  if env.fault .exists = none ∧ d.leads keyName = true then existingKey env else newKey env

end Operations

theorem privateBytes_eq_ok (bytes : Bytes) (key : Array8 32) :
    privateBytes bytes = .ok key ↔ bytes = key.toList := by
  unfold privateBytes
  split
  next h =>
    constructor
    · intro heq
      cases heq
      rfl
    · rintro rfl
      rfl
  next h =>
    constructor
    · intro heq
      cases heq
    · rintro rfl
      exact absurd key.toList_length h

section Steps

open Traced IdentityDirectory

variable {env : IdentityEnv} {d e : IdentityDirectory}

/-- The file holds the key. -/
def IdentityDirectory.Holds (d : IdentityDirectory) (key : Array8 32) : Prop :=
  ∃ mode, d.nodes keyName = some (.file mode key.toList)

/-- Nobody but the user may touch the file. -/
def OwnerOnly (mode : UInt32) : Prop := mode &&& 0o077 = 0

/-- What a call can do to the directory. The key moves into place only where nothing is. -/
inductive IdentityStep (env : IdentityEnv) (d : IdentityDirectory) :
    IdentityDirectory → Prop where
  | directory (mode : Option UInt32) : IdentityStep env d { d with mode }
  | restrictKey : IdentityStep env d (d.chmod keyName privateKeyMode)
  | stage (content : Bytes) :
      IdentityStep env d (d.put (temporaryName keyName env.stamp) (.file env.openMode content))
  | commit (key : Array8 32) (hfree : d.leads keyName = false)
      (hstaged : d.nodes (temporaryName keyName env.stamp) = some (.file env.openMode key.toList)) :
      IdentityStep env d (d.rename (temporaryName keyName env.stamp) keyName)
  | unstage : IdentityStep env d (d.drop (temporaryName keyName env.stamp))

private theorem temporaryName_ne_keyName (name : FileName) (stamp : Stamp) :
    temporaryName name stamp ≠ keyName := by
  intro h
  have hfirst := congrArg List.head? h
  simp only [temporaryName, List.head?_cons] at hfirst
  revert hfirst
  decide

section Names

variable (node : Node) (stamp : Stamp)

private theorem put_nodes (name name' : FileName) :
    (d.put name node).nodes name' = if name' = name then some node else d.nodes name' :=
  Function.update_apply ..

private theorem drop_nodes (name name' : FileName) :
    (d.drop name).nodes name' = if name' = name then none else d.nodes name' :=
  Function.update_apply ..

@[simp]
theorem put_nodes_self (name : FileName) : (d.put name node).nodes name = some node :=
  Function.update_self ..

@[simp]
theorem put_nodes_key :
    (d.put (temporaryName keyName stamp) node).nodes keyName = d.nodes keyName :=
  Function.update_of_ne (Ne.symm (temporaryName_ne_keyName keyName stamp)) (some node) d.nodes

@[simp]
theorem drop_nodes_key : (d.drop (temporaryName keyName stamp)).nodes keyName = d.nodes keyName :=
  Function.update_of_ne (Ne.symm (temporaryName_ne_keyName keyName stamp)) none d.nodes

@[simp]
theorem leads_put :
    (d.put (temporaryName keyName stamp) node).leads keyName = d.leads keyName := by
  rw [leads, put_nodes_key, leads]

end Names

private theorem rename_of_node {node : Node} {name : FileName} (h : d.nodes name = some node)
    (name' : FileName) : d.rename name name' = (d.drop name).put name' node := by
  simp only [rename, h]

private theorem ownerOnly_privateKeyMode : OwnerOnly privateKeyMode := by
  unfold OwnerOnly
  decide

private theorem ownerOnly_openMode (env : IdentityEnv) : OwnerOnly env.openMode := by
  unfold OwnerOnly IdentityEnv.openMode privateKeyMode
  rw [UInt32.and_assoc, UInt32.and_comm (~~~env.umask), ← UInt32.and_assoc]
  exact UInt32.zero_and

section Rules

variable {R : SystemCall → IdentityDirectory → IdentityDirectory → Prop} {α : Type}
  {Q : Result α → IdentityDirectory → Prop} {f : Unit → IdentityM α}

theorem attempt_eq_ok (call : SystemCall) (u : Unit) :
    env.attempt call = .ok u ↔ env.fault call = none := by
  unfold IdentityEnv.attempt
  cases env.fault call <;> simp

private theorem attempt_eq_error (call : SystemCall) (text : String) :
    env.attempt call = .error text ↔ env.fault call = some text := by
  unfold IdentityEnv.attempt
  cases env.fault call <;> simp

private theorem keeps_perform_bind (call : SystemCall) (g : IdentityDirectory → IdentityDirectory) :
    Keeps R (env.perform call g >>= f) Q d ↔
      (env.fault call = none → R call d (g d) ∧ Keeps R (f ()) Q (g d)) ∧
        ∀ text, env.fault call = some text → Q (.error text) d := by
  rw [keeps_bind, IdentityEnv.perform, keeps_lift_bind]
  simp only [keeps_step, attempt_eq_ok, attempt_eq_error, forall_const]

end Rules

/-- Nothing is in the way of a call: no fault, and a temporary name that is free. -/
structure Smooth (env : IdentityEnv) (d : IdentityDirectory) : Prop where
  faultless : ∀ call, env.fault call = none
  random : ∃ key, env.random = .ok key
  fresh : d.nodes (temporaryName keyName env.stamp) = none

/-- A key can be made here, or read. -/
def IdentityDirectory.Usable (d : IdentityDirectory) : Prop :=
  d.leads keyName = false ∨ ∃ key, d.Holds key

/-- How a call may end that returns a key: it is the one on the disk, for the user alone. -/
structure IdentityDirectory.Secures (d : IdentityDirectory) (key : Array8 32) : Prop where
  file : ∃ mode, OwnerOnly mode ∧ d.nodes keyName = some (.file mode key.toList)
  directory : d.mode = some identityDirMode

private theorem discard_keeps (Q : IdentityDirectory → Prop) (hkept : Q d)
    (hdropped : Q (d.drop (temporaryName keyName env.stamp))) :
    Keeps (fun _ => IdentityStep env) (discard env (temporaryName keyName env.stamp))
      (fun _ t => Q t) d := by
  simp only [discard, keeps_read_bind, keeps_ite, keeps_step, keeps_pure]
  exact ⟨fun _ => ⟨.unstage, hdropped⟩, fun _ => hkept⟩

private theorem Smooth.no_fault (h : Smooth env d) {call : SystemCall} {text : String} :
    env.fault call ≠ some text := by
  rw [h.faultless call]
  rintro ⟨⟩

variable {key : Array8 32}

private theorem keeps_installKey (hfree : d.leads keyName = false) :
    Keeps (fun _ => IdentityStep env)
      (installKey env (temporaryName keyName env.stamp) key.toList)
      (fun r t => match r with
        | .ok _ => t.nodes keyName = some (.file env.openMode key.toList) ∧ t.mode = d.mode
        | .error _ => ¬Smooth env d) d := by
  have hfault : ∀ call text, env.fault call = some text → ¬Smooth env d :=
    fun call text hcall hsmooth => hsmooth.no_fault hcall
  have hattempt : ∀ call text, env.attempt call = .error text → ¬Smooth env d :=
    fun call text hcall => hfault call text ((attempt_eq_error call text).mp hcall)
  have hdirectory : d.nodes keyName ≠ some .directory := by
    intro hnode
    simp [leads, hnode] at hfree
  simp only [installKey, keeps_read_bind, keeps_lift_bind, keeps_step_bind, keeps_perform_bind,
    keeps_lift, bailIf_eq_ok, context_eq_ok, attempt_eq_ok, put_nodes_key]
  refine ⟨fun _ _ => ⟨fun _ _ => ⟨.stage _, .stage _, fun _ => ⟨.stage _,
    fun _ _ => ⟨fun _ _ => ⟨fun _ => ⟨.commit key ?_ ?_, fun _ _ => ?_, hattempt _⟩, hfault _⟩, ?_⟩,
    hattempt _⟩, hfault _⟩, ?_⟩, ?_⟩
  · simpa using hfree
  · exact put_nodes_self ..
  · cases hsync : env.attempt .syncDirectory with
    | error text => exact hattempt _ _ hsync
    | ok u =>
        simp only [rename_of_node (put_nodes_self ..), put_nodes_self, true_and]
        rfl
  · intro text htext
    rw [bailIf, if_neg hdirectory] at htext
    cases htext
  · intro text htext hsmooth
    rw [(attempt_eq_ok _ ()).mpr (hsmooth.faultless _)] at htext
    cases htext
  · intro text htext hsmooth
    rw [hsmooth.fresh] at htext
    cases htext

private theorem keeps_writeKey (hfree : d.leads keyName = false) :
    Keeps (fun _ => IdentityStep env) (writeKey env key.toList)
      (fun r t => match r with
        | .ok _ => t.Secures key
        | .error _ => ¬Smooth env d) d := by
  have hfault : ∀ call text, env.fault call = some text → ¬Smooth env d :=
    fun call text hcall hsmooth => hsmooth.no_fault hcall
  rw [writeKey, keeps_perform_bind]
  refine ⟨fun _ => ⟨.directory _, ?_⟩, hfault _⟩
  rw [keeps_perform_bind]
  refine ⟨fun _ => ⟨.directory _, ?_⟩, hfault _⟩
  rw [keeps_onFailure]
  refine (keeps_installKey (d := (d.create env.umask).restrict) hfree).post ?_
  intro r t ht
  cases r with
  | ok u => exact ⟨⟨_, ownerOnly_openMode env, ht.1⟩, ht.2⟩
  | error text =>
      apply discard_keeps (fun _ => ¬Smooth env d)
      all_goals exact fun hsmooth => ht ⟨hsmooth.faultless, hsmooth.random, hsmooth.fresh⟩

private theorem chmod_file {name : FileName} {mode : UInt32} {content : Bytes}
    (h : d.nodes name = some (.file mode content)) (mode' : UInt32) :
    d.chmod name mode' = d.put name (.file mode' content) := by
  simp only [chmod, h]

private theorem keeps_existingKey :
    Keeps (fun _ => IdentityStep env) (existingKey env)
      (fun r t => match r with
        | .ok key => t.nodes keyName = some (.file privateKeyMode key.toList) ∧ t.mode = d.mode
        | .error _ => ¬(Smooth env d ∧ ∃ key, d.Holds key)) d := by
  have hfault : ∀ call text, env.fault call = some text →
      ¬(Smooth env d ∧ ∃ key, d.Holds key) :=
    fun call text hcall h => h.1.no_fault hcall
  simp only [existingKey, keeps_read_bind, keeps_lift_bind, keeps_perform_bind, bailIf_eq_ok,
    context_eq_ok, attempt_eq_ok, Bool.not_eq_false]
  refine ⟨fun _ _ => ⟨fun _ hfile => ⟨fun _ => ⟨.restrictKey, fun _ _ => ?_, ?_⟩, hfault _⟩, ?_⟩,
    ?_⟩
  · obtain ⟨mode, content, hnode⟩ : ∃ mode content,
        d.nodes keyName = some (.file mode content) := by
      unfold isFile at hfile
      split at hfile
      next mode content hnode => exact ⟨mode, content, hnode⟩
      next => cases hfile
    have hcontent : (d.put keyName (.file privateKeyMode content)).content keyName = content := by
      simp only [IdentityDirectory.content, put_nodes_self]
    rw [chmod_file hnode, hcontent]
    cases hbytes : privateBytes content with
    | ok key =>
        rw [keeps_lift]
        rw [privateBytes_eq_ok] at hbytes
        exact ⟨hbytes ▸ put_nodes_self .., rfl⟩
    | error text =>
        rw [keeps_lift]
        rintro ⟨-, key, mode', hheld⟩
        rw [hnode, Option.some.injEq, Node.file.injEq] at hheld
        rw [(privateBytes_eq_ok _ key).mpr hheld.2] at hbytes
        cases hbytes
  · intro text htext hgood
    rw [(attempt_eq_ok _ ()).mpr (hgood.1.faultless _)] at htext
    cases htext
  · rintro text htext ⟨-, key, mode, hheld⟩
    simp only [isFile, hheld] at htext
    cases htext
  · intro text htext hgood
    rw [(attempt_eq_ok _ ()).mpr (hgood.1.faultless _)] at htext
    cases htext

private theorem keeps_loadOrCreateKey (hstat : env.fault .exists = none) :
    Keeps (fun _ => IdentityStep env) (loadOrCreateKey env)
      (fun r t => match r with
        | .ok key => t.Secures key
        | .error _ => ¬(Smooth env d ∧ d.Usable)) d := by
  have hfault : ∀ call text, env.fault call = some text → ¬(Smooth env d ∧ d.Usable) :=
    fun call text hcall h => h.1.no_fault hcall
  simp only [loadOrCreateKey, keeps_perform_bind, keeps_read_bind, keeps_ite, hstat, true_and]
  refine ⟨fun _ => ⟨.directory _, fun _ => ⟨.directory _, fun hleads => ?_, fun hmissing => ?_⟩,
    hfault _⟩, hfault _⟩
  · refine keeps_existingKey.post ?_
    intro r t ht
    cases r with
    | ok key => exact ⟨⟨_, ownerOnly_privateKeyMode, ht.1⟩, ht.2⟩
    | error text =>
        rintro ⟨hsmooth, hfree | hheld⟩
        · exact absurd (hfree.symm.trans hleads) Bool.false_ne_true
        · exact ht ⟨⟨hsmooth.faultless, hsmooth.random, hsmooth.fresh⟩, hheld⟩
  · rw [newKey, keeps_lift_bind]
    constructor
    · intro key hkey
      rw [keeps_bind]
      refine (keeps_writeKey (Bool.not_eq_true _ ▸ hmissing)).post ?_
      intro r t ht
      cases r with
      | ok u => exact (keeps_pure key).mpr ht
      | error text =>
          exact fun hgood => ht ⟨hgood.1.faultless, hgood.1.random, hgood.1.fresh⟩
    · rintro text htext ⟨hsmooth, -⟩
      obtain ⟨key, hkey⟩ := hsmooth.random
      rw [hkey] at htext
      cases htext

section Invariants

/-- Every file in the directory is the user's alone. -/
def IdentityDirectory.AllOwnerOnly (d : IdentityDirectory) : Prop :=
  ∀ name mode content, d.nodes name = some (.file mode content) → OwnerOnly mode

private theorem chmod_cases (d : IdentityDirectory) (name : FileName) (mode : UInt32) :
    (∃ mode' content, d.nodes name = some (.file mode' content) ∧
      d.chmod name mode = d.put name (.file mode content)) ∨ d.chmod name mode = d := by
  unfold chmod
  split
  next mode' content hnode => exact .inl ⟨mode', content, hnode, rfl⟩
  next => exact .inr rfl

private theorem IdentityDirectory.Holds.step (h : d.Holds key) (hstep : IdentityStep env d e) :
    e.Holds key := by
  obtain ⟨mode, hnode⟩ := h
  cases hstep with
  | directory mode' => exact ⟨mode, hnode⟩
  | restrictKey =>
      rw [chmod_file hnode]
      exact ⟨_, put_nodes_self ..⟩
  | stage content => exact ⟨mode, (put_nodes_key ..).trans hnode⟩
  | commit key' hfree hstaged =>
      rw [leads, hnode] at hfree
      cases hfree
  | unstage => exact ⟨mode, (drop_nodes_key _).trans hnode⟩

private theorem IdentityDirectory.Holds.unique {key' : Array8 32} (h : d.Holds key)
    (h' : d.Holds key') : key = key' := by
  obtain ⟨mode, hnode⟩ := h
  obtain ⟨mode', hnode'⟩ := h'
  rw [hnode, Option.some.injEq, Node.file.injEq] at hnode'
  exact List.Vector.toList_injective hnode'.2

private theorem IdentityDirectory.Usable.step (h : d.Usable) (hstep : IdentityStep env d e) :
    e.Usable := by
  rcases h with hfree | ⟨key, hheld⟩
  · cases hstep with
    | directory mode => exact .inl hfree
    | restrictKey =>
        rcases chmod_cases d keyName privateKeyMode with ⟨mode, content, hnode, -⟩ | hsame
        · rw [leads, hnode] at hfree
          cases hfree
        · rw [hsame]
          exact .inl hfree
    | stage content => exact .inl ((leads_put ..).trans hfree)
    | commit key _ hstaged =>
        refine .inr ⟨key, env.openMode, ?_⟩
        rw [rename_of_node hstaged, put_nodes_self]
    | unstage =>
        left
        rw [leads, drop_nodes_key]
        exact hfree
  · exact .inr ⟨key, hheld.step hstep⟩

private theorem IdentityDirectory.AllOwnerOnly.put (h : d.AllOwnerOnly) {name : FileName}
    {mode : UInt32}
    {content : Bytes} (hmode : OwnerOnly mode) :
    (d.put name (.file mode content)).AllOwnerOnly := by
  intro name' mode' content' hnode
  rw [put_nodes] at hnode
  split_ifs at hnode
  · cases hnode
    exact hmode
  · exact h name' mode' content' hnode

private theorem IdentityDirectory.AllOwnerOnly.drop (h : d.AllOwnerOnly) (name : FileName) :
    (d.drop name).AllOwnerOnly := by
  intro name' mode content hnode
  rw [drop_nodes] at hnode
  split_ifs at hnode
  exact h name' mode content hnode

private theorem IdentityDirectory.AllOwnerOnly.step (h : d.AllOwnerOnly)
    (hstep : IdentityStep env d e) :
    e.AllOwnerOnly := by
  cases hstep with
  | directory mode => exact h
  | restrictKey =>
      rcases chmod_cases d keyName privateKeyMode with ⟨mode, content, -, hput⟩ | hsame
      · rw [hput]
        exact h.put ownerOnly_privateKeyMode
      · rw [hsame]
        exact h
  | stage content => exact h.put (ownerOnly_openMode env)
  | commit key _ hstaged =>
      rw [rename_of_node hstaged]
      exact (h.drop _).put (ownerOnly_openMode env)
  | unstage => exact h.drop _

end Invariants

end Steps

section Identities

/-- `SigningKey::from_bytes`. -/
class SigningKeyBytes [Crypto] where
  fromBytes : Array8 32 → Crypto.SigningKey

variable [Crypto] [SigningKeyBytes]

def DeviceIdentity.ofKey (key : Array8 32) : DeviceIdentity := ⟨SigningKeyBytes.fromBytes key⟩

def DeviceIdentity.loadOrCreate (env : IdentityEnv) : IdentityM DeviceIdentity := do
  let key ← loadOrCreateKey env
  return ofKey key

section Runs

open Traced

variable {env : IdentityEnv} {start d : IdentityDirectory} {identities : List DeviceIdentity}

/-- The identities that calls one after another have returned, and the directory they leave. -/
inductive IdentityRun (start : IdentityDirectory) :
    List DeviceIdentity → IdentityDirectory → Prop where
  | start : IdentityRun start [] start
  | returned {identities d env identity} (hrun : IdentityRun start identities d)
      (hstat : env.fault .exists = none)
      (hresult : (DeviceIdentity.loadOrCreate env d).result = .ok identity) :
      IdentityRun start (identities ++ [identity])
        (endState d (DeviceIdentity.loadOrCreate env d).visited)
  | failed {identities d env text} (hrun : IdentityRun start identities d)
      (hstat : env.fault .exists = none)
      (hresult : (DeviceIdentity.loadOrCreate env d).result = .error text) :
      IdentityRun start identities (endState d (DeviceIdentity.loadOrCreate env d).visited)
  | interrupted {identities d env call e} (hrun : IdentityRun start identities d)
      (hstat : env.fault .exists = none)
      (hvisited : (call, e) ∈ (DeviceIdentity.loadOrCreate env d).visited) :
      IdentityRun start identities e

private theorem keeps_loadOrCreate (hstat : env.fault .exists = none) :
    Keeps (fun _ => IdentityStep env) (DeviceIdentity.loadOrCreate env)
      (fun r t => match r with
        | .ok identity => ∃ key, t.Secures key ∧ identity = .ofKey key
        | .error _ => ¬(Smooth env d ∧ d.Usable)) d := by
  rw [DeviceIdentity.loadOrCreate, keeps_bind]
  refine (keeps_loadOrCreateKey hstat).post ?_
  intro r t ht
  cases r with
  | ok key => exact (keeps_pure _).mpr ⟨key, ht, rfl⟩
  | error text => exact ht

/-- What every step keeps holds throughout a run. -/
theorem IdentityRun.invariant {I : IdentityDirectory → Prop}
    (hrun : IdentityRun start identities d) (hstart : I start)
    (hstep : ∀ env d e, IdentityStep env d e → I d → I e) : I d := by
  induction hrun with
  | start => exact hstart
  | returned _ hstat _ ih =>
      exact ((keeps_loadOrCreate hstat).1.invariant (fun _ => hstep _) ih).1
  | failed _ hstat _ ih =>
      exact ((keeps_loadOrCreate hstat).1.invariant (fun _ => hstep _) ih).1
  | interrupted _ hstat hvisited ih =>
      exact ((keeps_loadOrCreate hstat).1.invariant (fun _ => hstep _) ih).2 _ _ hvisited

private theorem loadOrCreate_holds {key : Array8 32} (hstat : env.fault .exists = none)
    (hheld : d.Holds key) :
    (endState d (DeviceIdentity.loadOrCreate env d).visited).Holds key ∧
      ∀ call e, (call, e) ∈ (DeviceIdentity.loadOrCreate env d).visited → e.Holds key :=
  (keeps_loadOrCreate hstat).1.invariant
    (fun _ _ _ hstep (hheld : IdentityDirectory.Holds _ key) => hheld.step hstep) hheld

private theorem IdentityRun.holds (hrun : IdentityRun start identities d) :
    ∀ identity ∈ identities, ∃ key, d.Holds key ∧ identity = .ofKey key := by
  induction hrun with
  | start => simp
  | @returned identities d env identity _ hstat hresult ih =>
      intro other hother
      rcases List.mem_append.mp hother with hother | hother
      · obtain ⟨key, hheld, heq⟩ := ih other hother
        exact ⟨key, (loadOrCreate_holds hstat hheld).1, heq⟩
      · rw [List.mem_singleton] at hother
        have hend := (keeps_loadOrCreate (d := d) hstat).2
        rw [hresult] at hend
        obtain ⟨key, ⟨⟨mode, -, hnode⟩, -⟩, heq⟩ := hend
        exact ⟨key, ⟨mode, hnode⟩, hother.trans heq⟩
  | failed _ hstat _ ih =>
      intro other hother
      obtain ⟨key, hheld, heq⟩ := ih other hother
      exact ⟨key, (loadOrCreate_holds hstat hheld).1, heq⟩
  | interrupted _ hstat hvisited ih =>
      intro other hother
      obtain ⟨key, hheld, heq⟩ := ih other hother
      exact ⟨key, (loadOrCreate_holds hstat hheld).2 _ _ hvisited, heq⟩

/-- An installation has one identity for good: whatever happens to the calls, those that return
all return the one whose key is on the disk. -/
theorem identity_permanent (hrun : IdentityRun start identities d) :
    (∀ identity ∈ identities, ∃ key, d.Holds key ∧ identity = .ofKey key) ∧
      ∀ identity ∈ identities, ∀ other ∈ identities, identity = other := by
  refine ⟨hrun.holds, ?_⟩
  intro identity hidentity other hother
  obtain ⟨key, hheld, rfl⟩ := hrun.holds identity hidentity
  obtain ⟨key', hheld', rfl⟩ := hrun.holds other hother
  rw [hheld.unique hheld']

/-- No failure or interruption exposes the key or leaves a directory that the next call cannot
use: undisturbed, it returns the identity returned before, its key secured. -/
theorem identity_recovers (hrun : IdentityRun start identities d) (hprivate : start.AllOwnerOnly)
    (husable : start.Usable) :
    d.AllOwnerOnly ∧ ∀ env, Smooth env d → ∃ key,
      (DeviceIdentity.loadOrCreate env d).result = .ok (.ofKey key) ∧
        (endState d (DeviceIdentity.loadOrCreate env d).visited).Secures key ∧
        ∀ identity ∈ identities, identity = .ofKey key := by
  refine ⟨hrun.invariant hprivate fun _ _ _ hstep hall => hall.step hstep, ?_⟩
  intro env hsmooth
  have husable' : d.Usable := hrun.invariant husable fun _ _ _ hstep huse => huse.step hstep
  have hstat := hsmooth.faultless .exists
  have hend := (keeps_loadOrCreate (d := d) hstat).2
  cases hresult : (DeviceIdentity.loadOrCreate env d).result with
  | error text =>
      rw [hresult] at hend
      exact absurd ⟨hsmooth, husable'⟩ hend
  | ok identity =>
      rw [hresult] at hend
      obtain ⟨key, hsecures, rfl⟩ := hend
      refine ⟨key, rfl, hsecures, ?_⟩
      intro other hother
      exact (identity_permanent (hrun.returned hstat hresult)).2 other
        (List.mem_append_left _ hother) _ (List.mem_append_right _ (List.mem_singleton_self _))

end Runs

end Identities

namespace Loopback

open Traced

attribute [local instance] crypto

@[reducible]
def signingKeyBytes : SigningKeyBytes := ⟨id⟩

attribute [local instance] signingKeyBytes

def noDirectory : IdentityDirectory := ⟨none, fun _ => none⟩

/-- Undisturbed but for the faults, with a key of one repeated byte at hand. -/
def identityEnv (random : UInt8) (nanos : ℕ) (faults : List SystemCall) : IdentityEnv where
  fault call := if call ∈ faults then some "fault" else none
  written := 7
  random := .ok (keyOf random)
  umask := 0o022
  stamp := ⟨1, nanos⟩

/-- The first call fails once its key is in place, and two more find it there. -/
def fallen : IdentityDirectory :=
  endState noDirectory
    (DeviceIdentity.loadOrCreate (identityEnv 2 1 [.syncDirectory]) noDirectory).visited

def found : IdentityDirectory :=
  endState fallen (DeviceIdentity.loadOrCreate (identityEnv 3 2 []) fallen).visited

private theorem run_fallen : IdentityRun noDirectory [] fallen := by
  have hresult : (DeviceIdentity.loadOrCreate (identityEnv 2 1 [.syncDirectory])
    noDirectory).result = .error "fault" := rfl
  exact IdentityRun.start.failed (by decide) hresult

private theorem run_found : IdentityRun noDirectory [.ofKey (keyOf 2)] found := by
  have hresult : (DeviceIdentity.loadOrCreate (identityEnv 3 2 []) fallen).result =
    .ok (.ofKey (keyOf 2)) := rfl
  exact run_fallen.returned (by decide) hresult

theorem identity_permanent_found :
    ∃ key, found.Holds key ∧ DeviceIdentity.ofKey (keyOf 2) = .ofKey key :=
  (identity_permanent run_found).1 _ (List.mem_singleton_self _)

theorem identity_recovers_fallen : ∃ key,
    (DeviceIdentity.loadOrCreate (identityEnv 3 2 []) fallen).result = .ok (.ofKey key) := by
  have hprivate : noDirectory.AllOwnerOnly := fun _ _ _ hnode => nomatch hnode
  have hsmooth : Smooth (identityEnv 3 2 []) fallen := ⟨fun _ => rfl, ⟨_, rfl⟩, rfl⟩
  obtain ⟨key, hresult, -⟩ := (identity_recovers run_fallen hprivate (.inl rfl)).2 _ hsmooth
  exact ⟨key, hresult⟩

end Loopback

end OmarchySync
