import OmarchySync.Capability

/-!
# What has been granted

To its callers the store of capabilities is a list of grants that only grows. The files show
every one of them and no others, however the calls have ended.
-/

namespace OmarchySync

open Logic Wire Traced

/-- A peer and what it may use. -/
abbrev Permission := Text × Text

namespace CapabilityStore

section Names

variable {id : Text}

/-- The DeviceIDs that have a file. -/
def Valid (id : Text) : Prop := pathFor id = .ok (recordFile id)

private theorem valid_of_pathFor {name : FileName} (h : pathFor id = .ok name) : Valid id := by
  rw [Valid, ← pathFor_eq_ok h]
  exact h

private theorem Valid.temporary_ne (hid : Valid id) (name : FileName) (stamp : Stamp) :
    recordFile id ≠ temporaryName name stamp := by
  simp only [Valid, pathFor, bind_eq_ok, bailIf_eq_ok, exists_const, not_or, not_not, pure_eq_ok,
    List.all_eq_true] at hid
  intro heq
  cases hbytes : id.bytes with
  | nil =>
      have hlen := hid.1.1
      simp [Text.len, hbytes] at hlen
  | cons b bs =>
      simp only [recordFile, temporaryName, hbytes, List.cons_append, List.cons.injEq] at heq
      have hdigit := hid.1.2 b (by simp [hbytes])
      rw [heq.1] at hdigit
      revert hdigit
      decide

end Names

variable [CapabilitySerde] {d e : Dir} {id peer capability : Text} {grants : List Permission}

private theorem Valid.load_eq (hid : Valid id) : load d id =
    match d.lookup (recordFile id) with
    | none => .ok none
    | some bytes => do
        let record ← someOr "malformed capability record" (CapabilitySerde.fromSlice bytes)
        bailIf (record.deviceId ≠ id) "capability record identity mismatch"
        return some record.capabilities := by
  have hpath : pathFor id = .ok (recordFile id) := hid
  simp only [load, hpath, ok_bind]
  rfl

private theorem valid_of_load {found : Option TextSet} (h : load d id = .ok found) : Valid id := by
  simp only [load, bind_eq_ok] at h
  obtain ⟨name, hname, -⟩ := h
  exact valid_of_pathFor hname

/-- Loading a peer shows what it has been granted. -/
def Represents (d : Dir) (grants : List Permission) : Prop :=
  ∀ id, Valid id → ∃ found, load d id = .ok found ∧
    ∀ capability, capability ∈ found.getD ∅ ↔ (id, capability) ∈ grants

private theorem represents_empty : Represents ∅ [] := by
  intro id hid
  refine ⟨none, ?_, by simp⟩
  rw [hid.load_eq, AList.lookup_empty]

private theorem Represents.congr (h : Represents d grants)
    (hsame : ∀ id, Valid id → e.lookup (recordFile id) = d.lookup (recordFile id)) :
    Represents e grants := by
  intro id hid
  obtain ⟨found, hload, hmem⟩ := h id hid
  refine ⟨found, ?_, hmem⟩
  rw [← hload, hid.load_eq, hid.load_eq, hsame id hid]

theorem Represents.add [LawfulCapabilitySerde] (h : Represents d grants) (hpeer : Valid peer)
    {stored : Option TextSet} (hstored : load d peer = .ok stored)
    (hsame : ∀ id, Valid id → id ≠ peer → e.lookup (recordFile id) = d.lookup (recordFile id))
    (hfile : e.lookup (recordFile peer) =
      some (CapabilityRecord.toVecPretty ⟨peer, (stored.getD ∅).insert capability⟩)) :
    load e peer = .ok (some ((stored.getD ∅).insert capability)) ∧
      Represents e (grants ++ [(peer, capability)]) := by
  have hload : load e peer = .ok (some ((stored.getD ∅).insert capability)) := by
    rw [hpeer.load_eq, hfile]
    simp [someOr, bailIf, pure_result]
  refine ⟨hload, ?_⟩
  intro id hid
  obtain ⟨found, hfound, hmem⟩ := h id hid
  by_cases heq : id = peer
  · subst heq
    rw [hstored, Except.ok.injEq] at hfound
    subst hfound
    refine ⟨_, hload, ?_⟩
    intro other
    simp [hmem, or_comm]
  · refine ⟨found, ?_, ?_⟩
    · rw [← hfound, hid.load_eq, hid.load_eq, hsame id hid heq]
    · intro other
      simp [hmem, heq]

/-- The two directories differ at most in the files of `names`. -/
def SameExcept (d e : Dir) (names : List FileName) : Prop :=
  ∀ name, name ∉ names → e.lookup name = d.lookup name

omit [CapabilitySerde] in
private theorem keeps_writeState {stamp : Stamp} {name : FileName} {bytes : Bytes} {R : Dir → Prop}
    {Q : Result Unit → Dir → Prop}
    (hbefore : ∀ e, SameExcept d e [temporaryName name stamp] → R e)
    (hafter : ∀ e, SameExcept d e [temporaryName name stamp, name] → e.lookup name = some bytes →
      R e ∧ Q (.ok ()) e)
    (herror : ∀ text e, SameExcept d e [temporaryName name stamp] → Q (.error text) e) :
    Keeps (fun _ _ e => R e) (writeState stamp name bytes) Q d := by
  simp only [writeState, keeps_onFailure, keeps_read_bind, keeps_lift_bind, keeps_step_bind,
    keeps_step, keeps_ite, keeps_pure]
  refine ⟨fun _ _ => ⟨hbefore _ ?_, hbefore _ ?_, hafter _ ?_ ?_⟩,
    fun text _ => ⟨fun _ => ?_, fun _ => ?_⟩⟩
  · intro n hn
    simp at hn
    simp [AList.lookup_insert_ne hn]
  · intro n hn
    simp at hn
    simp [AList.lookup_insert_ne hn]
  · intro n hn
    simp at hn
    simp [AList.lookup_insert_ne hn.2, AList.lookup_erase_ne hn.1, AList.lookup_insert_ne hn.1]
  · exact AList.lookup_insert _
  · have herased : SameExcept d (d.erase (temporaryName name stamp))
        [temporaryName name stamp] := by
      intro n hn
      simp at hn
      exact AList.lookup_erase_ne hn
    exact ⟨hbefore _ herased, herror text _ herased⟩
  · exact herror text _ fun _ _ => rfl

/-- One call of `grant_capability`. -/
structure GrantCall where
  stamp : Stamp
  hasActivePairing : Text → Text → Result Bool
  localId : Text
  grant : Permission

def GrantCall.run (call : GrantCall) : GrantM TextSet :=
  grantCapability call.stamp call.hasActivePairing call.localId call.grant.1 call.grant.2

/-- Wherever a grant is stopped, it has been made or not; a call that returns has made it, and a
call that fails has not. -/
theorem keeps_grant [LawfulCapabilitySerde] (call : GrantCall) (h : Represents d grants) :
    Keeps (fun _ _ e => Represents e grants ∨ Represents e (grants ++ [call.grant])) call.run
      (fun r t => match r with
        | .ok granted => Represents t (grants ++ [call.grant]) ∧
            load t call.grant.1 = .ok (some granted)
        | .error _ => Represents t grants) d := by
  obtain ⟨stamp, hasActivePairing, localId, peer, capability⟩ := call
  simp only [GrantCall.run]
  simp only [grantCapability, keeps_lift_bind, keeps_read_bind, bailIf_eq_ok, Bool.not_eq_false]
  refine ⟨?_, fun _ _ => h⟩
  rintro _ -
  refine ⟨?_, fun _ _ => h⟩
  rintro _ rfl
  refine ⟨fun _ _ => ⟨?_, fun _ _ => h⟩, fun _ _ => h⟩
  intro stored hstored
  refine ⟨?_, fun _ _ => h⟩
  intro name hname
  have hpeer := valid_of_pathFor hname
  obtain rfl := pathFor_eq_ok hname
  have hbefore : ∀ e, SameExcept d e [temporaryName (recordFile peer) stamp] →
      Represents e grants := by
    intro e hsame
    apply h.congr
    intro id hid
    exact hsame _ (by simpa using hid.temporary_ne _ _)
  rw [keeps_bind]
  apply keeps_writeState
  · exact fun e hsame => .inl (hbefore e hsame)
  · intro e hsame hfile
    have hothers : ∀ id, Valid id → id ≠ peer →
        e.lookup (recordFile id) = d.lookup (recordFile id) := by
      intro id hid hne
      have hname : recordFile id ≠ recordFile peer := fun heq => hne (recordFile_inj heq)
      exact hsame _ (by simp [hid.temporary_ne, hname])
    have hadd := h.add hpeer hstored hothers hfile
    exact ⟨.inr hadd.2, (keeps_pure _).mpr ⟨hadd.2, hadd.1⟩⟩
  · exact fun text e hsame => hbefore e hsame

/-- The grants that were asked for without a failure, those of them that were returned, and the
directory that is left. -/
inductive GrantRun : List Permission → List Permission → Dir → Prop where
  | start : GrantRun [] [] ∅
  | returned {asked answered d granted} (call : GrantCall) (hrun : GrantRun asked answered d)
      (hresult : (call.run d).result = .ok granted) :
      GrantRun (asked ++ [call.grant]) (answered ++ [call.grant])
        (endState d (call.run d).visited)
  | failed {asked answered d text} (call : GrantCall) (hrun : GrantRun asked answered d)
      (hresult : (call.run d).result = .error text) :
      GrantRun asked answered (endState d (call.run d).visited)
  | interrupted {asked answered d step e} (call : GrantCall) (hrun : GrantRun asked answered d)
      (hvisited : (step, e) ∈ (call.run d).visited) :
      GrantRun (asked ++ [call.grant]) answered e

private theorem GrantRun.represents [LawfulCapabilitySerde] {asked answered : List Permission}
    (hrun : GrantRun asked answered d) :
    ∃ grants, answered.Sublist grants ∧ grants.Sublist asked ∧ Represents d grants := by
  induction hrun with
  | start => exact ⟨[], .refl _, .refl _, represents_empty⟩
  | returned call _ hresult ih =>
      obtain ⟨grants, hanswered, hasked, hshown⟩ := ih
      have hend := (keeps_grant call hshown).2
      rw [hresult] at hend
      exact ⟨_, hanswered.append (.refl _), hasked.append (.refl _), hend.1⟩
  | failed call _ hresult ih =>
      obtain ⟨grants, hanswered, hasked, hshown⟩ := ih
      have hend := (keeps_grant call hshown).2
      rw [hresult] at hend
      exact ⟨grants, hanswered, hasked, hend⟩
  | interrupted call _ hvisited ih =>
      obtain ⟨grants, hanswered, hasked, hshown⟩ := ih
      obtain ⟨before, hbefore | hafter⟩ := (keeps_grant call hshown).1.of_mem hvisited
      · exact ⟨grants, hanswered, hasked.trans (List.sublist_append_left ..), hbefore⟩
      · exact ⟨_, hanswered.trans (List.sublist_append_left ..), hasked.append (.refl _), hafter⟩

/-- The files show a list of grants that has all that were returned, in their order, and besides
them only some that were interrupted; and a call returns what its peer has then. -/
theorem grants_refine [LawfulCapabilitySerde] {asked answered : List Permission}
    (hrun : GrantRun asked answered d) :
    ∃ grants, answered.Sublist grants ∧ grants.Sublist asked ∧ Represents d grants ∧
      ∀ (call : GrantCall) granted, (call.run d).result = .ok granted →
        ∀ capability, capability ∈ granted ↔
          (call.grant.1, capability) ∈ grants ++ [call.grant] := by
  obtain ⟨grants, hanswered, hasked, hshown⟩ := hrun.represents
  refine ⟨grants, hanswered, hasked, hshown, ?_⟩
  intro call granted hresult capability
  have hend := (keeps_grant call hshown).2
  rw [hresult] at hend
  obtain ⟨found, hfound, hmem⟩ := hend.1 call.grant.1 (valid_of_load hend.2)
  rw [hend.2, Except.ok.injEq] at hfound
  subst hfound
  exact hmem capability

end CapabilityStore

namespace Loopback

open CapabilityStore

attribute [local instance] CapabilityRecord.canonicalSerde CapabilityRecord.canonicalSerde_lawful

/-- Under an active pairing the first device is granted the data. -/
def permit : GrantCall where
  stamp := ⟨1, 1⟩
  hasActivePairing _ _ := .ok true
  localId := hexText (List.replicate 16 2)
  grant := (hexText (List.replicate 16 1), ⟨ascii "sync.data", by decide⟩)

def permitted : Dir := endState ∅ (permit.run ∅).visited

theorem grants_refine_permitted : ∃ grants, [permit.grant].Sublist grants ∧
    grants.Sublist [permit.grant] ∧ Represents permitted grants := by
  obtain ⟨granted, hresult⟩ : ∃ granted, (permit.run ∅).result = .ok granted :=
    (isOk_iff _).mp (by decide +kernel)
  obtain ⟨grants, hanswered, hasked, hshown, -⟩ :=
    grants_refine (GrantRun.start.returned permit hresult)
  exact ⟨grants, hanswered, hasked, hshown⟩

end Loopback

end OmarchySync
