import OmarchySync.Pairing.Initiator
import OmarchySync.Pairing.Responder
import OmarchySync.Trust.Agreement

/-!
# Credentials of revoked pairings

Both lookups that hand out a reconnect credential, against the revoked directory. The pending
directory is not consulted by `revoke`, and the revoked one not by the operations that write
pending records.
-/

namespace OmarchySync

open Logic Wire Traced

section Contents

/-- A step or a call brings no pending bytes but a record under the given PairID. -/
def PendingFrom (pairId : Option Text) (h g : Host) : Prop :=
  ∀ name bytes, g.file .pending name = some bytes →
    (∃ name', h.file .pending name' = some bytes) ∨ bytes = [] ∨
      ∃ r : PairingRecord, pairId = some r.pairId ∧ bytes = r.toVec

variable {pairId : Option Text} {h g u : Host}

namespace PendingFrom

private theorem of_subset
    (hsub : ∀ name bytes, g.file .pending name = some bytes → h.file .pending name = some bytes) :
    PendingFrom pairId h g :=
  fun name bytes hfile => .inl ⟨name, hsub name bytes hfile⟩

private theorem trans (h₁ : PendingFrom pairId h g) (h₂ : PendingFrom pairId g u) :
    PendingFrom pairId h u := by
  intro name bytes hfile
  rcases h₂ name bytes hfile with hold | hnew
  · obtain ⟨name', hold⟩ := hold
    exact h₁ name' bytes hold
  · exact .inr hnew

private theorem put (folder : Folder) (name : FileName) {bytes : Bytes}
    (hbytes : folder = .pending → bytes = [] ∨ ∃ r : PairingRecord, pairId = some r.pairId ∧ bytes = r.toVec) :
    PendingFrom pairId h (h.put folder name bytes) := by
  intro name' bytes' hfile
  rw [Host.file_put] at hfile
  by_cases heq : Folder.pending = folder ∧ name' = name
  · rw [if_pos heq, Option.some.injEq] at hfile
    exact .inr (hfile ▸ hbytes heq.1.symm)
  · rw [if_neg heq] at hfile
    exact .inl ⟨name', hfile⟩

private theorem drop (folder : Folder) (name : FileName) : PendingFrom pairId h
    (h.drop folder name) := by
  apply of_subset
  intro name' bytes hfile
  rw [Host.file_drop] at hfile
  split at hfile
  · cases hfile
  · exact hfile

private theorem rename (folder folder' : Folder) (name name' : FileName)
    (hfolder : folder' = .pending → folder = .pending) :
    PendingFrom pairId h (h.rename folder name folder' name') := by
  cases hfile : h.file folder name with
  | none =>
      rw [Host.rename, hfile]
      exact of_subset fun _ _ h => h
  | some bytes =>
      intro name'' bytes'' hfile'
      rw [Host.rename_of_file hfile, Host.file_put] at hfile'
      split at hfile'
      next heq =>
        rw [← hfile', ← hfile, hfolder heq.1.symm]
        exact .inl ⟨name, rfl⟩
      next heq =>
        exact drop folder name name'' bytes'' hfile'

end PendingFrom

private theorem keeps_writeAtomic_pendingFrom (stamp : Stamp) (folder : Folder) (name : FileName)
    {bytes : Bytes}
    (hbytes : folder = .pending → ∃ r : PairingRecord, pairId = some r.pairId ∧ bytes = r.toVec) :
    Keeps (fun _ => PendingFrom pairId) (writeAtomic stamp folder name bytes)
      (fun _ _ => True) h := by
  apply keeps_writeAtomic
  · intro g l content hl
    apply PendingFrom.put
    intro hfolder
    rcases hl with hl | hl
    · exact .inl hl.2
    · exact .inr (hl.2 ▸ hbytes hfolder)
  · intro g _
    exact PendingFrom.drop _ _
  · intro g _ _ _
    exact ⟨PendingFrom.rename _ _ _ _ id, trivial⟩
  · intro _ _ _ _
    trivial

variable [Serde] {env : Env} {record : PairingRecord}

private theorem keeps_writePending_pendingFrom :
    Keeps (fun _ => PendingFrom (some record.pairId)) (writePending env record)
      (fun _ _ => True) h := by
  have hwrite : ∀ name bytes, record.toBytes = .ok bytes →
      Keeps (fun _ => PendingFrom (some record.pairId)) (writeAtomic env.stamp .pending name bytes)
        (fun _ _ => True) h := by
    intro name bytes hbytes
    apply keeps_writeAtomic_pendingFrom
    intro _
    exact ⟨record, rfl, ((PairingRecord.toBytes_eq_ok record bytes).mp hbytes).2⟩
  simp only [writePending, keeps_lift_bind, keeps_read_bind, keeps_ite, keeps_pure, implies_true,
    and_true, true_and]
  intro path _
  exact ⟨fun _ _ _ _ _ _ _ _ => hwrite path, fun _ => hwrite path⟩

private theorem keeps_removeStalePending_pendingFrom :
    Keeps (fun _ => PendingFrom pairId) (removeStalePending env record) (fun _ _ => True) h := by
  simp only [removeStalePending, keeps_read_bind]
  refine (keeps_forEach (I := fun _ => True) _ ?_ trivial).post fun _ _ _ => trivial
  intro name _ g _
  simp only [removeStaleEntry, keeps_read_bind, keeps_lift_bind]
  refine ⟨?_, fun _ _ => trivial⟩
  intro found _
  cases found with
  | none => exact (keeps_pure _).mpr trivial
  | some pending =>
      simp only [keeps_ite, keeps_step, keeps_pure, and_true, implies_true]
      intro _
      exact PendingFrom.drop _ _

private theorem keeps_persistActive_pendingFrom :
    Keeps (fun _ => PendingFrom pairId) (persistActive env record) (fun _ _ => True) h := by
  simp only [persistActive, keeps_lift_bind, keeps_read_bind, keeps_ite, implies_true, and_true]
  intro path _ _ _
  refine ⟨fun _ _ _ _ _ _ _ => keeps_removeStalePending_pendingFrom, fun _ bytes _ => ?_⟩
  rw [keeps_bind]
  refine (keeps_writeAtomic_pendingFrom _ .active _ (by simp)).post ?_
  intro r g _
  cases r with
  | error e => trivial
  | ok u => exact keeps_removeStalePending_pendingFrom

end Contents

section Operations

variable [Crypto] [Noise]

/-- The PairID an operation signs a record under. -/
def Op.signsUnder : Op → Option Text
  | .prepare session _ => some session.pairId
  | .coSign _ pending => some pending.pairId
  | .resumePrepare session _ => some session.pairId
  | _ => none

private theorem recordFromSession_pairId {session : AuthenticatedPairingSession} {pairId : Text}
    {grant : AuthorizationGrant} {identity : DeviceIdentity} {base : PairingRecord}
    (hbase : recordFromSession session pairId grant identity = .ok base) : base.pairId = pairId := by
  simp only [recordFromSession, bind_eq_ok, pure_eq_ok] at hbase
  obtain ⟨_, _, _, _, rfl⟩ := hbase
  rfl

variable [Serde] {store : PairingStore} {env : Env} {identity : DeviceIdentity} {h : Host}

private theorem keeps_signAndWrite_pendingFrom {session : AuthenticatedPairingSession}
    {record : PairingRecord} {pairId : Text} (hpair : record.pairId = pairId) (role : UInt8)
    (complete : Bool) :
    Keeps (fun _ => PendingFrom (some pairId)) (do
      let signature ← signRecord identity record role
      let record := record.setSignature role signature
      store.validateRecord record session identity complete true false
      writePending env record
      return record) (fun _ _ => True) h := by
  have hlogged : ∀ e, PendingFrom (some pairId) h (h.log e) :=
    fun e => .of_subset fun _ _ h => h
  rw [keeps_bind]
  simp only [signRecord, keeps_lift_bind, keeps_step_bind, keeps_pure, implies_true, and_true]
  intro message _
  refine ⟨hlogged _, fun _ _ => ?_⟩
  rw [keeps_bind, ← hpair, ← PairingRecord.pairId_setSignature record role]
  refine keeps_writePending_pendingFrom.post ?_
  intro r g _
  cases r with
  | error e => trivial
  | ok u => exact (keeps_pure _).mpr trivial

private theorem Op.keeps_pendingFrom (op : Op) :
    Keeps (fun _ => PendingFrom op.signsUnder) (op.run store env identity) (fun _ _ => True) h := by
  have hlogged : ∀ pairId e, PendingFrom pairId h (h.log e) :=
    fun pairId e => .of_subset fun _ _ h => h
  cases op with
  | prepare session broker =>
      apply keeps_forget
      simp only [PairingStore.prepare, keeps_lift_bind, keeps_step_bind, implies_true, and_true]
      intro _ _ grant _
      refine ⟨hlogged _ _, fun _ _ base hbase => ?_⟩
      have hpair : base.pairId = session.pairId := recordFromSession_pairId hbase
      apply keeps_signAndWrite_pendingFrom
      exact hpair
  | coSign session pending =>
      apply keeps_forget
      simp only [PairingStore.coSign, keeps_lift_bind, implies_true, and_true]
      intro _ _ _ _ _ _ _ _
      exact keeps_signAndWrite_pendingFrom rfl _ true
  | resumePrepare session pending =>
      apply keeps_forget
      simp only [PairingStore.resumePrepare, keeps_lift_bind, implies_true, and_true]
      intro _ _ _ _ _ _ base hbase
      have hpair : base.pairId = session.pairId := recordFromSession_pairId hbase
      apply keeps_signAndWrite_pendingFrom
      exact hpair
  | finalize session record =>
      simp only [Op.run, PairingStore.finalize, keeps_lift_bind, implies_true, and_true]
      intro _ _ _ _
      exact keeps_persistActive_pendingFrom
  | reconcile session record =>
      simp only [Op.run, PairingStore.reconcile, keeps_lift_bind, implies_true, and_true]
      intro _ _ _ _
      exact keeps_persistActive_pendingFrom
  | revoke pairId =>
      simp only [Op.run, PairingStore.revoke, keeps_lift_bind, keeps_read_bind, keeps_step,
        implies_true, and_true]
      intro path _ found _ record _ _ _ _ _
      exact PendingFrom.rename _ _ _ _ (by simp)

/-- A call signs no record under a revoked PairID, and revokes an active PairID only when no
record under it is pending. -/
structure Call.SparesRevoked (call : Call) (h : Host) : Prop where
  signs : ∀ pairId, call.op.signsUnder = some pairId → h.file .revoked (recordFile pairId) = none
  revokes : ∀ pairId, call.op = .revoke pairId → (h.file .active (recordFile pairId)).isSome →
    ∀ r, h.HasPending r → r.pairId ≠ pairId

/-- No pending record is under a revoked PairID. -/
def Host.RevokedSettled (h : Host) : Prop :=
  ∀ r, h.HasPending r → h.file .revoked (recordFile r.pairId) = none

/-- A credential some lookup hands out to the identity. -/
inductive Host.Credential (h : Host) (identity : DeviceIdentity) : PairedIdentityContext → Prop where
  | reconnect {store : PairingStore} {pairId context}
      (hok : store.reconnectContext h identity pairId = .ok context) : Credential h identity context
  | recovery {store : PairingStore} {order peer context}
      (hok : store.recoveryContext order h identity peer = .ok (some context)) :
      Credential h identity context

/-- Nobody reconnects under the PairID. -/
structure Host.NoReconnect (h : Host) (pairId : Text) : Prop where
  credential : ∀ identity context, h.Credential identity context → context.pairId ≠ pairId
  initiator : ∀ identity context entropy x, h.Credential identity context →
    PairingInitiator.newReconnect identity context entropy = .ok x → x.pairId ≠ pairId
  responder : ∀ identity context y, h.Credential identity context →
    PairingResponder.newReconnect identity context = .ok y → y.pairId ≠ some pairId

omit [Noise] in
private theorem Host.Credential.source {context : PairedIdentityContext}
    (hcredential : h.Credential identity context) :
    (∃ r, h.HasPending r ∧ r.pairId = context.pairId) ∨
      HexId context.pairId ∧ ∃ bytes, h.file .active (recordFile context.pairId) = some bytes := by
  cases hcredential with
  | @reconnect store pairId context hok =>
      simp only [PairingStore.reconnectContext, PairingStore.contextFromRecordParts,
        PairedIdentityContext.fromValidatedRecord, bind_eq_ok, someOr_eq_ok, pure_eq_ok] at hok
      obtain ⟨_, hload, r, rfl, _, -, _, -, _, -, _, -, _, -, rfl⟩ := hok
      obtain ⟨hid, rfl, hfile⟩ := PairingStore.load_hit hload
      exact .inr ⟨hid, hfile⟩
  | @recovery store order peer context hok =>
      obtain ⟨found, hfound, hok⟩ := (bind_eq_ok ..).mp hok
      cases found with
      | some r =>
          obtain ⟨context', hcontext, heq⟩ := (bind_eq_ok ..).mp hok
          cases heq
          have hpair := PairingStore.contextFromRecord_pairId hcontext
          exact .inl ⟨r, (PairingStore.pendingForPeer_hit hfound).1, hpair.symm⟩
      | none =>
          obtain ⟨found, hactive, hok⟩ := (bind_eq_ok ..).mp hok
          cases found with
          | none => cases hok
          | some r =>
              obtain ⟨context', hcontext, heq⟩ := (bind_eq_ok ..).mp hok
              cases heq
              rw [PairingStore.contextFromRecord_pairId hcontext]
              have hload := (PairingStore.activeRecord_hit hactive).1
              obtain ⟨hid, -, hfile⟩ := PairingStore.load_hit hload
              exact .inr ⟨hid, hfile⟩

section Runs

variable {S : Setting} {call : Call} {g : Host} [LawfulSerde]

omit [LawfulSerde] in
private theorem Call.Ends.pendingFrom (hends : call.Ends S h g) :
    PendingFrom call.op.signsUnder h g :=
  hends.of_keeps (Op.keeps_pendingFrom call.op) (fun _ _ _ hab ha => ha.trans hab)
    (.of_subset fun _ _ h => h)

omit [LawfulSerde] in
private theorem Call.Ends.revoked_file {name : FileName} (hends : call.Ends S h g)
    (hsome : (g.file .revoked name).isSome) : (h.file .revoked name).isSome ∨
      ∃ pairId, call.op = .revoke pairId ∧ HexId pairId ∧ name = recordFile pairId := by
  refine hends.invariant (I := fun a => (a.file .revoked name).isSome → (h.file .revoked name).isSome ∨
    ∃ pairId, call.op = .revoke pairId ∧ HexId pairId ∧ name = recordFile pairId) ?_ .inl hsome
  intro l a b _ hstep ha hb
  rcases hstep.revoked_file hb with hold | hnew
  · exact ha hold
  · exact .inr hnew

omit [LawfulSerde] in
private theorem Call.Ends.revoke_active {pairId : Text} (hends : call.Ends S h g)
    (hop : call.op = .revoke pairId) : g = h ∨ (h.file .active (recordFile pairId)).isSome := by
  have hkeeps : Keeps (fun _ _ _ => (h.file .active (recordFile pairId)).isSome)
      (call.op.run (call.store S) call.env S.identity) (fun _ _ => True) h := by
    simp only [hop, Op.run, PairingStore.revoke, keeps_lift_bind, keeps_read_bind, keeps_step,
      recordPath_eq_ok, someOr_eq_ok, implies_true, and_true]
    intro path hpath found hfound record hrecord _ _ _ _
    obtain ⟨-, rfl⟩ := hpath
    subst hrecord
    obtain ⟨bytes, hfile, -⟩ := (readRecord_eq_ok ..).mp hfound
    rw [hfile]
    rfl
  exact hends.of_keeps (I := fun a => a = h ∨ (h.file .active (recordFile pairId)).isSome) hkeeps
    (fun _ _ _ hactive _ => .inr hactive) (.inl rfl)

/-- A call that spares revoked PairIDs leaves no pending record under one. -/
theorem Call.Ends.revokedSettled (hends : call.Ends S h g) (hspares : call.SparesRevoked h)
    (hsettled : h.RevokedSettled) : g.RevokedSettled := by
  intro r hpending
  obtain ⟨name, bytes, hfile, hread⟩ := hpending
  rw [← Option.not_isSome_iff_eq_none]
  intro hrevoked
  rcases hends.pendingFrom name bytes hfile with hold | hempty | hnew
  · obtain ⟨name', hold⟩ := hold
    have hpending : h.HasPending r := ⟨name', bytes, hold, hread⟩
    rcases hends.revoked_file hrevoked with hbefore | hnow
    · simp [hsettled r hpending] at hbefore
    · obtain ⟨pairId, hop, -, hname⟩ := hnow
      rcases hends.revoke_active hop with hsame | hactive
      · rw [hsame, hsettled r hpending] at hrevoked
        cases hrevoked
      · exact hspares.revokes pairId hop hactive r hpending (recordFile_inj hname)
  · subst hempty
    simp [PairingRecord.fromBytes_eq_ok] at hread
  · obtain ⟨r', hsigns, rfl⟩ := hnew
    obtain rfl : r' = r := by
      simpa using ((PairingRecord.fromBytes_eq_ok ..).mp hread).2.1
    -- the PairID was revoked before the call, for a call that signs revokes nothing
    rcases hends.revoked_file hrevoked with hbefore | hnow
    · simp [hspares.signs _ hsigns] at hbefore
    · obtain ⟨pairId, hop, -⟩ := hnow
      rw [hop] at hsigns
      cases hsigns

private theorem Run.revokedSettled {calls : List Call} (hspares : ∀ h call, S.allowed h call →
    call.SparesRevoked h) (hrun : Run S Host.empty calls h) : h.RevokedSettled := by
  induction hrun with
  | start =>
      intro r hpending
      exact Host.file_empty _ _
  | call _ hallowed hends ih => exact hends.revokedSettled (hspares _ _ hallowed) ih
  | sign _ _ ih => exact ih

/-- In every run whose calls spare revoked PairIDs, interrupted anywhere, no lookup hands out a
credential under a revoked PairID. -/
theorem no_reconnect_of_sparesRevoked {calls : List Call}
    (hspares : ∀ h call, S.allowed h call → call.SparesRevoked h)
    (hrun : Run S Host.empty calls h) (pairId : Text)
    (hrevoked : (h.file .revoked (recordFile pairId)).isSome) : h.NoReconnect pairId := by
  have hsettled : h.RevokedSettled := hrun.revokedSettled hspares
  have hcredential : ∀ identity context, h.Credential identity context →
      context.pairId ≠ pairId := by
    intro identity context hcredential heq
    subst heq
    rcases hcredential.source with hpending | hactive
    · obtain ⟨r, hpending, hpair⟩ := hpending
      rw [← hpair, hsettled r hpending] at hrevoked
      cases hrevoked
    · obtain ⟨hid, bytes, hactive⟩ := hactive
      obtain ⟨life, hlives, -⟩ := hrun.lives hid (Host.empty_lives _)
      rw [hlives.revoked] at hrevoked
      rw [hlives.active] at hactive
      cases life with
      | revoked a => cases hactive
      | _ => cases hrevoked
  constructor
  · exact hcredential
  · intro identity context entropy x hctx hnew
    simp only [PairingInitiator.newReconnect, bind_eq_ok, pure_eq_ok] at hnew
    obtain ⟨_, -, _, -, _, -, rfl⟩ := hnew
    exact hcredential identity context hctx
  · intro identity context y hctx hnew
    simp only [PairingResponder.newReconnect, bind_eq_ok, pure_eq_ok] at hnew
    obtain ⟨_, -, _, -, rfl⟩ := hnew
    intro heq
    exact hcredential identity context hctx (Option.some.inj heq)

end Runs

end Operations

namespace Loopback

attribute [local instance] crypto noise PairingRecord.canonicalSerde
  PairingRecord.canonicalSerde_lawful

/-- One device that may be interrupted anywhere and spares revoked PairIDs. -/
def sparing (b : UInt8) : Setting :=
  ⟨root, identity b, fun _ => True, fun h call => call.SparesRevoked h⟩

/-- The responder revokes the pairing. -/
def revocation : Call := ⟨200, env, .revoke (pairIdOf 7)⟩

theorem no_reconnect_of_sparesRevoked_cleaned :
    (completed revocation (completed activation (completed authorization Host.empty))).NoReconnect
      (pairIdOf 7) := by
  have hsigns : authorization.SparesRevoked Host.empty := by
    constructor
    · intro pairId _
      exact Host.file_empty _ _
    · intro pairId hop
      cases hop
  have hactivates : activation.SparesRevoked (completed authorization Host.empty) := by
    constructor
    · intro pairId hop
      cases hop
    · intro pairId hop
      cases hop
  have hfacts : ((completed activation (completed authorization Host.empty)).trust
        .pending).entries = [] ∧
      ((completed revocation (completed activation (completed authorization Host.empty))).file
        .revoked (recordFile (pairIdOf 7))).isSome := by
    decide +kernel
  obtain ⟨hnone, hrevoked⟩ := hfacts
  have hrevokes : revocation.SparesRevoked
      (completed activation (completed authorization Host.empty)) := by
    constructor
    · intro pairId hop
      cases hop
    · intro _ _ _ r hpending
      obtain ⟨name, bytes, hfile, -⟩ := hpending
      simp [Host.file, AList.lookup, hnone] at hfile
  have hrun : Run (sparing 2) Host.empty ([] ++ [authorization] ++ [activation] ++ [revocation])
      (completed revocation (completed activation (completed authorization Host.empty))) :=
    ((Run.start.call hsigns .completes).call hactivates .completes).call hrevokes .completes
  exact no_reconnect_of_sparesRevoked (fun _ _ h => h) hrun _ hrevoked

/-- What the device reconnects with after the interruption and the revocation. -/
def stale : Result (Option PairedIdentityContext) :=
  (store 300).recoveryContext listing (completed revocation uncleaned) (identity 2) (deviceIdOf 1)

/-- The pending record that the interruption left behind survives the revocation. -/
theorem reconnect_after_revocation :
    ¬∀ calls h, Run (crashing 2) Host.empty calls h → ∀ pairId,
      (h.file .revoked (recordFile pairId)).isSome → h.NoReconnect pairId := by
  intro hall
  have hfacts : ((activation.outcome (crashing 2)
        (completed authorization Host.empty)).visited.map Prod.fst)[2]? = some .rename ∧
      ((completed revocation uncleaned).file .revoked (recordFile (pairIdOf 7))).isSome ∧
      stale.map (Option.map PairedIdentityContext.pairId) = .ok (some (pairIdOf 7)) := by
    decide +kernel
  obtain ⟨hstep, hrevoked, hstale⟩ := hfacts
  have hrun : Run (crashing 2) Host.empty ([] ++ [authorization] ++ [activation] ++ [revocation])
      (completed revocation uncleaned) :=
    ((Run.start.call trivial .completes).call trivial (.interrupted (stateAt_mem hstep) trivial)).call trivial
      .completes
  cases hfound : stale with
  | error e =>
      rw [hfound] at hstale
      cases hstale
  | ok found =>
      cases found with
      | none =>
          rw [hfound] at hstale
          cases hstale
      | some context =>
          rw [hfound] at hstale
          have hpair : context.pairId = pairIdOf 7 := Option.some.inj (Except.ok.inj hstale)
          exact (hall _ _ hrun (pairIdOf 7) hrevoked).credential _ _ (.recovery hfound) hpair

end Loopback

end OmarchySync
