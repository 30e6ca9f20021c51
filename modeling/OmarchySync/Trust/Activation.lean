import OmarchySync.Trust.Authorization

/-!
# Activation

Every active record carries two valid signatures over the same content, and the device's own
was made by one of its signing operations for exactly that content.
-/

namespace OmarchySync

open Logic Wire Traced

section Runs

variable [Crypto] [Noise]

/-- The record an operation takes from its caller. -/
def Op.argument : Op → Option PairingRecord
  | .coSign _ pending => some pending
  | .resumePrepare _ pending => some pending
  | .finalize _ record => some record
  | .reconcile _ record => some record
  | _ => none

/-- Nobody but the device makes signatures that verify under its key: the ones in a record
handed to a call are signatures the device made before. -/
def Call.Unforged (call : Call) (identity : DeviceIdentity) (h : Host) : Prop :=
  ∀ r role sig, call.op.argument = some r → ValidRole role →
    r.signatureFor role = some sig.toList →
    Crypto.verifyStrict identity.publicKey (r.layout [role]) sig = true →
    ∃ s, Event.signed s ∈ h.journal ∧ s.message = .ok (r.layout [role]) ∧
      sig = identity.sign (r.layout [role])

/-- The device participates in `r` under `role`, and an earlier signing operation made its
signature for exactly this content, where the journal says so. -/
structure SignedByOwner (S : Setting) (before : List Call) (journal : List Event)
    (r : PairingRecord) (role : UInt8) : Prop where
  participates : ValidRole role
  publicKey : r.publicKeyFor role = .ok S.identity.publicKey
  deviceId : S.identity.deviceId =
    if role = roleInitiator then r.initiatorDeviceId else r.responderDeviceId
  signature : r.signatureFor role = some (S.identity.sign (r.layout [role])).toList
  signer : ∃ call ∈ before, ∃ earlier unsigned,
    earlier ++ [.signed (.record unsigned role)] <+: journal ∧
      SignGround (call.store S) S.identity earlier call.op unsigned role ∧
        unsigned.unsigned = r.unsigned

/-- What holds of a record that `call` activated after the calls `before`. -/
structure SoundlyActive (S : Setting) (before : List Call) (call : Call) (journal : List Event)
    (r : PairingRecord) : Prop where
  activates : call.op.activates = some r
  complete : r.isComplete = true
  certified : Attested S.root r r.authorizedAt ∨ Attested S.root r call.now
  initiatorSigned : ∃ signature, r.initiatorSignature = some signature ∧
    r.SignedAs roleInitiator r.initiatorPublicKey signature
  responderSigned : ∃ signature, r.responderSignature = some signature ∧
    r.SignedAs roleResponder r.responderPublicKey signature
  deviceIds : r.initiatorDeviceId = deviceIdForPublicKey r.initiatorPublicKey ∧
    r.responderDeviceId = deviceIdForPublicKey r.responderPublicKey
  distinct : r.initiatorPublicKey ≠ r.responderPublicKey
  owner : ∃ role, SignedByOwner S before journal r role

private theorem SoundlyActive.mono {S : Setting} {before : List Call} {call : Call}
    {journal journal' : List Event} {r : PairingRecord}
    (h : SoundlyActive S before call journal r) (hgrows : journal <+: journal') :
    SoundlyActive S before call journal' r := by
  obtain ⟨role, howner⟩ := h.owner
  obtain ⟨signer, hsigner, earlier, unsigned, hprefix, hsigned⟩ := howner.signer
  exact { h with
    owner := ⟨role, { howner with
      signer := ⟨signer, hsigner, earlier, unsigned, hprefix.trans hgrows, hsigned⟩ }⟩ }

omit [Noise] in
theorem Attested.deviceIds {root : PinnedOmarchyRoot} {r : PairingRecord} {time : UInt64}
    (h : Attested root r time) : (r.initiatorDeviceId = deviceIdForPublicKey r.initiatorPublicKey ∧
      r.responderDeviceId = deviceIdForPublicKey r.responderPublicKey) ∧
      r.initiatorPublicKey ≠ r.responderPublicKey := by
  obtain ⟨initiator, responder, hcert, _, _⟩ := h
  have hinitiator := hcert.initiatorIssued.deviceId
  have hresponder := hcert.responderIssued.deviceId
  rw [hcert.initiatorFields.1, hcert.initiatorFields.2] at hinitiator
  rw [hcert.responderFields.1, hcert.responderFields.2] at hresponder
  refine ⟨⟨hinitiator, hresponder⟩, ?_⟩
  intro heq
  apply hcert.distinct
  rw [hinitiator, hresponder, heq]

omit [Noise] in
/-- A complete certified record carries a valid signature of each participant. -/
theorem Attested.signedAs {root : PinnedOmarchyRoot} {r : PairingRecord} {time : UInt64}
    (h : Attested root r time) (hcomplete : r.isComplete = true) :
    (∃ signature, r.initiatorSignature = some signature ∧
      r.SignedAs roleInitiator r.initiatorPublicKey signature) ∧
    ∃ signature, r.responderSignature = some signature ∧
      r.SignedAs roleResponder r.responderPublicKey signature := by
  obtain ⟨_, _, hcert, _, _⟩ := h
  rw [PairingRecord.isComplete, Bool.and_eq_true, Option.isSome_iff_exists,
    Option.isSome_iff_exists] at hcomplete
  obtain ⟨⟨sig, hsig⟩, sig', hsig'⟩ := hcomplete
  exact ⟨⟨sig, hsig, hcert.initiatorSigned sig hsig⟩, sig', hsig', hcert.responderSigned sig' hsig'⟩

/-- What an activation establishes before any assumption on signatures. -/
theorem ActiveGround.fits {store : PairingStore} {identity : DeviceIdentity} {op : Op}
    {r : PairingRecord} (hground : ActiveGround store identity op r) :
    ∃ session bound stored, validateSessionIdentity session identity = .ok () ∧
      PairingStore.FitsSession store r session identity true bound stored := by
  cases hground with
  | finalize hid hfits => exact ⟨_, _, _, hid, hfits⟩
  | reconcile hid hfits => exact ⟨_, _, _, hid, hfits⟩

theorem ActiveGround.argument {store : PairingStore} {identity : DeviceIdentity} {op : Op}
    {r : PairingRecord} (hground : ActiveGround store identity op r) : op.argument = some r := by
  cases hground <;> rfl

theorem NamesPeers.ownRole {r : PairingRecord} {session : AuthenticatedPairingSession}
    {identity : DeviceIdentity} {root : PinnedOmarchyRoot} {time : UInt64}
    (hpeers : NamesPeers r session) (hid : validateSessionIdentity session identity = .ok ())
    (hattested : Attested root r time) (hcomplete : r.isComplete = true) :
    ValidRole (localRole session) ∧ r.publicKeyFor (localRole session) = .ok identity.publicKey ∧
      identity.deviceId = (if localRole session = roleInitiator then r.initiatorDeviceId
        else r.responderDeviceId) ∧
      ∃ signature, r.signatureFor (localRole session) = some signature ∧
        r.SignedAs (localRole session) identity.publicKey signature := by
  have hne : roleResponder ≠ roleInitiator := by decide
  have hkey : identity.publicKey = session.localCertificate.publicKey := by
    simp only [validateSessionIdentity, bailIf_eq_ok, not_or, not_not] at hid
    exact hid.2
  obtain ⟨hinitiator, hresponder⟩ := hattested.signedAs hcomplete
  obtain ⟨hids, _⟩ := hattested.deviceIds
  cases hrole : session.isInitiator with
  | true =>
      have hown : identity.publicKey = r.initiatorPublicKey := by
        rw [hkey, ← hpeers.initiatorKey]
        simp [AuthenticatedPairingSession.certificatesByRole, hrole]
      have hlocal : localRole session = roleInitiator := by simp [localRole, hrole]
      rw [hlocal, if_pos rfl, DeviceIdentity.deviceId, hown]
      refine ⟨.inl rfl, by simp [PairingRecord.publicKeyFor], hids.1.symm, ?_⟩
      simpa [PairingRecord.signatureFor] using hinitiator
  | false =>
      have hown : identity.publicKey = r.responderPublicKey := by
        rw [hkey, ← hpeers.responderKey]
        simp [AuthenticatedPairingSession.certificatesByRole, hrole]
      have hlocal : localRole session = roleResponder := by simp [localRole, hrole]
      rw [hlocal, if_neg hne, DeviceIdentity.deviceId, hown]
      refine ⟨.inr rfl, by simp [PairingRecord.publicKeyFor, hne], hids.2.symm, ?_⟩
      simpa [PairingRecord.signatureFor, hne] using hresponder

theorem PairingStore.FitsSession.binds {store : PairingStore} {r : PairingRecord}
    {session : AuthenticatedPairingSession} {identity : DeviceIdentity}
    {complete bound stored : Bool}
    (hfits : FitsSession store r session identity complete bound stored)
    (hid : validateSessionIdentity session identity = .ok ()) :
    r.binds identity.deviceId session.peerCertificate.deviceId := by
  have hkey : identity.publicKey = session.localCertificate.publicKey := by
    simp only [validateSessionIdentity, bailIf_eq_ok, not_or, not_not] at hid
    exact hid.2
  obtain ⟨⟨hinitiator, hresponder⟩, -⟩ := hfits.attested.deviceIds
  obtain ⟨hpeer, hpeer', howner, howner'⟩ := hfits.peers
  cases hrole : session.isInitiator with
  | true =>
      simp only [AuthenticatedPairingSession.certificatesByRole, hrole, if_true] at hpeer' howner
      refine .inl ⟨?_, hpeer'.symm⟩
      rw [hinitiator, ← howner, ← hkey, DeviceIdentity.deviceId]
  | false =>
      simp only [AuthenticatedPairingSession.certificatesByRole, hrole, Bool.false_eq_true,
        if_false] at hpeer howner'
      refine .inr ⟨hpeer.symm, ?_⟩
      rw [hresponder, ← howner', ← hkey, DeviceIdentity.deviceId]

/-- The record signatures in the journal were made by signing operations of the run. -/
def Accounted (S : Setting) (calls : List Call) (journal : List Event) : Prop :=
  ∀ r role, Event.signed (.record r role) ∈ journal → ∃ call ∈ calls, ∃ earlier,
    earlier ++ [.signed (.record r role)] <+: journal ∧
      SignGround (call.store S) S.identity earlier call.op r role

private theorem Accounted.grow {S : Setting} {calls calls' : List Call}
    {journal journal' : List Event} (h : Accounted S calls journal) (hcalls : calls ⊆ calls')
    (hgrows : journal <+: journal') {r : PairingRecord} {role : UInt8}
    (hmem : Event.signed (.record r role) ∈ journal) : ∃ call ∈ calls', ∃ earlier,
      earlier ++ [.signed (.record r role)] <+: journal' ∧
        SignGround (call.store S) S.identity earlier call.op r role := by
  obtain ⟨signer, hsigner, earlier, hprefix, hsign⟩ := h r role hmem
  exact ⟨signer, hcalls hsigner, earlier, hprefix.trans hgrows, hsign⟩

theorem ActiveGround.soundlyActive {S : Setting} {before : List Call} {call : Call} {h : Host}
    {r : PairingRecord} (hground : ActiveGround (call.store S) S.identity call.op r)
    (hunforged : call.Unforged S.identity h) (haccounted : Accounted S before h.journal) :
    SoundlyActive S before call h.journal r := by
  obtain ⟨session, bound, stored, hid, hfits⟩ := hground.fits
  have hcomplete := hfits.complete rfl
  obtain ⟨hrole, hpublic, hdevice, sig, hsig, hsigned⟩ :=
    hfits.peers.ownRole hid hfits.attested hcomplete
  obtain ⟨hinitiator, hresponder⟩ := hfits.attested.signedAs hcomplete
  obtain ⟨hids, hdistinct⟩ := hfits.attested.deviceIds
  obtain ⟨signature, rfl, hverifies⟩ := hsigned.verifies
  obtain ⟨s, hmem, hmessage, hsame⟩ := hunforged r _ signature hground.argument hrole hsig hverifies
  -- the domain of the signature leaves only a record signing with this content and role
  obtain ⟨unsigned, rfl, hunsigned⟩ := Signing.eq_record_of_message hsigned.signable hmessage
  obtain ⟨signer, hsigner, earlier, hprefix, hsign⟩ := haccounted _ _ hmem
  refine ⟨hground.activates, hcomplete, ?_, hinitiator, hresponder, hids, hdistinct, _, hrole,
    hpublic, hdevice, hsame ▸ hsig, signer, hsigner, earlier, unsigned, hprefix, hsign,
    hunsigned⟩
  cases stored with
  | true => exact .inl hfits.attested
  | false => exact .inr hfits.attested

variable [Serde]

/-- Every active file is a temporary one, or holds a soundly activated record under its
PairID. -/
structure ActiveFilesSound (S : Setting) (calls : List Call) (h : Host) : Prop where
  named : ∀ name bytes, h.file .active name = some bytes →
    (∃ pairId, HexId pairId ∧ name = recordFile pairId) ∨
      ∃ pairId stamp, name = temporaryName (recordFile pairId) stamp
  sound : ∀ pairId bytes, HexId pairId → h.file .active (recordFile pairId) = some bytes →
    ∃ r, r.pairId = pairId ∧ bytes = r.toVec ∧
      ∃ before call later, calls = before ++ call :: later ∧
        SoundlyActive S before call h.journal r

private theorem StoreStep.active_name {store : PairingStore} {env : Env}
    {identity : DeviceIdentity} {op : Op} {l : FsStep} {h g : Host} {name : FileName}
    {bytes : Bytes} (hstep : StoreStep store env identity op l h g)
    (hfile : g.file .active name = some bytes) : (h.file .active name).isSome ∨
      (∃ pairId, HexId pairId ∧ name = recordFile pairId) ∨
        ∃ pairId stamp, name = temporaryName (recordFile pairId) stamp := by
  have hstays : h.file .active name = some bytes → (h.file .active name).isSome := by
    intro hold
    rw [hold]
    rfl
  cases hstep with
  | approve _ _ => exact .inl (hstays hfile)
  | sign _ => exact .inl (hstays hfile)
  | @stage _ _ _ pairId _ _ _ =>
      rw [Host.file_put] at hfile
      split at hfile
      next heq => exact .inr (.inr ⟨pairId, env.stamp, heq.2⟩)
      next => exact .inl (hstays hfile)
  | unstage _ =>
      rw [Host.file_drop] at hfile
      split at hfile
      · cases hfile
      · exact .inl (hstays hfile)
  | commitPending _ _ hstaged _ =>
      rw [Host.file_rename_ne hstaged (by simp) (by simp)] at hfile
      exact .inl (hstays hfile)
  | @commitActive _ record hground _ hstaged _ _ =>
      rw [Host.rename_of_file hstaged, Host.file_put] at hfile
      split at hfile
      next heq =>
        obtain ⟨_, _, _, _, hfits⟩ := hground.fits
        obtain ⟨_, _, hcert, _, _⟩ := hfits.attested
        exact .inr (.inl ⟨record.pairId, hcert.shaped.pairId, heq.2⟩)
      next =>
        rw [Host.file_drop] at hfile
        split at hfile
        · cases hfile
        · exact .inl (hstays hfile)
  | removePending _ _ _ _ _ =>
      rw [Host.file_drop, if_neg (by simp)] at hfile
      exact .inl (hstays hfile)
  | revoke _ _ hactive _ _ _ =>
      rw [Host.rename_of_file hactive, Host.file_put, if_neg (by simp), Host.file_drop] at hfile
      split at hfile
      · cases hfile
      · exact .inl (hstays hfile)

omit [Serde] in
private theorem ActiveFilesSound.keep {S : Setting} {calls rest : List Call} {a b : Host}
    (h : ActiveFilesSound S calls a) (hgrows : a.journal <+: b.journal)
    (hsame : ∀ name, b.file .active name = a.file .active name) :
    ActiveFilesSound S (calls ++ rest) b := by
  constructor
  · intro name bytes hfile
    exact h.named name bytes (hsame name ▸ hfile)
  · intro pairId bytes hid hfile
    obtain ⟨r, hpair, hbytes, before, call, later, rfl, hsound⟩ :=
      h.sound pairId bytes hid (hsame _ ▸ hfile)
    exact ⟨r, hpair, hbytes, before, call, later ++ rest, by simp, hsound.mono hgrows⟩

/-- If nobody else makes signatures under the device's key, every active record of every
reachable state was soundly activated. -/
theorem activeFiles_sound {S : Setting} {calls : List Call} {h : Host}
    (hunforged : ∀ h call, S.allowed h call → call.Unforged S.identity h)
    (hrun : Run S Host.empty calls h) : ActiveFilesSound S calls h := by
  have hboth : ActiveFilesSound S calls h ∧ Accounted S calls h.journal := by
    refine hrun.invariant (I := fun calls a => ActiveFilesSound S calls a ∧
      Accounted S calls a.journal) ?_ ?_ ?_ ?_
    · have hnone : ∀ name bytes, Host.empty.file .active name ≠ some bytes := by
        intro name bytes hfile
        rw [Host.file_empty] at hfile
        cases hfile
      refine ⟨⟨?_, ?_⟩, ?_⟩
      · exact fun name bytes hfile => absurd hfile (hnone name bytes)
      · exact fun pairId bytes _ hfile => absurd hfile (hnone _ bytes)
      · intro r role hmem
        cases hmem
    · intro calls call a ha
      refine ⟨ha.1.keep (List.prefix_refl _) fun _ => rfl, ?_⟩
      intro r role hmem
      exact ha.2.grow (List.subset_append_left _ _) (List.prefix_refl _) hmem
    · intro calls a s hs ha
      have hgrows : a.journal <+: (a.log (.signed s)).journal := List.prefix_append _ _
      refine ⟨List.append_nil calls ▸ ha.1.keep hgrows fun _ => rfl, ?_⟩
      intro r role hmem
      rw [Host.journal_log, List.mem_append, List.mem_singleton] at hmem
      rcases hmem with hold | heq
      · exact ha.2.grow (List.Subset.refl _) hgrows hold
      · exact absurd (Event.signed.inj heq).symm (hs r role)
    · intro calls call h hallowed hh l a b hgrows hstep ha
      have hstepped := hstep.journal
      refine ⟨⟨?_, ?_⟩, ?_⟩
      · intro name bytes hfile
        rcases hstep.active_name hfile with hold | hnew
        · obtain ⟨bytes', hfile'⟩ := Option.isSome_iff_exists.mp hold
          exact ha.1.named name bytes' hfile'
        · exact hnew
      · intro pairId bytes hid hfile
        rcases hstep.active_file hid hfile with hold | ⟨r, hground, hpair, hbytes, _⟩
        · obtain ⟨r, hpair, hbytes, before, call', later, hcalls, hsound⟩ :=
            ha.1.sound pairId bytes hid hold
          exact ⟨r, hpair, hbytes, before, call', later, hcalls, hsound.mono hstepped⟩
        · have hsound := hground.soundlyActive (hunforged h call hallowed) hh.2
          exact ⟨r, hpair, hbytes, calls, call, [], rfl, hsound.mono (hgrows.trans hstepped)⟩
      · intro r role hmem
        cases hstep with
        | approve _ _ =>
            rw [Host.journal_log, List.mem_append, List.mem_singleton] at hmem
            rcases hmem with hold | heq
            · exact ha.2.grow (List.Subset.refl _) hstepped hold
            · cases heq
        | sign hground =>
            rw [Host.journal_log, List.mem_append, List.mem_singleton] at hmem
            rcases hmem with hold | heq
            · exact ha.2.grow (List.Subset.refl _) hstepped hold
            · cases heq
              exact ⟨call, by simp, _, List.prefix_refl _, hground⟩
        | _ => exact ha.2.grow (List.Subset.refl _) hstepped (by simpa using hmem)
  exact hboth.1

end Runs

namespace Loopback

attribute [local instance] crypto noise PairingRecord.canonicalSerde

/-- One device that gets no forged signatures. -/
def unforged (b : UInt8) : Setting where
  root := root
  identity := identity b
  cut _ := True
  allowed h call := call.Unforged (identity b) h

/-- The state after the responder's authorization. -/
def authorized : Host :=
  endState Host.empty (authorization.outcome (unforged 2) Host.empty).visited

private theorem activation_unforged : activation.Unforged (identity 2) authorized := by
  have hjournal : authorized.journal = [.approved (certificate (keyOf 1)),
      .signed (.record (recordOf 7 1 2 2 100) roleResponder)] := by decide +kernel
  intro r role sig hr hrole hsig hverify
  cases hr
  rcases hrole with rfl | rfl
  · -- the initiator's signature does not verify under the responder's key
    have heq : sig = (identity 1).sign ((recordOf 7 1 2 2 100).layout [roleInitiator]) :=
      List.Vector.toList_injective (Option.some.inj hsig).symm
    subst heq
    exact absurd hverify (by decide +kernel)
  · have heq : sig = (identity 2).sign
        ((signedBy (recordOf 7 1 2 2 100) 1 roleInitiator).layout [roleResponder]) :=
      List.Vector.toList_injective (Option.some.inj hsig).symm
    refine ⟨.record (recordOf 7 1 2 2 100) roleResponder, by simp [hjournal], by decide +kernel, ?_⟩
    exact heq

theorem activeFiles_sound_activation :
    ActiveFilesSound (unforged 2) ([] ++ [authorization] ++ [activation])
      (endState authorized (activation.outcome (unforged 2) authorized).visited) := by
  have hprepared : Run (unforged 2) Host.empty ([] ++ [authorization]) authorized :=
    .call .start (fun _ _ _ hr => nomatch hr) .completes
  exact activeFiles_sound (fun _ _ h => h) (.call hprepared activation_unforged .completes)

end Loopback

end OmarchySync
