import OmarchySync.Trust.Agreement

/-!
# Authorization

Only `prepare` asks the broker. The other two signing operations sign for an approval they
take from their arguments: `coSign` from a record of the peer, `resumePrepare` from a pending
record.
-/

namespace OmarchySync

open Logic Wire Traced

/-- The participant other than the one that signs under `role`. -/
def PairingRecord.otherDeviceId (r : PairingRecord) (role : UInt8) : Text :=
  if role = roleInitiator then r.responderDeviceId else r.initiatorDeviceId

/-- The records in the journal that claim the authorization of `deviceId` follow the approval of
a certificate of their other participant. -/
def AuthorizedJournal (deviceId : Text) (journal : List Event) : Prop :=
  ∀ before r role, before ++ [.signed (.record r role)] <+: journal →
    r.authorizingDeviceId = deviceId →
    ∃ cert, Event.approved cert ∈ before ∧ cert.deviceId = r.otherDeviceId role

private theorem AuthorizedJournal.append {deviceId : Text} {journal : List Event} {e : Event}
    (h : AuthorizedJournal deviceId journal)
    (hnew : ∀ r role, e = .signed (.record r role) → r.authorizingDeviceId = deviceId →
      ∃ cert, Event.approved cert ∈ journal ∧ cert.deviceId = r.otherDeviceId role) :
    AuthorizedJournal deviceId (journal ++ [e]) := by
  intro before r role hprefix hauth
  rcases List.prefix_concat_iff.mp hprefix with heq | hold
  · obtain ⟨rfl, hlast⟩ := List.append_inj' heq rfl
    rw [List.singleton_inj] at hlast
    exact hnew r role hlast.symm hauth
  · exact h before r role hold hauth

private theorem AuthorizedJournal.of_mem {deviceId : Text} {journal : List Event}
    {r : PairingRecord}
    {role : UInt8} (h : AuthorizedJournal deviceId journal)
    (hmem : Event.signed (.record r role) ∈ journal) (hauth : r.authorizingDeviceId = deviceId) :
    ∃ cert, Event.approved cert ∈ journal ∧ cert.deviceId = r.otherDeviceId role := by
  obtain ⟨before, rest, rfl⟩ := List.append_of_mem hmem
  obtain ⟨cert, hcert, hid⟩ := h before r role ⟨rest, by simp⟩ hauth
  exact ⟨cert, by simp [hcert], hid⟩

section Runs

variable [Crypto] [Noise]

/-- A record that `coSign` accepts does not claim the device's own authorization; a pending
record that `resumePrepare` accepts is one the device signed, for the peer of the session. -/
def Call.OwnAuthorization (call : Call) (S : Setting) (h : Host) : Prop :=
  match call.op with
  | .coSign session pending =>
      (call.store S).validateRecord pending session S.identity false true false = .ok () →
        pending.authorizingDeviceId ≠ S.identity.deviceId
  | .resumePrepare session pending =>
      (call.store S).validatePendingStored pending = .ok () →
      pending.authorizingDeviceId = S.identity.deviceId →
        ∃ r role, Event.signed (.record r role) ∈ h.journal ∧ r.unsigned = pending.unsigned ∧
          r.otherDeviceId role = session.peerCertificate.deviceId
  | _ => True

private theorem recordFromSession_otherDeviceId {session : AuthenticatedPairingSession}
    {pairId : Text}
    {grant : AuthorizationGrant} {identity : DeviceIdentity} {base : PairingRecord}
    (hbase : recordFromSession session pairId grant identity = .ok base) :
    base.otherDeviceId (localRole session) = session.peerCertificate.deviceId := by
  have hne : roleResponder ≠ roleInitiator := by decide
  simp only [recordFromSession, bind_eq_ok, pure_eq_ok] at hbase
  obtain ⟨_, _, _, _, rfl⟩ := hbase
  cases hrole : session.isInitiator <;>
    simp [PairingRecord.otherDeviceId, localRole, AuthenticatedPairingSession.certificatesByRole,
      hrole, hne]

/-- Every record an operation signs was authorized before. -/
theorem SignGround.authorized {S : Setting} {call : Call} {h a : Host} {r : PairingRecord}
    {role : UInt8} (hground : SignGround (call.store S) S.identity a.journal call.op r role)
    (hown : call.OwnAuthorization S h) (hgrows : h.journal <+: a.journal)
    (hjournal : AuthorizedJournal S.identity.deviceId a.journal)
    (hauth : r.authorizingDeviceId = S.identity.deviceId) :
    ∃ cert, Event.approved cert ∈ a.journal ∧ cert.deviceId = r.otherDeviceId role := by
  generalize hop : call.op = op at hground
  cases hground with
  | prepare _ _ happroved hbase =>
      exact ⟨_, happroved, (recordFromSession_otherDeviceId hbase).symm⟩
  | coSign _ _ hfits _ =>
      rw [Call.OwnAuthorization, hop] at hown
      exact absurd hauth (hown ((PairingStore.validateRecord_eq_ok _ _ _ _ _ _ _ ()).mpr hfits))
  | resumePrepare _ hstored hpending hbase =>
      rw [Call.OwnAuthorization, hop] at hown
      obtain ⟨r', role', hmem, hunsigned, hother⟩ := hown hstored hpending
      have hauth' : r'.authorizingDeviceId = S.identity.deviceId := by
        have hsame := congrArg PairingRecord.authorizingDeviceId hunsigned
        exact hsame.trans hpending
      obtain ⟨cert, hcert, hid⟩ := hjournal.of_mem (hgrows.subset hmem) hauth'
      refine ⟨cert, hcert, ?_⟩
      rw [hid, hother]
      exact (recordFromSession_otherDeviceId hbase).symm

variable [Serde]

/-- In every run whose calls bring their own authorization, the device signs a record claiming
its authorization only after its broker approved the other participant. -/
theorem authorized_of_ownAuthorization {S : Setting} {calls : List Call} {h : Host}
    (hown : ∀ h call, S.allowed h call → call.OwnAuthorization S h)
    (hrun : Run S Host.empty calls h) : AuthorizedJournal S.identity.deviceId h.journal := by
  refine hrun.invariant (I := fun _ a => AuthorizedJournal S.identity.deviceId a.journal) ?_
    (fun _ _ _ ha => ha) ?_ ?_
  · intro before r role hprefix
    have hlen := hprefix.length_le
    simp [Host.empty] at hlen
  · intro _ a s hs ha
    exact ha.append fun r role heq => absurd (Event.signed.inj heq) (hs r role)
  · intro _ call h hallowed _ l a b hgrows hstep ha
    cases hstep with
    | approve _ _ => exact ha.append fun r role heq => nomatch heq
    | sign hground =>
        refine ha.append ?_
        intro r role heq hauth
        cases heq
        exact hground.authorized (hown h call hallowed) hgrows ha hauth
    | _ => simpa using ha

end Runs

namespace Loopback

attribute [local instance] crypto noise PairingRecord.canonicalSerde

/-- One device whose calls bring their own authorization. -/
def owned (b : UInt8) : Setting where
  root := root
  identity := identity b
  cut _ := True
  allowed h call := call.OwnAuthorization ⟨root, identity b, fun _ => True, fun _ _ => True⟩ h

theorem authorized_of_ownAuthorization_coSigning :
    AuthorizedJournal (owned 2).identity.deviceId
      (completed coSigning (completed authorization Host.empty)).journal := by
  have hauthorized : Run (owned 2) Host.empty ([] ++ [authorization])
      (completed authorization Host.empty) := .call .start trivial .completes
  have hown : (owned 2).allowed (completed authorization Host.empty) coSigning := by
    intro _
    decide +kernel
  exact authorized_of_ownAuthorization (fun _ _ h => h) (.call hauthorized hown .completes)

/-- The initiator's record claims that the responder authorized the pairing. -/
def misattributed : Call :=
  ⟨100, env, .coSign (sessionOf 7 2 1 roleResponder)
    (signedBy (recordOf 7 1 2 2 100) 1 roleInitiator)⟩

/-- The responder signs it although its broker was never asked. -/
theorem coSign_misattributed :
    ¬∀ calls h, Run (uncrashed 2) Host.empty calls h →
      AuthorizedJournal (identity 2).deviceId h.journal := by
  intro hall
  have hrun : Run (uncrashed 2) Host.empty [misattributed]
      (endState Host.empty (misattributed.outcome (uncrashed 2) Host.empty).visited) :=
    Run.start.call trivial .completes
  have hjournal : (endState Host.empty
      (misattributed.outcome (uncrashed 2) Host.empty).visited).journal =
        [.signed (.record (signedBy (recordOf 7 1 2 2 100) 1 roleInitiator) roleResponder)] := by
    decide +kernel
  have hclaims : (signedBy (recordOf 7 1 2 2 100) 1 roleInitiator).authorizingDeviceId =
      (identity 2).deviceId := by decide +kernel
  have hauthorized := hall _ _ hrun
  rw [hjournal] at hauthorized
  obtain ⟨cert, hcert, _⟩ := hauthorized [] _ _ (List.prefix_refl _) hclaims
  cases hcert

end Loopback

end OmarchySync
