import OmarchySync.Enrollment

/-!
# Being discovered

An enrolled device announces itself. Everyone under the same root takes the announcement in
exactly while it is fresh, however many others have been heard before, as long as fewer of them
have been accepted than the replay cache can hold.
-/

namespace OmarchySync

open Logic Wire

section Announced

variable [Crypto]

/-- `sign_fresh`, with what the random source returns. -/
def DiscoveryAnnouncement.signFresh (identity : DeviceIdentity) (certificate : DeviceCertificate)
    (random : Result (Array8 32)) (timestamp : UInt64) (port : UInt16) :
    Result DiscoveryAnnouncement := do
  let nonce ← labelled "operating-system random source: " random
  sign identity certificate nonce timestamp port

namespace DiscoveryVerifier

/-- How many of the calls are accepted. -/
def acceptedCount (v : DiscoveryVerifier) : List (Bytes × UInt64) → ℕ
  | [] => 0
  | call :: calls =>
      (if (v.verify call.1 call.2).1.isOk then 1 else 0) +
        (v.verify call.1 call.2).2.acceptedCount calls

/-- No call is accepted under the key. -/
def NeverAccepts (v : DiscoveryVerifier) (key : ReplayKey) (calls : List (Bytes × UInt64)) : Prop :=
  ∀ before call after a, calls = before ++ call :: after → (v.after before).Accepts call a →
    a.replayKey ≠ key

variable {v : DiscoveryVerifier} {key : ReplayKey} {calls : List (Bytes × UInt64)}

/-- What a verifier is set up with. -/
structure SameSettings (v w : DiscoveryVerifier) : Prop where
  root : w.root = v.root
  maxAge : w.maxAge = v.maxAge
  maxFuture : w.maxFuture = v.maxFuture
  maxReplayEntries : w.maxReplayEntries = v.maxReplayEntries

private theorem verify_sameSettings (v : DiscoveryVerifier) (bytes : Bytes) (now : UInt64) :
    v.SameSettings (v.verify bytes now).2 := by
  rcases v.verify_cases bytes now with ⟨e, hcall⟩ | ⟨a, hadmitted, hcall⟩
  · rw [hcall]
    exact ⟨rfl, rfl, rfl, rfl⟩
  · rw [hcall]
    exact ⟨rfl, rfl, rfl, rfl⟩

private theorem after_sameSettings (v : DiscoveryVerifier) (calls : List (Bytes × UInt64)) :
    v.SameSettings (v.after calls) := by
  induction calls generalizing v with
  | nil => exact ⟨rfl, rfl, rfl, rfl⟩
  | cons call calls ih =>
      have hfirst := v.verify_sameSettings call.1 call.2
      have hrest := ih (v.verify call.1 call.2).2
      exact ⟨hrest.root.trans hfirst.root, hrest.maxAge.trans hfirst.maxAge,
        hrest.maxFuture.trans hfirst.maxFuture,
        hrest.maxReplayEntries.trans hfirst.maxReplayEntries⟩

theorem verify_eq_ok {bytes : Bytes} {now : UInt64} {a : DiscoveryAnnouncement}
    (hparsed : DiscoveryAnnouncement.fromBytes bytes = .ok a) :
    (v.verify bytes now).1 = .ok a.verified ↔ (v.pruneReplay now).checks bytes now = .ok a := by
  cases hchecks : (v.pruneReplay now).checks bytes now with
  | error e => simp only [verify, hchecks, reduceCtorEq]
  | ok a' =>
      have hsame := (admitted_of_checks hchecks).parsed
      rw [hparsed, Except.ok.injEq] at hsame
      subst hsame
      simp only [verify, hchecks]

private theorem pruneReplay_length_le (v : DiscoveryVerifier) (now : UInt64) :
    (v.pruneReplay now).seen.entries.length ≤ v.seen.entries.length :=
  retain_length_le ..

private theorem verify_length_le (v : DiscoveryVerifier) (bytes : Bytes) (now : UInt64) :
    (v.verify bytes now).2.seen.entries.length ≤
      v.seen.entries.length + if (v.verify bytes now).1.isOk then 1 else 0 := by
  have hpruned := v.pruneReplay_length_le now
  rcases v.verify_cases bytes now with ⟨e, hcall⟩ | ⟨a, hadmitted, hcall⟩
  · rw [hcall]
    exact hpruned
  · rw [hcall]
    have hinsert : ((v.pruneReplay now).seen.insert a.replayKey ⟨now, a.timestamp⟩).entries.length =
        (v.pruneReplay now).seen.entries.length + 1 := by
      rw [AList.entries_insert_of_notMem hadmitted.new, List.length_cons]
    show ((v.pruneReplay now).seen.insert a.replayKey ⟨now, a.timestamp⟩).entries.length ≤ _ + 1
    omega

private theorem after_length_le (v : DiscoveryVerifier) (calls : List (Bytes × UInt64)) :
    (v.after calls).seen.entries.length ≤ v.seen.entries.length + v.acceptedCount calls := by
  induction calls generalizing v with
  | nil => exact le_refl _
  | cons call calls ih =>
      have hrest := ih (v.verify call.1 call.2).2
      have hfirst := v.verify_length_le call.1 call.2
      show ((v.verify call.1 call.2).2.after calls).seen.entries.length ≤ _
      rw [acceptedCount]
      omega

private theorem not_mem_pruneReplay (h : key ∉ v.seen) {now : UInt64} : key ∉
    (v.pruneReplay now).seen := by
  rw [← AList.lookup_eq_none, lookup_pruneReplay, AList.lookup_eq_none.mpr h]
  rfl

private theorem NeverAccepts.not_mem (h : v.NeverAccepts key calls) (hnew : key ∉ v.seen) :
    key ∉ (v.after calls).seen := by
  induction calls generalizing v with
  | nil => exact hnew
  | cons call calls ih =>
      apply ih (v := (v.verify call.1 call.2).2)
      · intro before call' after a heq haccepts
        exact h (call :: before) call' after a (by rw [heq]; rfl) haccepts
      · have hpruned : key ∉ (v.pruneReplay call.2).seen := not_mem_pruneReplay hnew
        rcases v.verify_cases call.1 call.2 with ⟨e, hcall⟩ | ⟨a, hadmitted, hcall⟩
        · rw [hcall]
          exact hpruned
        · have hok : (v.verify call.1 call.2).1.isOk = true := by
            rw [hcall]
            rfl
          have hother : a.replayKey ≠ key := h [] call calls a rfl ⟨hadmitted.parsed, hok⟩
          rw [hcall]
          show key ∉ (v.pruneReplay call.2).seen.insert a.replayKey ⟨call.2, a.timestamp⟩
          rw [AList.mem_insert, not_or]
          exact ⟨hother.symm, hpruned⟩

end DiscoveryVerifier

namespace Enrollment.Enrolls

variable {e : Enrollment} {identity : DeviceIdentity} {nonce : Array8 32} {timestamp : UInt64}
  {port : UInt16} {a : DiscoveryAnnouncement} {bytes : Bytes} {v : DiscoveryVerifier} {now : UInt64}

/-- The announcement that an enrolled device makes. -/
structure Announces (e : Enrollment) (identity : DeviceIdentity) (nonce : Array8 32)
    (timestamp : UInt64) (port : UInt16) (a : DiscoveryAnnouncement) (bytes : Bytes) : Prop where
  signed : DiscoveryAnnouncement.sign identity e.certificate nonce timestamp port = .ok a
  encoded : a.toBytes = .ok bytes
  fields : a.protocolVersion = protocolVersion ∧ a.certificate = e.certificate ∧ a.nonce = nonce ∧
    a.timestamp = timestamp ∧ a.port = port
  signature : ∃ message, a.signingBytes = .ok message ∧
    a.signature = identity.sign message

private theorem announces (h : e.Enrolls identity) (hport : port ≠ 0) :
    ∃ a bytes, Announces e identity nonce timestamp port a bytes := by
  obtain ⟨certificate, hcertificate⟩ : ∃ certificate, e.certificate.toBytes = .ok certificate :=
    ⟨_, (DeviceCertificate.toBytes_eq_ok ..).mpr ⟨h.issued.shaped, rfl⟩⟩
  let unsigned : DiscoveryAnnouncement :=
    ⟨protocolVersion, e.certificate, nonce, timestamp, port, List.Vector.replicate 64 0⟩
  let message : Bytes := unsigned.layout certificate []
  let a : DiscoveryAnnouncement := { unsigned with signature := identity.sign message }
  have hmessage : unsigned.signingBytes = .ok message :=
    (DiscoveryAnnouncement.signingBytes_eq_ok ..).mpr ⟨rfl, certificate, hcertificate, rfl⟩
  refine ⟨a, a.layout certificate a.signature.toList, ?_, ?_, ⟨rfl, rfl, rfl, rfl, rfl⟩, ?_⟩
  · simp only [DiscoveryAnnouncement.sign, bind_eq_ok, bailIf_eq_ok, exists_const, not_or, not_not,
      pure_eq_ok]
    exact ⟨⟨h.publicKey, h.deviceId⟩, hport, message, hmessage, rfl⟩
  · exact (DiscoveryAnnouncement.toBytes_eq_ok ..).mpr ⟨rfl, certificate, hcertificate, rfl⟩
  · exact ⟨message, hmessage, rfl⟩

private theorem Announces.parsed (h : Announces e identity nonce timestamp port a bytes)
    (hport : port ≠ 0) : DiscoveryAnnouncement.fromBytes bytes = .ok a := by
  obtain ⟨-, certificate, hcertificate, hbytes⟩ :=
    (DiscoveryAnnouncement.toBytes_eq_ok ..).mp h.encoded
  refine (DiscoveryAnnouncement.fromBytes_eq_ok ..).mpr ⟨?_, certificate, hcertificate, hbytes⟩
  rw [h.fields.2.2.2.2]
  exact hport

private theorem Announces.checks [LawfulCrypto]
    (h : Announces e identity nonce timestamp port a bytes)
    (he : e.Enrolls identity) (hport : port ≠ 0) (hroot : v.root = e.root) :
    v.checks bytes now = .ok a ↔ e.certificate.ValidAt now ∧
      timestamp.toNat ≤ now.toNat + v.maxFuture.toNat ∧
      now.toNat - timestamp.toNat ≤ v.maxAge.toNat ∧ a.replayKey ∉ v.seen ∧
      v.seen.entries.length < v.maxReplayEntries := by
  obtain ⟨hversion, hcertificate, -, htimestamp, -⟩ := h.fields
  obtain ⟨message, hmessage, hsignature⟩ := h.signature
  have hverify : Crypto.verifyStrict e.certificate.publicKey message a.signature = true := by
    rw [he.publicKey, hsignature]
    exact LawfulCrypto.verifyStrict_sign _ _
  have hkey : Crypto.validKey e.certificate.publicKey = true := by
    rw [he.publicKey]
    exact LawfulCrypto.validKey_verifyingKey _
  have hlater : timestamp.toNat < 2 ^ 64 := timestamp.toNat_lt
  simp only [DiscoveryVerifier.checks, h.parsed hport, ok_bind, bind_eq_ok, bailIf_eq_ok,
    exists_const, hversion, hmessage, pure_eq_ok, DeviceCertificate.verify_eq_ok, hcertificate,
    hroot, htimestamp, gt_iff_lt, ge_iff_le, UInt64.not_lt, UInt64.le_iff_toNat_le,
    saturatingAdd_toNat, saturatingSub_toNat, not_le, Nat.le_min, hverify, hkey]
  constructor
  · rintro ⟨-, ⟨-, hvalid⟩, ⟨hfuture, -⟩, hfresh, -, -, hnew, hroom, -⟩
    exact ⟨hvalid, hfuture, hfresh, hnew, hroom⟩
  · rintro ⟨hvalid, hfuture, hfresh, hnew, hroom⟩
    exact ⟨by simp, ⟨he.issued, hvalid⟩, ⟨hfuture, by omega⟩, hfresh, by simp, by simp, hnew,
      hroom, trivial⟩

end Enrollment.Enrolls

section Discovered

variable {disk : Disk} {stateRoot : FsPath} {started : UInt64} {identity : DeviceIdentity}
  {e : Enrollment} {port : UInt16}

/-- An enrolled device is discovered while its announcement is fresh and its certificate valid,
whatever a verifier under the same root has been sent before. -/
theorem announcement_accepted [LawfulCrypto]
    (hloaded : loadEnrollment disk stateRoot started identity = .ok e) (hport : port ≠ 0)
    (nonce : Array8 32) (timestamp : UInt64) :
    ∃ a bytes,
      DiscoveryAnnouncement.signFresh identity e.certificate (.ok nonce) timestamp port = .ok a ∧
      a.toBytes = .ok bytes ∧ bytes.length ≤ maxDiscoveryBytes ∧
      a.verified =
        ⟨identity.deviceId, e.certificate.deviceName, identity.publicKey, timestamp, port⟩ ∧
      ∀ (maxAge maxFuture : UInt64) (calls : List (Bytes × UInt64)) (now : UInt64),
        (DiscoveryVerifier.withWindow e.root maxAge maxFuture).NeverAccepts a.replayKey calls →
        (DiscoveryVerifier.withWindow e.root maxAge maxFuture).acceptedCount calls <
          maxReplayEntries →
        ((((DiscoveryVerifier.withWindow e.root maxAge maxFuture).after calls).verify bytes now).1 =
            .ok a.verified ↔
          e.certificate.ValidAt now ∧ timestamp.toNat ≤ now.toNat + maxFuture.toNat ∧
            now.toNat - timestamp.toNat ≤ maxAge.toNat) := by
  obtain ⟨-, henrolls, -⟩ := loadEnrollment_ok hloaded
  obtain ⟨a, bytes, hannounces⟩ : ∃ a bytes,
      Enrollment.Enrolls.Announces e identity nonce timestamp port a bytes :=
    henrolls.announces hport
  have hparsed := hannounces.parsed hport
  refine ⟨a, bytes, hannounces.signed, hannounces.encoded,
    DiscoveryAnnouncement.fromBytes_canonical.bounded _ _ hparsed, ?_, ?_⟩
  · obtain ⟨-, hcertificate, -, htimestamp, hport'⟩ := hannounces.fields
    rw [DiscoveryAnnouncement.verified, hcertificate, htimestamp, hport', henrolls.deviceId,
      henrolls.publicKey]
  · intro maxAge maxFuture calls now hnever hroom
    let v := DiscoveryVerifier.withWindow e.root maxAge maxFuture
    have hsettings := v.after_sameSettings calls
    have hlength := v.after_length_le calls
    have hpruned := (v.after calls).pruneReplay_length_le now
    have hnew : a.replayKey ∉ ((v.after calls).pruneReplay now).seen :=
      DiscoveryVerifier.not_mem_pruneReplay (hnever.not_mem (AList.notMem_empty _))
    have hroot : ((v.after calls).pruneReplay now).root = e.root := hsettings.root
    have hmaxAge : ((v.after calls).pruneReplay now).maxAge = maxAge := hsettings.maxAge
    have hmaxFuture : ((v.after calls).pruneReplay now).maxFuture = maxFuture := hsettings.maxFuture
    have hentries : ((v.after calls).pruneReplay now).maxReplayEntries = maxReplayEntries :=
      hsettings.maxReplayEntries
    have hempty : v.seen.entries.length = 0 := rfl
    have hroom' : v.acceptedCount calls < maxReplayEntries := hroom
    rw [DiscoveryVerifier.verify_eq_ok hparsed, hannounces.checks henrolls hport hroot, hmaxAge,
      hmaxFuture, hentries]
    constructor
    · rintro ⟨hvalid, hfuture, hfresh, -, -⟩
      exact ⟨hvalid, hfuture, hfresh⟩
    · rintro ⟨hvalid, hfuture, hfresh⟩
      exact ⟨hvalid, hfuture, hfresh, hnew, by omega⟩

end Discovered

end Announced

namespace Loopback

attribute [local instance] crypto lawfulCrypto

theorem announcement_accepted_disk : ∃ a bytes,
    DiscoveryAnnouncement.signFresh ⟨keyOf 1⟩ (certificate (keyOf 1)) (.ok (keyOf 3)) 95 4000 =
      .ok a ∧
      a.toBytes = .ok bytes ∧
      ((DiscoveryVerifier.withWindow root 90 10).verify bytes 100).1 = .ok a.verified := by
  obtain ⟨a, bytes, hsigned, hencoded, -, -, haccepted⟩ :=
    announcement_accepted disk_enrolls (by decide : (4000 : UInt16) ≠ 0) (keyOf 3) 95
  refine ⟨a, bytes, hsigned, hencoded, (haccepted 90 10 [] 100 ?_ (by decide)).mpr ?_⟩
  · rintro (_ | _) call after a' heq <;> cases heq
  · exact ⟨by decide +kernel, by decide, by decide⟩

end Loopback

end OmarchySync

