import Mathlib.Data.List.AList
import OmarchySync.Announcement
import OmarchySync.Logic.Map

/-!
# Discovery replay protection

The verifier of announcements with its bounded replay cache. Pruning forgets an entry only once
its announcement has gone stale for good, so nothing is accepted twice however long it runs.
-/

namespace OmarchySync

open Logic Wire

def maxDiscoveryAgeSeconds : UInt64 := 90
def maxDiscoveryFutureSeconds : UInt64 := 10
def maxReplayEntries : Nat := 4096

/-- `u64::saturating_add`. -/
def saturatingAdd (a b : UInt64) : UInt64 := if a.toNat + b.toNat < 2 ^ 64 then a + b else -1

/-- `u64::saturating_sub`. -/
def saturatingSub (a b : UInt64) : UInt64 := if b ≤ a then a - b else 0

theorem saturatingAdd_toNat (a b : UInt64) :
    (saturatingAdd a b).toNat = min (a.toNat + b.toNat) (2 ^ 64 - 1) := by
  unfold saturatingAdd
  split
  · rw [UInt64.toNat_add, Nat.mod_eq_of_lt (by assumption)]
    omega
  · have hmax : (-1 : UInt64).toNat = 2 ^ 64 - 1 := by decide
    rw [hmax]
    omega

theorem saturatingSub_toNat (a b : UInt64) :
    (saturatingSub a b).toNat = a.toNat - b.toNat := by
  unfold saturatingSub
  split
  next h => exact UInt64.toNat_sub_of_le _ _ h
  next h =>
    have hlt : a.toNat < b.toNat := UInt64.lt_iff_toNat_lt.mp (UInt64.not_le.mp h)
    have hzero : (0 : UInt64).toNat = 0 := rfl
    omega

/-- The DeviceID and the nonce of an announcement. -/
abbrev ReplayKey := Text × Array8 32

structure ReplayEntry where
  acceptedAt : UInt64
  announcementTimestamp : UInt64

/-- The entries that pass a test, as `HashMap::retain` leaves them. -/
def retain (p : ReplayEntry → Bool) (seen : AList fun _ : ReplayKey => ReplayEntry) :
    AList fun _ : ReplayKey => ReplayEntry :=
  ⟨seen.entries.filter fun e => p e.2, seen.nodupKeys.sublist List.filter_sublist⟩

private theorem lookup_retain (p : ReplayEntry → Bool)
    (seen : AList fun _ : ReplayKey => ReplayEntry)
    (key : ReplayKey) : (retain p seen).lookup key = (seen.lookup key).filter p :=
  lookup_filterValues p seen key

theorem retain_length_le (p : ReplayEntry → Bool)
    (seen : AList fun _ : ReplayKey => ReplayEntry) :
    (retain p seen).entries.length ≤ seen.entries.length :=
  filterValues_length_le p seen

structure VerifiedDiscovery where
  deviceId : Text
  deviceName : Text
  publicKey : Array8 32
  timestamp : UInt64
  port : UInt16

namespace DiscoveryAnnouncement

def replayKey (a : DiscoveryAnnouncement) : ReplayKey := (a.certificate.deviceId, a.nonce)

def verified (a : DiscoveryAnnouncement) : VerifiedDiscovery where
  deviceId := a.certificate.deviceId
  deviceName := a.certificate.deviceName
  publicKey := a.certificate.publicKey
  timestamp := a.timestamp
  port := a.port

end DiscoveryAnnouncement

section Verifier

variable [Crypto]

/-- The two windows count in whole seconds. -/
structure DiscoveryVerifier where
  root : PinnedOmarchyRoot
  maxAge : UInt64
  maxFuture : UInt64
  seen : AList fun _ : ReplayKey => ReplayEntry
  maxReplayEntries : Nat

namespace DiscoveryVerifier

def withWindow (root : PinnedOmarchyRoot) (maxAge maxFuture : UInt64) : DiscoveryVerifier :=
  ⟨root, maxAge, maxFuture, ∅, OmarchySync.maxReplayEntries⟩

def new (root : PinnedOmarchyRoot) : DiscoveryVerifier :=
  withWindow root maxDiscoveryAgeSeconds maxDiscoveryFutureSeconds

def withReplayLimit (root : PinnedOmarchyRoot) (maxAge maxFuture : UInt64)
    (maxReplayEntries : Nat) : Result DiscoveryVerifier := do
  bailIf (maxReplayEntries = 0) "replay cache limit must not be zero"
  return ⟨root, maxAge, maxFuture, ∅, maxReplayEntries⟩

/-- The entries that `pruneReplay` leaves in the cache. -/
def keeps (v : DiscoveryVerifier) (now : UInt64) (entry : ReplayEntry) : Bool :=
  saturatingSub now entry.acceptedAt ≤ saturatingAdd v.maxAge v.maxFuture &&
    saturatingSub now entry.announcementTimestamp ≤ v.maxAge

def pruneReplay (v : DiscoveryVerifier) (now : UInt64) : DiscoveryVerifier :=
  { v with seen := retain (v.keeps now) v.seen }

/-- The checks of `verify` behind the pruning. -/
def checks (v : DiscoveryVerifier) (bytes : Bytes) (now : UInt64) :
    Result DiscoveryAnnouncement := do
  let announcement ← DiscoveryAnnouncement.fromBytes bytes
  bailIf (announcement.protocolVersion ≠ protocolVersion)
    "unsupported or downgraded discovery protocol version"
  announcement.certificate.verify v.root now
  bailIf (announcement.timestamp > saturatingAdd now v.maxFuture)
    "discovery announcement is from the future"
  bailIf (saturatingSub now announcement.timestamp > v.maxAge) "discovery announcement is stale"
  bailIf (Crypto.validKey announcement.certificate.publicKey = false)
    "Cannot decompress Edwards point"
  let signed ← announcement.signingBytes
  bailIf (Crypto.verifyStrict announcement.certificate.publicKey signed
    announcement.signature = false) "invalid discovery device signature"
  bailIf (announcement.replayKey ∈ v.seen) "discovery nonce has already been accepted"
  bailIf (v.seen.entries.length ≥ v.maxReplayEntries) "discovery replay cache is full"
  return announcement

def verify (v : DiscoveryVerifier) (bytes : Bytes) (now : UInt64) :
    Result VerifiedDiscovery × DiscoveryVerifier :=
  let v := v.pruneReplay now
  match v.checks bytes now with
  | .error e => (.error e, v)
  | .ok announcement =>
      (.ok announcement.verified,
        { v with seen := v.seen.insert announcement.replayKey ⟨now, announcement.timestamp⟩ })

/-- What the cache needs of an admitted announcement. -/
structure Admitted (v : DiscoveryVerifier) (bytes : Bytes) (now : UInt64)
    (a : DiscoveryAnnouncement) : Prop where
  parsed : DiscoveryAnnouncement.fromBytes bytes = .ok a
  notFuture : a.timestamp.toNat ≤ now.toNat + v.maxFuture.toNat
  fresh : now.toNat - a.timestamp.toNat ≤ v.maxAge.toNat
  new : a.replayKey ∉ v.seen
  room : v.seen.entries.length < v.maxReplayEntries

theorem admitted_of_checks {v : DiscoveryVerifier} {bytes : Bytes} {now : UInt64}
    {a : DiscoveryAnnouncement} (h : v.checks bytes now = .ok a) : v.Admitted bytes now a := by
  simp only [checks, bind_eq_ok, bailIf_eq_ok, pure_eq_ok, exists_const, UInt64.not_lt, gt_iff_lt,
    ge_iff_le, not_le] at h
  obtain ⟨_, hparsed, -, _, -, hfuture, hstale, -, _, -, -, hnew, hroom, rfl⟩ := h
  rw [UInt64.le_iff_toNat_le, saturatingAdd_toNat] at hfuture
  rw [UInt64.le_iff_toNat_le, saturatingSub_toNat] at hstale
  exact ⟨hparsed, by omega, hstale, hnew, hroom⟩

variable {v : DiscoveryVerifier} {bytes : Bytes} {now : UInt64}

/-- A call that is rejected only prunes; one that is accepted then adds its own entry. -/
theorem verify_cases (v : DiscoveryVerifier) (bytes : Bytes) (now : UInt64) :
    (∃ e, v.verify bytes now = (.error e, v.pruneReplay now)) ∨
      ∃ a, (v.pruneReplay now).Admitted bytes now a ∧ v.verify bytes now = (.ok a.verified,
        { v.pruneReplay now with
          seen := (v.pruneReplay now).seen.insert a.replayKey ⟨now, a.timestamp⟩ }) := by
  cases hchecks : (v.pruneReplay now).checks bytes now with
  | error e => exact .inl ⟨e, by simp only [verify, hchecks]⟩
  | ok a => exact .inr ⟨a, admitted_of_checks hchecks, by simp only [verify, hchecks]⟩

/-- Every entry is of an announcement that was not too far in the future. -/
def Dated (v : DiscoveryVerifier) : Prop :=
  ∀ key entry, v.seen.lookup key = some entry →
    entry.announcementTimestamp.toNat ≤ entry.acceptedAt.toNat + v.maxFuture.toNat

/-- An announcement of this time is stale from `clock` on. -/
def Stale (v : DiscoveryVerifier) (timestamp clock : UInt64) : Prop :=
  v.maxAge.toNat < clock.toNat - timestamp.toNat

private theorem Stale.later {timestamp clock : UInt64} (h : v.Stale timestamp clock)
    (hle : clock ≤ now) :
    v.Stale timestamp now := by
  have hle' := UInt64.le_iff_toNat_le.mp hle
  unfold Stale at *
  omega

private theorem stale_of_not_keeps {entry : ReplayEntry}
    (hdated : entry.announcementTimestamp.toNat ≤ entry.acceptedAt.toNat + v.maxFuture.toNat)
    (h : v.keeps now entry = false) : v.Stale entry.announcementTimestamp now := by
  simp only [keeps, Bool.and_eq_false_iff, decide_eq_false_iff_not, UInt64.not_le,
    UInt64.lt_iff_toNat_lt, saturatingAdd_toNat, saturatingSub_toNat] at h
  have hnow := now.toNat_lt
  unfold Stale
  omega

theorem lookup_pruneReplay (v : DiscoveryVerifier) (now : UInt64) (key : ReplayKey) :
    (v.pruneReplay now).seen.lookup key = (v.seen.lookup key).filter (v.keeps now) :=
  lookup_retain ..

private theorem Dated.pruneReplay (h : v.Dated) (now : UInt64) : (v.pruneReplay now).Dated := by
  intro key entry hentry
  rw [lookup_pruneReplay, Option.filter_eq_some_iff] at hentry
  exact h key entry hentry.1

private theorem Dated.verify (h : v.Dated) (bytes : Bytes) (now : UInt64) :
    (v.verify bytes now).2.Dated := by
  rcases verify_cases v bytes now with ⟨e, hcall⟩ | ⟨a, hadmitted, hcall⟩
  · rw [hcall]
    exact h.pruneReplay now
  · rw [hcall]
    intro key entry hentry
    by_cases hkey : key = a.replayKey
    · subst hkey
      rw [AList.lookup_insert, Option.some.injEq] at hentry
      subst hentry
      exact hadmitted.notFuture
    · rw [AList.lookup_insert_ne hkey] at hentry
      exact h.pruneReplay now key entry hentry

private theorem lookup_pruneReplay_cases (h : v.Dated) (now : UInt64) (key : ReplayKey) :
    (v.pruneReplay now).seen.lookup key = v.seen.lookup key ∨
      (v.pruneReplay now).seen.lookup key = none ∧
        ∃ entry, v.seen.lookup key = some entry ∧ v.Stale entry.announcementTimestamp now := by
  rw [lookup_pruneReplay]
  cases hentry : v.seen.lookup key with
  | none => exact .inl rfl
  | some entry =>
      cases hkeeps : v.keeps now entry with
      | true => exact .inl (by simp [Option.filter, hkeeps])
      | false =>
          exact .inr ⟨by simp [Option.filter, hkeeps], entry, rfl,
            stale_of_not_keeps (h key entry hentry) hkeeps⟩

@[simp]
theorem verify_maxAge (v : DiscoveryVerifier) (bytes : Bytes) (now : UInt64) :
    (v.verify bytes now).2.maxAge = v.maxAge := by
  rcases verify_cases v bytes now with ⟨_, h⟩ | ⟨_, _, h⟩ <;> rw [h] <;> rfl

@[simp]
theorem verify_maxReplayEntries (v : DiscoveryVerifier) (bytes : Bytes) (now : UInt64) :
    (v.verify bytes now).2.maxReplayEntries = v.maxReplayEntries := by
  rcases verify_cases v bytes now with ⟨_, h⟩ | ⟨_, _, h⟩ <;> rw [h] <;> rfl

/-- The call returns the verified form of `a`. -/
def Accepts (v : DiscoveryVerifier) (call : Bytes × UInt64) (a : DiscoveryAnnouncement) : Prop :=
  DiscoveryAnnouncement.fromBytes call.1 = .ok a ∧ (v.verify call.1 call.2).1.isOk = true

theorem Accepts.verify {call : Bytes × UInt64} {a : DiscoveryAnnouncement} (h : v.Accepts call a) :
    (v.pruneReplay call.2).Admitted call.1 call.2 a ∧
      v.verify call.1 call.2 = (.ok a.verified, { v.pruneReplay call.2 with
        seen := (v.pruneReplay call.2).seen.insert a.replayKey ⟨call.2, a.timestamp⟩ }) := by
  obtain ⟨hparsed, hok⟩ := h
  rcases verify_cases v call.1 call.2 with ⟨e, hcall⟩ | ⟨a', hadmitted, hcall⟩
  · rw [hcall] at hok
    cases hok
  · have heq := hadmitted.parsed
    rw [hparsed, Except.ok.injEq] at heq
    subst heq
    exact ⟨hadmitted, hcall⟩

/-- The cache still holds an announcement of this key and time, or none can be accepted any
more. -/
def Remembers (v : DiscoveryVerifier) (key : ReplayKey) (timestamp clock : UInt64) : Prop :=
  (∃ entry, v.seen.lookup key = some entry ∧ entry.announcementTimestamp = timestamp) ∨
    v.Stale timestamp clock

private theorem Remembers.pruneReplay {key : ReplayKey} {timestamp clock : UInt64}
    (hdated : v.Dated)
    (h : v.Remembers key timestamp clock) (hle : clock ≤ now) :
    (v.pruneReplay now).Remembers key timestamp now := by
  rcases h with ⟨entry, hentry, rfl⟩ | hstale
  · rcases lookup_pruneReplay_cases hdated now key with hkept | ⟨-, entry', hentry', hstale⟩
    · exact .inl ⟨entry, hkept.trans hentry, rfl⟩
    · rw [hentry, Option.some.injEq] at hentry'
      subst hentry'
      exact .inr hstale
  · exact .inr (hstale.later hle)

private theorem Remembers.verify {key : ReplayKey} {timestamp clock : UInt64} (hdated : v.Dated)
    (h : v.Remembers key timestamp clock) (hle : clock ≤ now) (bytes : Bytes) :
    (v.verify bytes now).2.Remembers key timestamp now := by
  have hpruned := h.pruneReplay hdated hle
  rcases verify_cases v bytes now with ⟨e, hcall⟩ | ⟨a, hadmitted, hcall⟩
  · rw [hcall]
    exact hpruned
  · rw [hcall]
    rcases hpruned with ⟨entry, hentry, htimestamp⟩ | hstale
    · have hother : key ≠ a.replayKey := by
        intro heq
        have hmem := hadmitted.new
        rw [← heq, ← AList.lookup_eq_none, hentry] at hmem
        cases hmem
      exact .inl ⟨entry, (AList.lookup_insert_ne hother).trans hentry, htimestamp⟩
    · exact .inr hstale

/-- An announcement that is remembered is not accepted. -/
theorem Remembers.not_accepts {a : DiscoveryAnnouncement} {call : Bytes × UInt64} {clock : UInt64}
    (hdated : v.Dated) (h : v.Remembers a.replayKey a.timestamp clock) (hle : clock ≤ call.2) :
    ¬v.Accepts call a := by
  intro haccepts
  have hadmitted := haccepts.verify.1
  rcases h.pruneReplay hdated hle with ⟨entry, hentry, -⟩ | hstale
  · have hmem := hadmitted.new
    rw [← AList.lookup_eq_none, hentry] at hmem
    cases hmem
  · exact absurd hadmitted.fresh (by unfold Stale at hstale; omega)

/-- The verifier after a sequence of calls. -/
def after (v : DiscoveryVerifier) (calls : List (Bytes × UInt64)) : DiscoveryVerifier :=
  calls.foldl (fun v call => (v.verify call.1 call.2).2) v

private theorem after_append (v : DiscoveryVerifier) (calls more : List (Bytes × UInt64)) :
    v.after (calls ++ more) = (v.after calls).after more :=
  List.foldl_append

private theorem Dated.after (h : v.Dated) (calls : List (Bytes × UInt64)) :
    (v.after calls).Dated := by
  induction calls generalizing v with
  | nil => exact h
  | cons call calls ih => exact ih (h.verify call.1 call.2)

private theorem Remembers.after {key : ReplayKey} {timestamp clock : UInt64} (hdated : v.Dated)
    (h : v.Remembers key timestamp clock) {calls : List (Bytes × UInt64)} {last : UInt64}
    (hclock : (clock :: calls.map Prod.snd).Pairwise (· ≤ ·)) (hlast : ∀ t ∈ clock :: calls.map
      Prod.snd, t ≤ last) : (v.after calls).Remembers key timestamp last := by
  induction calls generalizing v clock with
  | nil =>
      rcases h with h | h
      · exact .inl h
      · exact .inr (h.later (hlast clock (List.mem_cons_self ..)))
  | cons call calls ih =>
      rw [List.map_cons, List.pairwise_cons] at hclock
      have hle := hclock.1 call.2 (List.mem_cons_self ..)
      exact ih (hdated.verify call.1 call.2) (h.verify hdated hle call.1) hclock.2
        (fun t ht => hlast t (List.mem_cons_of_mem _ ht))

/-- The announcement of the entry fails the staleness check from `now` on. -/
def GoneStale (v : DiscoveryVerifier) (now : UInt64) (entry : ReplayEntry) : Prop :=
  ∀ later, now ≤ later → saturatingSub later entry.announcementTimestamp > v.maxAge

/-- Between two states the entry of a key stays, or is forgotten once it has gone stale. -/
def KeepsEntry (v v' : DiscoveryVerifier) (now : UInt64) (key : ReplayKey) : Prop :=
  v'.seen.lookup key = v.seen.lookup key ∨
    v'.seen.lookup key = none ∧ ∃ entry, v.seen.lookup key = some entry ∧ v.GoneStale now entry

private theorem Stale.goneStale {entry : ReplayEntry}
    (h : v.Stale entry.announcementTimestamp now) :
    v.GoneStale now entry := by
  intro later hle
  rw [gt_iff_lt, UInt64.lt_iff_toNat_lt, saturatingSub_toNat]
  exact h.later hle

private theorem keepsEntry_pruneReplay (h : v.Dated) (now : UInt64) (key : ReplayKey) :
    v.KeepsEntry (v.pruneReplay now) now key := by
  rcases lookup_pruneReplay_cases h now key with hkept | ⟨hnone, entry, hentry, hstale⟩
  · exact .inl hkept
  · exact .inr ⟨hnone, entry, hentry, hstale.goneStale⟩

/-- What replay protection promises of a sequence of calls on `v`. -/
structure ReplaySafe (v : DiscoveryVerifier) (calls : List (Bytes × UInt64)) : Prop where
  once : ∀ pre call mid call' post a a', calls = pre ++ call :: (mid ++ call' :: post) →
    (v.after pre).Accepts call a → (v.after (pre ++ call :: mid)).Accepts call' a' →
    ¬(a'.certificate.deviceId = a.certificate.deviceId ∧ a'.nonce = a.nonce ∧
      a'.timestamp = a.timestamp)
  bounded : ∀ pre post, calls = pre ++ post →
    (v.after pre).seen.entries.length ≤ v.maxReplayEntries
  accepted : ∀ pre call post a, calls = pre ++ call :: post → (v.after pre).Accepts call a →
    (v.after (pre ++ [call])).seen.lookup a.replayKey = some ⟨call.2, a.timestamp⟩ ∧
    (∀ entry, (v.after pre).seen.lookup a.replayKey = some entry →
      (v.after pre).GoneStale call.2 entry) ∧
    ∀ key, key ≠ a.replayKey →
      (v.after pre).KeepsEntry (v.after (pre ++ [call])) call.2 key
  rejected : ∀ pre call post e, calls = pre ++ call :: post →
    ((v.after pre).verify call.1 call.2).1 = .error e →
    ∀ key, (v.after pre).KeepsEntry (v.after (pre ++ [call])) call.2 key

private theorem verify_bounded (h : v.seen.entries.length ≤ v.maxReplayEntries) (bytes : Bytes)
    (now : UInt64) : (v.verify bytes now).2.seen.entries.length ≤ v.maxReplayEntries := by
  have hpruned : (v.pruneReplay now).seen.entries.length ≤ v.maxReplayEntries :=
    (retain_length_le _ _).trans h
  rcases verify_cases v bytes now with ⟨e, hcall⟩ | ⟨a, hadmitted, hcall⟩
  · rw [hcall]
    exact hpruned
  · rw [hcall, AList.entries_insert_of_notMem hadmitted.new, List.length_cons]
    exact hadmitted.room

private theorem after_bounded (h : v.seen.entries.length ≤ v.maxReplayEntries)
    (calls : List (Bytes × UInt64)) :
    (v.after calls).seen.entries.length ≤ v.maxReplayEntries := by
  induction calls generalizing v with
  | nil => exact h
  | cons call calls ih =>
      have hcall := verify_bounded h call.1 call.2
      have hrest := ih (v := (v.verify call.1 call.2).2) (by rwa [verify_maxReplayEntries])
      rwa [verify_maxReplayEntries] at hrest

private theorem replaySafe_of_dated {calls : List (Bytes × UInt64)} (hdated : v.Dated)
    (hsize : v.seen.entries.length ≤ v.maxReplayEntries)
    (hclock : calls.Pairwise fun call call' => call.2 ≤ call'.2) : v.ReplaySafe calls := by
  have hlast : ∀ pre call, v.after (pre ++ [call]) = ((v.after pre).verify call.1 call.2).2 := by
    intro pre call
    rw [after_append]
    rfl
  constructor
  · intro pre call mid call' post a a' hcalls haccepts haccepts' hsame
    obtain ⟨hdevice, hnonce, htime⟩ := hsame
    have hkey : a.replayKey = a'.replayKey := by
      rw [DiscoveryAnnouncement.replayKey, DiscoveryAnnouncement.replayKey, hdevice, hnonce]
    rw [hcalls, List.pairwise_append, List.pairwise_cons, List.pairwise_append] at hclock
    obtain ⟨-, ⟨hcall, hmid, -, hcross⟩, -⟩ := hclock
    have hstart : (v.after (pre ++ [call])).Remembers a.replayKey a.timestamp call.2 := by
      rw [hlast, haccepts.verify.2]
      exact .inl ⟨_, AList.lookup_insert _, rfl⟩
    have hmiddle : ((v.after (pre ++ [call])).after mid).Remembers a.replayKey a.timestamp
        call'.2 := by
      apply hstart.after (hdated.after _)
      · rw [List.pairwise_cons, List.pairwise_map]
        refine ⟨?_, hmid⟩
        intro t ht
        obtain ⟨c, hc, rfl⟩ := List.mem_map.mp ht
        exact hcall c (List.mem_append_left _ hc)
      · intro t ht
        rcases List.mem_cons.mp ht with rfl | ht
        · exact hcall call' (by simp)
        · obtain ⟨c, hc, rfl⟩ := List.mem_map.mp ht
          exact hcross c hc call' (List.mem_cons_self ..)
    have hsplit : pre ++ call :: mid = (pre ++ [call]) ++ mid := by simp
    rw [← after_append, ← hsplit, hkey, ← htime] at hmiddle
    exact hmiddle.not_accepts (hdated.after _) (UInt64.le_refl _) haccepts'
  · intro pre post _
    exact after_bounded hsize pre
  · intro pre call post a _ haccepts
    obtain ⟨hadmitted, hcall⟩ := haccepts.verify
    have hpruned := keepsEntry_pruneReplay (hdated.after pre) call.2
    rw [hlast, hcall]
    refine ⟨AList.lookup_insert _, ?_, ?_⟩
    · intro entry hentry
      rcases hpruned a.replayKey with hkept | ⟨-, entry', hentry', hgone⟩
      · exact absurd (AList.lookup_isSome.mp (by rw [hkept, hentry]; rfl)) hadmitted.new
      · rw [hentry, Option.some.injEq] at hentry'
        exact hentry' ▸ hgone
    · intro key hkey
      unfold KeepsEntry
      rw [AList.lookup_insert_ne hkey]
      exact hpruned key
  · intro pre call post e _ hrejected key
    rw [hlast]
    rcases verify_cases (v.after pre) call.1 call.2 with ⟨e', hcall⟩ | ⟨a, -, hcall⟩
    · rw [hcall]
      exact keepsEntry_pruneReplay (hdated.after pre) call.2 key
    · rw [hcall] at hrejected
      cases hrejected

end DiscoveryVerifier

/-- Replay protection under every window and every limit, as long as the clock does not go
back. -/
theorem discovery_replay_protection {root : PinnedOmarchyRoot} {maxAge maxFuture : UInt64}
    {limit : Nat} {v : DiscoveryVerifier}
    (hnew : DiscoveryVerifier.withReplayLimit root maxAge maxFuture limit = .ok v)
    {calls : List (Bytes × UInt64)}
    (hclock : calls.Pairwise fun call call' => call.2 ≤ call'.2) : v.ReplaySafe calls := by
  simp only [DiscoveryVerifier.withReplayLimit, bind_eq_ok, bailIf_eq_ok, pure_eq_ok,
    exists_const] at hnew
  obtain ⟨-, rfl⟩ := hnew
  apply DiscoveryVerifier.replaySafe_of_dated
  · intro key entry hentry
    cases hentry
  · exact Nat.zero_le _
  · exact hclock

end Verifier

namespace Loopback

attribute [local instance] crypto

/-- A verifier with the default windows and room for one entry. -/
def verifier : DiscoveryVerifier := ⟨root, 90, 10, ∅, 1⟩

def announcementBytes : Bytes := ((announcement (keyOf 1) 3 100).toBytes.toOption).getD []

example : (verifier.verify announcementBytes 100).1.isOk = true := by decide +kernel

theorem discovery_replay_protection_repeated :
    verifier.ReplaySafe [(announcementBytes, 100), (announcementBytes, 100),
      (announcementBytes, 191)] := by
  have hnew : DiscoveryVerifier.withReplayLimit root 90 10 1 = .ok verifier := rfl
  apply discovery_replay_protection hnew
  decide

end Loopback

end OmarchySync
