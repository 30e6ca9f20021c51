import Mathlib.Data.List.MinMax
import OmarchySync.Discovery
import OmarchySync.Logic.Map
import OmarchySync.Logic.Recency

/-!
# The peer cache

The last discovery and address of each peer. Entries expire, and a full cache makes room for a
new peer by dropping the entry seen longest ago.
-/

namespace OmarchySync

open Logic Wire

/-- Nanoseconds of the monotonic clock. -/
abbrev Instant := ℕ

def peerMaxAge : ℕ := 90 * 10 ^ 9
def peerCacheLimit : ℕ := 128

inductive IpAddr where
  | v4 (octets : Array8 4)
  | v6 (octets : Array8 16)

structure SocketAddr where
  ip : IpAddr
  port : UInt16

structure CachedPeer where
  discovery : VerifiedDiscovery
  address : SocketAddr
  seen : Instant

structure PeerCache where
  entries : AList fun _ : Text => CachedPeer

namespace PeerCache

def new : PeerCache := ⟨∅⟩

/-- `peer.seen.elapsed() <= PEER_MAX_AGE`. -/
def fresh (now : Instant) (peer : CachedPeer) : Bool := now - peer.seen ≤ peerMaxAge

/-- The key of the entry seen longest ago. -/
def oldest (entries : AList fun _ : Text => CachedPeer) : Option Text :=
  (entries.entries.argmin fun e => e.2.seen).map fun e => e.1

/-- The entries of a full cache without the oldest one, unless `id` is among them. -/
def makeRoom (entries : AList fun _ : Text => CachedPeer) (id : Text) :
    AList fun _ : Text => CachedPeer :=
  if peerCacheLimit ≤ entries.entries.length ∧ id ∉ entries then
    match oldest entries with
    | some oldest => entries.erase oldest
    | none => entries
  else entries

def put (cache : PeerCache) (now : Instant) (discovery : VerifiedDiscovery)
    (address : SocketAddr) : PeerCache :=
  let entries := filterValues (fresh now) cache.entries
  let entries := makeRoom entries discovery.deviceId
  ⟨entries.insert discovery.deviceId ⟨discovery, address, now⟩⟩

/-- The answer and the pruned cache. -/
def byId (cache : PeerCache) (now : Instant) (id : Text) : Option CachedPeer × PeerCache :=
  let entries := filterValues (fresh now) cache.entries
  (entries.lookup id, ⟨entries⟩)

end PeerCache

inductive PeerCall where
  | put (discovery : VerifiedDiscovery) (address : SocketAddr)
  | byId (id : Text)

/-- The calls on a cache and their times, latest first. -/
abbrev PeerCalls := List (Instant × PeerCall)

namespace PeerCalls

def cache : PeerCalls → PeerCache
  | [] => .new
  | (now, .put discovery address) :: earlier => (cache earlier).put now discovery address
  | (now, .byId id) :: earlier => ((cache earlier).byId now id).2

/-- What was put, latest first. -/
def puts : PeerCalls → List CachedPeer
  | [] => []
  | (now, .put discovery address) :: earlier => ⟨discovery, address, now⟩ :: puts earlier
  | (_, .byId _) :: earlier => puts earlier

def ids (calls : PeerCalls) : List Text := calls.puts.map fun peer => peer.discovery.deviceId

def lastPut (calls : PeerCalls) (id : Text) : Option CachedPeer :=
  calls.puts.find? fun peer => peer.discovery.deviceId = id

/-- The calls were made at strictly increasing times, all before `now`. -/
def Before (calls : PeerCalls) (now : Instant) : Prop :=
  (now :: calls.map Prod.fst).Pairwise (· > ·)

/-- The last announcement of `id` has not expired. -/
def Fresh (calls : PeerCalls) (now : Instant) (id : Text) : Prop :=
  ∃ peer, calls.lastPut id = some peer ∧ PeerCache.fresh now peer = true

variable {calls : PeerCalls} {now : Instant} {id : Text} {peer : CachedPeer}

private theorem Before.puts_lt (hbefore : calls.Before now) :
    ∀ peer ∈ calls.puts, peer.seen < now := by
  induction calls generalizing now with
  | nil => simp [puts]
  | cons c earlier ih =>
      obtain ⟨t, call⟩ := c
      obtain ⟨hlast, hrest⟩ := List.pairwise_cons.mp hbefore
      have hless : t < now := hlast t (List.mem_cons_self ..)
      have hearlier : ∀ peer ∈ puts earlier, peer.seen < now :=
        fun peer hpeer => (ih hrest peer hpeer).trans hless
      cases call with
      | byId _ => exact hearlier
      | put discovery address =>
          intro peer hpeer
          rcases List.mem_cons.mp hpeer with heq | hpeer
          · rw [heq]
            exact hless
          · exact hearlier peer hpeer

private theorem Before.puts_sorted (hbefore : calls.Before now) :
    calls.puts.Pairwise fun a b => b.seen < a.seen := by
  induction calls generalizing now with
  | nil => exact List.Pairwise.nil
  | cons c earlier ih =>
      obtain ⟨t, call⟩ := c
      have hrest : Before earlier t := (List.pairwise_cons.mp hbefore).2
      cases call with
      | byId _ => exact ih hrest
      | put discovery address => exact List.pairwise_cons.mpr ⟨hrest.puts_lt, ih hrest⟩

private theorem mem_ids : id ∈ calls.ids ↔ ∃ peer, calls.lastPut id = some peer := by
  rw [ids, List.mem_map, lastPut, ← Option.isSome_iff_exists, List.find?_isSome]
  simp only [decide_eq_true_eq]

private theorem Before.fresh_since (hbefore : calls.Before now) (hfresh : calls.Fresh now id) :
    ∀ j ∈ since calls.ids id, calls.Fresh now j := by
  intro j hj
  obtain ⟨peer, hpeer, hage⟩ := hfresh
  obtain ⟨peer', hpeer'⟩ := mem_ids.mp (mem_of_mem_since hj)
  have hlater : peer.seen < peer'.seen :=
    stamp_lt_of_mem_since hbefore.puts_sorted hpeer hpeer' hj
  refine ⟨peer', hpeer', ?_⟩
  simp only [PeerCache.fresh, decide_eq_true_eq] at hage ⊢
  exact (Nat.sub_le_sub_left hlater.le now).trans hage

end PeerCalls

namespace PeerCache

open PeerCalls

variable {calls : PeerCalls} {now : Instant} {entries : AList fun _ : Text => CachedPeer}

/-- The entries are the last announcements of the fresh ones among the latest peers. -/
structure Exact (calls : PeerCalls) (now : Instant) (entries : AList fun _ : Text => CachedPeer) :
    Prop where
  window : Window peerCacheLimit calls.ids (calls.Fresh now) entries.keys.toFinset
  lastPut : ∀ id peer, entries.lookup id = some peer → calls.lastPut id = some peer

private theorem Exact.prune {now' : Instant} (hexact : Exact calls now entries)
    (hlater : now ≤ now')
    (hbefore : calls.Before now') : Exact calls now' (filterValues (fresh now') entries) := by
  have hlookup := lookup_filterValues (fresh now') entries
  constructor
  · apply hexact.window.expire
    · intro id
      rw [List.mem_toFinset, List.mem_toFinset, mem_keys_iff, mem_keys_iff, hlookup]
      simp only [Option.filter_eq_some_iff]
      constructor
      · intro h
        obtain ⟨peer, hpeer, hfresh⟩ := h
        exact ⟨⟨peer, hpeer⟩, peer, hexact.lastPut id peer hpeer, hfresh⟩
      · intro h
        obtain ⟨⟨peer, hpeer⟩, peer', hlast, hfresh⟩ := h
        rw [hexact.lastPut id peer hpeer] at hlast
        cases hlast
        exact ⟨peer, hpeer, hfresh⟩
    · intro id hfresh
      obtain ⟨peer, hpeer, hage⟩ := hfresh
      refine ⟨peer, hpeer, ?_⟩
      simp only [fresh, decide_eq_true_eq] at hage ⊢
      exact (Nat.sub_le_sub_right hlater _).trans hage
    · intro id _ hfresh
      exact hbefore.fresh_since hfresh
  · intro id peer hpeer
    rw [hlookup, Option.filter_eq_some_iff] at hpeer
    exact hexact.lastPut id peer hpeer.1

private theorem oldest_eq_some {id : Text} (hid : oldest entries = some id) :
    ∃ peer, entries.lookup id = some peer ∧
      ∀ j peer', entries.lookup j = some peer' → peer.seen ≤ peer'.seen := by
  obtain ⟨e, he, rfl⟩ := Option.map_eq_some_iff.mp hid
  have hmem : e ∈ entries.entries := List.argmin_mem he
  refine ⟨e.2, AList.mem_lookup_iff.mpr hmem, ?_⟩
  intro j peer' hpeer'
  have hmem' : (⟨j, peer'⟩ : Σ _ : Text, CachedPeer) ∈ entries.entries :=
    AList.mem_lookup_iff.mp hpeer'
  exact List.le_of_mem_argmin (f := fun e => e.2.seen) hmem' he

private theorem oldest_eq_none (hnone : oldest entries = none) : entries.entries = [] :=
  List.argmin_eq_none.mp (Option.map_eq_none_iff.mp hnone)

private theorem keys_card (entries : AList fun _ : Text => CachedPeer) :
    entries.keys.toFinset.card = entries.entries.length := by
  rw [List.toFinset_card_of_nodup entries.keys_nodup, AList.keys, List.keys, List.length_map]

private theorem lastPut_put {discovery : VerifiedDiscovery} {address : SocketAddr} {id : Text}
    (hne : id ≠ discovery.deviceId) :
    PeerCalls.lastPut ((now, .put discovery address) :: calls) id = calls.lastPut id :=
  List.find?_cons_of_neg (by simpa using hne.symm)

private theorem lastPut_put_self (discovery : VerifiedDiscovery) (address : SocketAddr) :
    PeerCalls.lastPut ((now, .put discovery address) :: calls) discovery.deviceId =
      some ⟨discovery, address, now⟩ :=
  List.find?_cons_of_pos (by simp)

private theorem fresh_put {discovery : VerifiedDiscovery} {address : SocketAddr} {id : Text} :
    PeerCalls.Fresh ((now, .put discovery address) :: calls) now id ↔
      id = discovery.deviceId ∨ calls.Fresh now id := by
  by_cases heq : id = discovery.deviceId
  · subst heq
    simp [PeerCalls.Fresh, lastPut_put_self, fresh]
  · simp [PeerCalls.Fresh, lastPut_put heq, heq]

private theorem window_makeRoom {id : Text} (hexact : Exact calls now entries)
    (hbefore : calls.Before now) :
    Window peerCacheLimit (id :: calls.ids) (fun j => j = id ∨ calls.Fresh now j)
      (insert id (makeRoom entries id).keys.toFinset) := by
  have hmem : id ∈ entries ↔ id ∈ entries.keys.toFinset := by
    rw [List.mem_toFinset, AList.mem_keys]
  by_cases hroom : peerCacheLimit ≤ entries.entries.length ∧ id ∉ entries
  · rw [makeRoom, if_pos hroom]
    cases hold : oldest entries with
    | none =>
        have hempty := oldest_eq_none hold
        have hfull := hroom.1
        rw [hempty] at hfull
        exact absurd hfull (by decide)
    | some old =>
        obtain ⟨peer, hpeer, hmin⟩ := oldest_eq_some hold
        have hlatest : ∀ j ∈ entries.keys.toFinset, j ≠ old → j ∈ since calls.ids old := by
          intro j hj hne
          obtain ⟨peer', hpeer'⟩ := mem_keys_iff.mp (List.mem_toFinset.mp hj)
          have hlast := hexact.lastPut old peer hpeer
          have hlast' := hexact.lastPut j peer' hpeer'
          rcases since_total (mem_ids.mpr ⟨peer', hlast'⟩) hne with hnew | hbehind
          · exact hnew
          · have hless : peer'.seen < peer.seen :=
              stamp_lt_of_mem_since hbefore.puts_sorted hlast' hlast hbehind
            exact absurd (hmin j peer' hpeer') (Nat.not_le.mpr hless)
        have hkey : old ∈ entries.keys.toFinset :=
          List.mem_toFinset.mpr (mem_keys_iff.mpr ⟨peer, hpeer⟩)
        have herase : (entries.erase old).keys.toFinset = entries.keys.toFinset.erase old := by
          ext j
          rw [AList.keys_erase, List.mem_toFinset, entries.keys_nodup.mem_erase_iff, Finset.mem_erase,
            List.mem_toFinset]
        rw [herase]
        exact hexact.window.replace (hmem.not.mp hroom.2) (keys_card entries ▸ hroom.1) hkey hlatest
  · rw [makeRoom, if_neg hroom]
    by_cases hin : id ∈ entries
    · rw [Finset.insert_eq_of_mem (hmem.mp hin)]
      exact hexact.window.refresh (hmem.mp hin)
    · have hless : entries.entries.length < peerCacheLimit :=
        Nat.not_le.mp fun hfull => hroom ⟨hfull, hin⟩
      exact hexact.window.add (keys_card entries ▸ hless)

theorem lookup_makeRoom {id j : Text} {peer : CachedPeer}
    (hpeer : (makeRoom entries id).lookup j = some peer) : entries.lookup j = some peer := by
  unfold makeRoom at hpeer
  split at hpeer
  · split at hpeer
    next old _ =>
      by_cases heq : j = old
      · rw [heq, AList.lookup_erase] at hpeer
        cases hpeer
      · rwa [AList.lookup_erase_ne heq] at hpeer
    next => exact hpeer
  · exact hpeer

private theorem Exact.put {discovery : VerifiedDiscovery} {address : SocketAddr}
    (hexact : Exact calls now entries) (hbefore : calls.Before now) :
    Exact ((now, .put discovery address) :: calls) now
      ((makeRoom entries discovery.deviceId).insert discovery.deviceId
        ⟨discovery, address, now⟩) := by
  have hfresh : PeerCalls.Fresh ((now, .put discovery address) :: calls) now =
      fun j => j = discovery.deviceId ∨ calls.Fresh now j := funext fun _ => propext fresh_put
  have hkeys : ((makeRoom entries discovery.deviceId).insert discovery.deviceId
      (CachedPeer.mk discovery address now)).keys.toFinset =
        insert discovery.deviceId (makeRoom entries discovery.deviceId).keys.toFinset := by
    ext j
    simp only [List.mem_toFinset, ← AList.mem_keys, AList.mem_insert, Finset.mem_insert]
  constructor
  · rw [hfresh, hkeys]
    exact window_makeRoom hexact hbefore
  · intro j peer hpeer
    by_cases heq : j = discovery.deviceId
    · subst heq
      rw [AList.lookup_insert] at hpeer
      rw [lastPut_put_self, hpeer]
    · rw [AList.lookup_insert_ne heq] at hpeer
      rw [lastPut_put heq]
      exact hexact.lastPut j peer (lookup_makeRoom hpeer)

theorem Exact.call {call : PeerCall} (hbefore : calls.Before now)
    (hexact : Exact calls now (filterValues (fresh now) calls.cache.entries)) :
    Exact ((now, call) :: calls) now (PeerCalls.cache ((now, call) :: calls)).entries := by
  cases call with
  | byId id => exact ⟨hexact.window, hexact.lastPut⟩
  | put discovery address => exact hexact.put hbefore

theorem cache_exact (hbefore : calls.Before now) :
    Exact calls now (filterValues (fresh now) calls.cache.entries) := by
  induction calls generalizing now with
  | nil =>
      refine ⟨⟨?_, ?_⟩, ?_⟩
      · intro id
        simp [PeerCalls.cache, new, filterValues, PeerCalls.ids, PeerCalls.puts, AList.keys]
      · intro id hid
        cases hid
      · intro id peer hpeer
        rw [lookup_filterValues] at hpeer
        cases hpeer
  | cons c earlier ih =>
      obtain ⟨hlast, hrest⟩ := List.pairwise_cons.mp hbefore
      have hless : c.1 < now := hlast c.1 (List.mem_cons_self ..)
      exact (Exact.call hrest (ih hrest)).prune hless.le hbefore

/-- The cache is a bounded map from peers to their last announcements. -/
structure MostRecentlySeen (calls : PeerCalls) : Prop where
  answers : ∀ now, calls.Before now → ∀ id peer,
    (calls.cache.byId now id).1 = some peer ↔ calls.lastPut id = some peer ∧
      now - peer.seen ≤ peerMaxAge ∧ (since calls.ids id).card < peerCacheLimit
  bounded : calls.cache.entries.entries.length ≤ peerCacheLimit
  refreshes : ∀ now, calls.Before now → ∀ discovery address,
    (calls.cache.byId now discovery.deviceId).1.isSome → ∀ id peer, id ≠ discovery.deviceId →
      (calls.cache.byId now id).1 = some peer →
      ((calls.cache.put now discovery address).byId now id).1 = some peer

/-- Whatever the calls, if their times increase. -/
theorem mostRecentlySeen (calls : PeerCalls) (hincreasing : (calls.map Prod.fst).Pairwise (· > ·)) :
    MostRecentlySeen calls := by
  constructor
  · intro now hbefore id peer
    have hexact := cache_exact hbefore
    have hlookup : (calls.cache.byId now id).1 =
        (filterValues (fresh now) calls.cache.entries).lookup id := rfl
    rw [hlookup]
    have hwindow := hexact.window.mem id
    rw [List.mem_toFinset, mem_keys_iff, mem_ids] at hwindow
    constructor
    · intro hpeer
      obtain ⟨-, ⟨peer', hlast, hfresh⟩, hcard⟩ := hwindow.mp ⟨peer, hpeer⟩
      rw [hexact.lastPut id peer hpeer] at hlast
      cases hlast
      exact ⟨hexact.lastPut id peer hpeer, of_decide_eq_true hfresh, hcard⟩
    · intro h
      obtain ⟨hlast, hage, hcard⟩ := h
      obtain ⟨peer', hpeer'⟩ :=
        hwindow.mpr ⟨⟨peer, hlast⟩, ⟨peer, hlast, decide_eq_true hage⟩, hcard⟩
      rw [hexact.lastPut id peer' hpeer'] at hlast
      cases hlast
      exact hpeer'
  · cases calls with
    | nil => exact Nat.zero_le _
    | cons c earlier =>
        have hbefore : PeerCalls.Before earlier c.1 := hincreasing
        rw [← keys_card]
        exact (Exact.call hbefore (cache_exact hbefore)).window.card_le
  · intro now hbefore discovery address hcached id peer hne hpeer
    have hin : discovery.deviceId ∈ filterValues (fresh now) calls.cache.entries :=
      AList.lookup_isSome.mp hcached
    have hput : calls.cache.put now discovery address =
        ⟨(filterValues (fresh now) calls.cache.entries).insert discovery.deviceId
          ⟨discovery, address, now⟩⟩ := by
      rw [put, makeRoom, if_neg (fun hroom => hroom.2 hin)]
    have hpeer' : (filterValues (fresh now) calls.cache.entries).lookup id = some peer := hpeer
    have hfresh : fresh now peer = true := by
      rw [lookup_filterValues, Option.filter_eq_some_iff] at hpeer'
      exact hpeer'.2
    rw [hput, byId, lookup_filterValues, AList.lookup_insert_ne hne, hpeer', Option.filter_some,
      if_pos hfresh]

end PeerCache

namespace Loopback

attribute [local instance] crypto

/-- An announcement of the given device. -/
def discovered (b : UInt8) : VerifiedDiscovery :=
  ⟨deviceIdForPublicKey (keyOf b), ⟨[65], by decide⟩, keyOf b, 100, 4000⟩

def socket : SocketAddr := ⟨.v4 ⟨[192, 168, 0, 7], rfl⟩, 4000⟩

/-- One peer is announced, a second one, and the first one again. -/
def announced : PeerCalls :=
  [(20, .put (discovered 1) socket), (10, .put (discovered 2) socket),
    (5, .put (discovered 1) socket)]

example : (since announced.ids (discovered 2).deviceId).card = 1 := by decide +kernel

theorem mostRecentlySeen_announced : PeerCache.MostRecentlySeen announced :=
  PeerCache.mostRecentlySeen _ (by simp [announced])

end Loopback

end OmarchySync
