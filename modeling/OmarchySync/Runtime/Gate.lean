import OmarchySync.Runtime.Serial

/-!
# Who gets as far as an attempt

Every attempt goes back to an announcement that the device itself has verified: the listener
answers a caller that has signed its preface with the announced key, from the announced address,
and the loop initiates only towards greater DeviceIDs and without a healthy relationship.
-/

namespace OmarchySync

open Logic Wire Traced

section Gate

variable [Crypto] [Noise]

/-- An announcement of a certified device, signed by the device. -/
structure Authentic (root : PinnedOmarchyRoot) (wall : UInt64) (discovery : VerifiedDiscovery) :
    Prop where
  announced : ∃ a : DiscoveryAnnouncement, a.verified = discovery ∧
    a.certificate.verify root wall = .ok () ∧ ∃ signed, a.signingBytes = .ok signed ∧
      Crypto.verifyStrict a.certificate.publicKey signed a.signature = true

namespace DiscoveryVerifier

omit [Noise]

variable {v : DiscoveryVerifier} {datagram : Bytes} {wall : UInt64} {discovery : VerifiedDiscovery}

@[simp]
theorem verify_root (v : DiscoveryVerifier) (datagram : Bytes) (wall : UInt64) :
    (v.verify datagram wall).2.root = v.root := by
  rcases verify_cases v datagram wall with ⟨_, h⟩ | ⟨_, _, h⟩
  · rw [h]
    rfl
  · rw [h]
    rfl

private theorem authentic_of_verify (h : (v.verify datagram wall).1 = .ok discovery) :
    Authentic v.root wall discovery := by
  simp only [verify] at h
  split at h
  next => cases h
  next a hchecks =>
    simp only [checks, bind_eq_ok, bailIf_eq_ok, pure_eq_ok, exists_const, Bool.not_eq_false]
      at hchecks
    obtain ⟨a', -, -, _, hcertificate, -, -, -, signed, hsigned, hverify, -, -, rfl⟩ := hchecks
    exact ⟨a', Except.ok.inj h, hcertificate, signed, hsigned, hverify⟩

end DiscoveryVerifier

namespace Daemon

/-- The loop has verified the announcement of the peer and cached it. -/
def Heard (rt : Runtime) (past : List Moment) (peer : CachedPeer) : Prop :=
  ∃ m ∈ past, ∃ datagram source wall, m.action = .hear datagram source wall ∧
    (m.before.verifier.verify datagram wall).1 = .ok peer.discovery ∧
    Authentic rt.root wall peer.discovery ∧ peer.seen = m.now ∧
    peer.address = ⟨source, peer.discovery.port⟩

/-- The listener has read a preface of the peer, when its announcement was still fresh. -/
def Called (rt : Runtime) (past : List Moment) (peer : CachedPeer) : Prop :=
  peer.discovery.deviceId ≠ rt.identity.deviceId ∧
    ∃ m ∈ past, ∃ preface, m.action = .route peer.address.ip preface ∧
      Routes preface peer.discovery.deviceId peer.discovery.publicKey ∧
      m.now - peer.seen ≤ peerMaxAge

section Loop

variable [Serde]

/-- The loop has looked for an active record of the peer. -/
def Scanned (rt : Runtime) (past : List Moment) (peer : CachedPeer) (opened : UInt64)
    (active : Option Text) : Prop :=
  ∃ m ∈ past, ∃ order, m.action = .scan opened order ∧
    active = rt.foundActive opened order m.before.host peer

/-- The loop has found the peer unpaired, or half paired, and the initiation its own. -/
def Chosen (rt : Runtime) (past : List Moment) (peer : CachedPeer) : Prop :=
  rt.identity.deviceId < peer.discovery.deviceId ∧
    ∃ m ∈ past, ∃ opened active order, m.action = .decide order ∧
      Scanned rt past peer opened active ∧
      (active = none ∨ rt.foundPending opened order m.before.host peer ≠ none)

end Loop

variable [Serde] [AppSerde] {rt : Runtime} {host : Host} {past : List Moment} {d d' : Daemon}
  {now : Instant} {action : Action} {peer : CachedPeer}

/-- What a thread may do that has entered for the peer. -/
def Entitled (rt : Runtime) (past : List Moment) (w : ℕ) (peer : CachedPeer)
    (driver : DriverM AuthenticatedPairingSession) : Prop :=
  Heard rt past peer ∧
    ((w = 0 ∧ Called rt past peer ∧
        ∃ start broker around, driver = rt.responds peer start broker around) ∨
      (w ≠ 0 ∧ Chosen rt past peer ∧ ∃ around, driver = rt.initiates peer around))

/-- What the daemon holds goes back to what it has done. -/
structure Vouches (rt : Runtime) (past : List Moment) (d : Daemon) : Prop where
  root : d.verifier.root = rt.root
  cached : ∀ id peer, d.peers.entries.lookup id = some peer → Heard rt past peer
  heard : ∀ peer, d.loop = .heard peer → Heard rt past peer
  scanned : ∀ peer opened active, d.loop = .scanned peer opened active →
    Heard rt past peer ∧ Scanned rt past peer opened active
  electing : ∀ peer, d.loop = .electing peer → Heard rt past peer ∧ Chosen rt past peer
  called : ∀ peer, d.called = some peer → Heard rt past peer ∧ Called rt past peer
  entered : ∀ w peer driver, d.tasks w = some (.entered peer driver) →
    Entitled rt past w peer driver

section Mono

variable {m : Moment}

omit [Serde] [AppSerde] in
private theorem Heard.mono (h : Heard rt past peer) : Heard rt (past ++ [m]) peer := by
  obtain ⟨m', hm', h⟩ := h
  exact ⟨m', List.mem_append_left _ hm', h⟩

omit [Serde] [AppSerde] in
private theorem Called.mono (h : Called rt past peer) : Called rt (past ++ [m]) peer := by
  obtain ⟨hother, m', hm', h⟩ := h
  exact ⟨hother, m', List.mem_append_left _ hm', h⟩

omit [AppSerde] in
private theorem Scanned.mono {opened : UInt64} {active : Option Text}
    (h : Scanned rt past peer opened active) : Scanned rt (past ++ [m]) peer opened active := by
  obtain ⟨m', hm', h⟩ := h
  exact ⟨m', List.mem_append_left _ hm', h⟩

omit [AppSerde] in
private theorem Chosen.mono (h : Chosen rt past peer) : Chosen rt (past ++ [m]) peer := by
  obtain ⟨hlower, m', hm', opened, active, order, haction, hscanned, hfound⟩ := h
  exact ⟨hlower, m', List.mem_append_left _ hm', opened, active, order, haction, hscanned.mono,
    hfound⟩

private theorem Entitled.mono {w : ℕ} {driver : DriverM AuthenticatedPairingSession}
    (h : Entitled rt past w peer driver) : Entitled rt (past ++ [m]) w peer driver := by
  obtain ⟨hheard, hrole⟩ := h
  refine ⟨hheard.mono, ?_⟩
  rcases hrole with ⟨hw, hcalled, hdriver⟩ | ⟨hw, hchosen, hdriver⟩
  · exact .inl ⟨hw, hcalled.mono, hdriver⟩
  · exact .inr ⟨hw, hchosen.mono, hdriver⟩

private theorem Vouches.mono (h : Vouches rt past d) : Vouches rt (past ++ [m]) d :=
  ⟨h.root, fun id peer hpeer => (h.cached id peer hpeer).mono,
    fun peer hloop => (h.heard peer hloop).mono,
    fun peer opened active hloop => (h.scanned peer opened active hloop).imp Heard.mono Scanned.mono,
    fun peer hloop => (h.electing peer hloop).imp Heard.mono Chosen.mono,
    fun peer hcalled => (h.called peer hcalled).imp Heard.mono Called.mono,
    fun w peer driver htask => (h.entered w peer driver htask).mono⟩

end Mono

section Steps

omit [Crypto] [Noise] [Serde] [AppSerde] in
private theorem lookup_put {peers : PeerCache} {discovery : VerifiedDiscovery}
    {address : SocketAddr} {id : Text}
    (hpeer : (peers.put now discovery address).entries.lookup id = some peer) :
    peer = ⟨discovery, address, now⟩ ∨ peers.entries.lookup id = some peer := by
  simp only [PeerCache.put] at hpeer
  by_cases heq : id = discovery.deviceId
  · rw [heq, AList.lookup_insert] at hpeer
    exact .inl (Option.some.inj hpeer).symm
  · rw [AList.lookup_insert_ne heq] at hpeer
    have hkept := PeerCache.lookup_makeRoom hpeer
    rw [lookup_filterValues, Option.filter_eq_some_iff] at hkept
    exact .inr hkept.1

private theorem Vouches.hear {datagram : Bytes} {source : IpAddr} {wall : UInt64}
    (h : Vouches rt past d) :
    Vouches rt (past ++ [⟨d, .hear datagram source wall, now⟩])
      (d.hear rt datagram source wall now) := by
  have hkept : Vouches rt (past ++ [⟨d, .hear datagram source wall, now⟩]) d := h.mono
  have hroot : (d.verifier.verify datagram wall).2.root = rt.root := by
    rw [DiscoveryVerifier.verify_root, h.root]
  simp only [Daemon.hear]
  cases hverify : d.verifier.verify datagram wall with
  | mk result verifier =>
      rw [hverify] at hroot
      cases result with
      | error e =>
          exact ⟨hroot, hkept.cached, hkept.heard, hkept.scanned, hkept.electing, hkept.called,
            hkept.entered⟩
      | ok discovery =>
          dsimp only
          split
          · exact ⟨hroot, hkept.cached, hkept.heard, hkept.scanned, hkept.electing, hkept.called,
              hkept.entered⟩
          · have hok : (d.verifier.verify datagram wall).1 = .ok discovery := by rw [hverify]
            have hnew : Heard rt (past ++ [⟨d, .hear datagram source wall, now⟩])
                ⟨discovery, ⟨source, discovery.port⟩, now⟩ := by
              refine ⟨_, List.mem_append_right _ (List.mem_singleton_self _), datagram, source, wall,
                rfl, hok, ?_, rfl, rfl⟩
              rw [← h.root]
              exact DiscoveryVerifier.authentic_of_verify hok
            constructor
            · exact hroot
            · intro id peer hpeer
              rcases lookup_put hpeer with rfl | hold
              · exact hnew
              · exact hkept.cached id peer hold
            · intro peer hheard
              cases hheard
              exact hnew
            · intro _ _ _ hscanned
              cases hscanned
            · intro _ helecting
              cases helecting
            · exact hkept.called
            · exact hkept.entered

private theorem Vouches.route {source : IpAddr} {preface : Bytes} (h : Vouches rt past d) :
    Vouches rt (past ++ [⟨d, .route source preface, now⟩]) (d.route rt source preface now) := by
  have hkept : Vouches rt (past ++ [⟨d, .route source preface, now⟩]) d := h.mono
  simp only [Daemon.route]
  split
  next => exact hkept
  next routeId _ =>
    have hlookup : ∀ id, (d.peers.byId now routeId).2.entries.lookup id =
        (d.peers.entries.lookup id).filter (PeerCache.fresh now) :=
      fun id => lookup_filterValues ..
    constructor
    · exact hkept.root
    · intro id peer hpeer
      rw [hlookup, Option.filter_eq_some_iff] at hpeer
      exact hkept.cached id peer hpeer.1
    · exact hkept.heard
    · exact hkept.scanned
    · exact hkept.electing
    · intro peer hcalled
      obtain ⟨hfound, hip, hroutes, hother⟩ := caller_eq_some.mp hcalled
      have hcached : d.peers.entries.lookup routeId = some peer ∧ PeerCache.fresh now peer = true := by
        rw [← Option.filter_eq_some_iff, ← lookup_filterValues]
        exact hfound
      refine ⟨hkept.cached routeId peer hcached.1, hother, ?_⟩
      refine ⟨_, List.mem_append_right _ (List.mem_singleton_self _), preface, ?_, hroutes, ?_⟩
      · rw [hip]
      · exact of_decide_eq_true hcached.2
    · exact hkept.entered

private theorem Vouches.scan {opened : UInt64} {order : ReadDir} (h : Vouches rt past d)
    (hloop : d.loop = .heard peer) :
    Vouches rt (past ++ [⟨d, .scan opened order, now⟩]) (d.scan rt peer opened order) := by
  have hkept : Vouches rt (past ++ [⟨d, .scan opened order, now⟩]) d := h.mono
  constructor
  · exact hkept.root
  · exact hkept.cached
  · intro _ hheard
    cases hheard
  · intro _ _ _ hscanned
    cases hscanned
    refine ⟨hkept.heard peer hloop, ?_⟩
    exact ⟨_, List.mem_append_right _ (List.mem_singleton_self _), order, rfl, rfl⟩
  · intro _ helecting
    cases helecting
  · exact hkept.called
  · exact hkept.entered

private theorem Vouches.receive (h : Vouches rt past d) :
    Vouches rt past { d with loop := .receiving } := by
  constructor
  · exact h.root
  · exact h.cached
  · intro _ heq
    cases heq
  · intro _ _ _ heq
    cases heq
  · intro _ heq
    cases heq
  · exact h.called
  · exact h.entered

private theorem Vouches.decide {opened : UInt64} {active : Option Text} {order : ReadDir}
    (h : Vouches rt past d) (hloop : d.loop = .scanned peer opened active) :
    Vouches rt (past ++ [⟨d, .decide order, now⟩]) (d.decide rt peer opened active order) := by
  have hkept : Vouches rt (past ++ [⟨d, .decide order, now⟩]) d := h.mono
  obtain ⟨hheard, hscanned⟩ := hkept.scanned peer opened active hloop
  simp only [Daemon.decide]
  split_ifs with hhealthy hlower
  · exact hkept.receive
  · constructor
    · exact hkept.root
    · exact hkept.cached
    · intro _ heq
      cases heq
    · intro _ _ _ heq
      cases heq
    · intro _ helecting
      cases helecting
      refine ⟨hheard, hlower, _, List.mem_append_right _ (List.mem_singleton_self _), opened, active,
        order, rfl, hscanned, ?_⟩
      rw [not_and, Option.isNone_iff_eq_none] at hhealthy
      cases active with
      | none => exact .inl rfl
      | some pairId => exact .inr (hhealthy rfl)
    · exact hkept.called
    · exact hkept.entered
  · exact hkept.receive

private theorem Vouches.move {w : ℕ} {task : Option Task} (h : Vouches rt past d)
    (htasks : d'.tasks = Function.update d.tasks w task)
    (htask : ∀ peer driver, task = some (.entered peer driver) → Entitled rt past w peer driver)
    (hverifier : d'.verifier = d.verifier)
    (hpeers : d'.peers = d.peers) (hloop : d'.loop = d.loop) (hcalled : d'.called = d.called) :
    Vouches rt past d' := by
  constructor
  · rw [hverifier]
    exact h.root
  · rw [hpeers]
    exact h.cached
  · rw [hloop]
    exact h.heard
  · rw [hloop]
    exact h.scanned
  · rw [hloop]
    exact h.electing
  · rw [hcalled]
    exact h.called
  · intro w' peer driver hentered
    rw [htasks] at hentered
    by_cases heq : w' = w
    · rw [heq, Function.update_self] at hentered
      rw [heq]
      exact htask peer driver hentered
    · rw [Function.update_of_ne heq] at hentered
      exact h.entered w' peer driver hentered

private theorem Vouches.enter {w : ℕ} {driver : DriverM AuthenticatedPairingSession}
    (h : Vouches rt past d) (hentitled : Entitled rt past w peer driver) :
    Vouches rt past (d.enter w peer driver now) := by
  simp only [Daemon.enter]
  split
  · have hself : ∀ peer' driver', some (Task.entered peer driver) = some (.entered peer' driver') →
        Entitled rt past w peer' driver' := by
      intro _ _ heq
      cases heq
      exact hentitled
    refine h.move ?_ hself ?_ ?_ ?_ ?_ <;> rfl
  · exact ⟨h.root, h.cached, h.heard, h.scanned, h.electing, h.called, h.entered⟩

private theorem Step.vouches (hstep : Step rt d now action d') (h : Vouches rt past d) :
    Vouches rt (past ++ [⟨d, action, now⟩]) d' := by
  have hkept : Vouches rt (past ++ [⟨d, action, now⟩]) d := h.mono
  cases hstep with
  | hear hloop => exact h.hear
  | unopened hloop => exact hkept.receive
  | scan hloop => exact h.scan hloop
  | decide hloop => exact h.decide hloop
  | @elect w peer around hloop hidle =>
      obtain ⟨hheard, hchosen⟩ := hkept.electing peer hloop
      have hentitled : Entitled rt _ (w + 1) peer (rt.initiates peer around) :=
        ⟨hheard, .inr ⟨w.succ_ne_zero, hchosen, around, rfl⟩⟩
      exact (hkept.enter hentitled).receive
  | route hidle hlistening => exact h.route
  | hangUp =>
      refine ⟨hkept.root, hkept.cached, hkept.heard, hkept.scanned, hkept.electing, ?_, hkept.entered⟩
      intro _ heq
      cases heq
  | @call peer start broker around hidle hcalled =>
      obtain ⟨hheard, hcaller⟩ := hkept.called peer hcalled
      have hentitled : Entitled rt _ 0 peer (rt.responds peer start broker around) :=
        ⟨hheard, .inl ⟨rfl, hcaller, start, broker, around, rfl⟩⟩
      have hin : Vouches rt _ (d.enter 0 peer (rt.responds peer start broker around) now) :=
        hkept.enter hentitled
      refine ⟨hin.root, hin.cached, hin.heard, hin.scanned, hin.electing, ?_, hin.entered⟩
      intro _ heq
      cases heq
  | begin htask => exact hkept.move rfl (fun _ _ heq => by cases heq) rfl rfl rfl rfl
  | write htask => exact hkept.move rfl (fun _ _ heq => by cases heq) rfl rfl rfl rfl
  | release htask =>
      refine hkept.move rfl ?_ rfl rfl rfl rfl
      intro _ _ heq
      split at heq <;> cases heq
  | coolDown htask => exact hkept.move rfl (fun _ _ heq => by cases heq) rfl rfl rfl rfl

private theorem Run.vouches (hrun : Run rt host past d) : Vouches rt past d := by
  induction hrun with
  | start =>
      constructor
      · rfl
      · intro id peer hpeer
        cases hpeer
      · intro _ heq
        cases heq
      · intro _ _ _ heq
        cases heq
      · intro _ heq
        cases heq
      · intro _ heq
        cases heq
      · intro _ _ _ heq
        cases heq
  | act _ _ hstep ih =>
      have h := hstep.vouches ih
      exact ⟨h.root, h.cached, h.heard, h.scanned, h.electing, h.called, h.entered⟩

end Steps

/-- In every run each attempt is entitled to begin, by what has happened before it entered. -/
theorem attempts_entitled (hrun : Run rt host past d) :
    Throughout (fun before m => ∀ w peer driver, m.action = .begin w →
      m.before.tasks w = some (.entered peer driver) → Entitled rt before w peer driver) past := by
  induction hrun with
  | start => exact throughout_nil
  | act hrun _ hstep ih =>
      rw [throughout_append]
      refine ⟨ih, ?_, trivial⟩
      intro w peer driver _ htask
      exact hrun.vouches.entered w peer driver htask

end Daemon

end Gate

namespace Loopback

attribute [local instance] crypto noise PairingRecord.canonicalSerde PairMessage.canonicalSerde

open Daemon

/-- The listener may answer its neighbour. -/
theorem attempts_entitled_calls :
    Entitled responderRuntime ((calls Host.empty).take 3) 0 neighbour answer := by
  obtain ⟨_, -, hanswered⟩ := answered_eq Host.empty
  apply attempts_entitled (calls_run Host.empty) _ ⟨answered Host.empty, .begin 0, 3⟩ [] rfl
  · rfl
  show (answered Host.empty).tasks 0 = _
  rw [hanswered]
  rfl

end Loopback

end OmarchySync
