import OmarchySync.Runtime.Daemon

/-!
# The threads of the daemon one after the other

The threads of a daemon follow the protocol of the coordinator. Nobody but the one that is let
in touches the store, so whatever the interleaving, the store is where whole attempts have left
it, or on the way of one of them.
-/

namespace OmarchySync

open Logic Wire Traced

section Threads

variable [Crypto] [Noise]

/-- Where a task stands with the coordinator. -/
def Task.worker : Task → Worker
  | .entered peer _ => .pairing peer.discovery.deviceId
  | .running peer _ _ => .pairing peer.discovery.deviceId
  | .leaving id released => .leaving id released

/-- A thread without a task has not entered. -/
def Task.standing : Option Task → Worker
  | none => .idle
  | some task => task.worker

section Drives

variable [Serde] [AppSerde]

/-- The drivers that the threads of a runtime run. -/
inductive Runtime.Drives (rt : Runtime) : DriverM AuthenticatedPairingSession → Prop where
  | initiates (peer around) : Drives rt (rt.initiates peer around)
  | responds (peer start broker around) : Drives rt (rt.responds peer start broker around)

namespace Daemon

/-- What a step does to the coordinator, the store and the tasks. -/
inductive Effect (rt : Runtime) (d : Daemon) (now : Instant) :
    PairCoordinator → Host → (ℕ → Option Task) → Prop where
  | nothing : Effect rt d now d.coordinator d.host d.tasks
  | entered {w : ℕ} {peer : CachedPeer} {driver} (hidle : d.tasks w = none)
      (hdriver : rt.Drives driver)
      (hin : (d.coordinator.enter now peer.discovery.deviceId).1 = true) :
      Effect rt d now (d.coordinator.enter now peer.discovery.deviceId).2 d.host
        (Function.update d.tasks w (some (.entered peer driver)))
  | refused {w : ℕ} {peer : CachedPeer} (hidle : d.tasks w = none)
      (hout : ¬(d.coordinator.enter now peer.discovery.deviceId).1 = true) :
      Effect rt d now (d.coordinator.enter now peer.discovery.deviceId).2 d.host d.tasks
  | begun {w peer driver} (htask : d.tasks w = some (.entered peer driver)) :
      Effect rt d now d.coordinator d.host
        (Function.update d.tasks w
          (some (.running peer (driver d.host).visited (driver d.host).result)))
  | wrote {w peer l g rest result} (htask : d.tasks w = some (.running peer ((l, g) :: rest) result)) :
      Effect rt d now d.coordinator g (Function.update d.tasks w (some (.running peer rest result)))
  | released {w peer result} (retryLater : Bool)
      (htask : d.tasks w = some (.running peer [] result)) :
      Effect rt d now d.coordinator.release d.host
        (Function.update d.tasks w
          (if retryLater then some (.leaving peer.discovery.deviceId now) else none))
  | cooled {w id released} (htask : d.tasks w = some (.leaving id released)) :
      Effect rt d now (d.coordinator.coolDown now id) d.host (Function.update d.tasks w none)

variable {rt : Runtime} {d d' : Daemon} {now : Instant} {action : Action} {w : ℕ}

private theorem Effect.enter {peer : CachedPeer} {driver : DriverM AuthenticatedPairingSession}
    (hidle : d.tasks w = none) (hdriver : rt.Drives driver) :
    Effect rt d now (d.enter w peer driver now).coordinator (d.enter w peer driver now).host
      (d.enter w peer driver now).tasks := by
  simp only [Daemon.enter]
  split
  next hin => exact .entered hidle hdriver hin
  next hout => exact .refused hidle hout

theorem Step.effect (hstep : Step rt d now action d') :
    Effect rt d now d'.coordinator d'.host d'.tasks := by
  cases hstep with
  | hear hloop =>
      simp only [Daemon.hear]
      split
      · exact .nothing
      · split <;> exact .nothing
  | unopened hloop => exact .nothing
  | scan hloop => exact .nothing
  | decide hloop =>
      simp only [Daemon.decide]
      split_ifs <;> exact .nothing
  | elect hloop hidle => exact .enter hidle (.initiates ..)
  | route hidle hlistening =>
      simp only [Daemon.route]
      split <;> exact .nothing
  | hangUp => exact .nothing
  | call hidle hcalled => exact .enter hidle (.responds ..)
  | begin htask => exact .begun htask
  | write htask => exact .wrote htask
  | release htask => exact .released _ htask
  | coolDown htask => exact .cooled htask

end Daemon

end Drives

namespace Daemon

/-- The threads stand as the workers of the coordinator do. -/
structure Follows (d : Daemon) (s : Workers) : Prop where
  coordinator : s.coordinator = d.coordinator
  worker : ∀ w, s.worker w = Task.standing (d.tasks w)
  clock : s.clock ≤ d.clock

variable {d d' : Daemon} {s : Workers} {w w' : ℕ} {now : Instant} {rt : Runtime} {host : Host}

private theorem Follows.start : (start rt host).Follows Workers.start :=
  ⟨rfl, fun _ => rfl, le_refl _⟩

omit [Crypto] in
private theorem standing_update {worker : ℕ → Worker} {tasks : ℕ → Option Task} (task : Option Task)
    (hworker : ∀ w, worker w = Task.standing (tasks w)) (w w' : ℕ) :
    Function.update worker w (Task.standing task) w' =
      Task.standing (Function.update tasks w task w') := by
  by_cases heq : w' = w
  · rw [heq, Function.update_self, Function.update_self]
  · rw [Function.update_of_ne heq, Function.update_of_ne heq, hworker]

variable [Serde] [AppSerde]

/-- Each step is one of the coordinator's, or none of its business. -/
theorem Effect.follows {c : PairCoordinator} {g : Host} {tasks : ℕ → Option Task}
    (heffect : Effect rt d now c g tasks) (hnow : d.clock ≤ now) (h : d.Follows s) (d' : Daemon)
    (hc : d'.coordinator = c) (htasks : d'.tasks = tasks) (hclock : d'.clock = now) :
    (∃ l s', s.Step l s' ∧ d'.Follows s') ∨ d'.Follows s := by
  have hlater : s.clock ≤ now := h.clock.trans hnow
  -- what leaves the coordinator and the standing of every thread alone
  have hsame : c = d.coordinator → (∀ w, Task.standing (tasks w) = Task.standing (d.tasks w)) →
      d'.Follows s := by
    intro hcoordinator hstanding
    refine ⟨?_, ?_, hclock ▸ hlater⟩
    · rw [hc, hcoordinator, h.coordinator]
    · intro w
      rw [htasks, hstanding, h.worker]
  have hmoved : ∀ w task task', d.tasks w = some task → Task.worker task' = Task.worker task →
      ∀ w', Task.standing (Function.update d.tasks w (some task') w') =
        Task.standing (d.tasks w') := by
    intro w task task' htask hworker w'
    by_cases heq : w' = w
    · rw [heq, Function.update_self, htask]
      exact hworker
    · rw [Function.update_of_ne heq]
  cases heffect with
  | nothing => exact .inr (hsame rfl fun _ => rfl)
  | @entered w peer driver hidle hdriver hin =>
      left
      have hworker : s.worker w = .idle := by rw [h.worker, hidle, Task.standing]
      have hsection : s.Step (.enter w peer.discovery.deviceId now)
          (s.enter w peer.discovery.deviceId now) := .enter hworker hlater
      refine ⟨_, _, hsection, ?_, ?_, hclock ▸ le_refl _⟩
      · rw [hc, Workers.enter, h.coordinator]
      · intro w'
        rw [htasks, Workers.enter, h.coordinator, if_pos hin]
        exact standing_update (some (.entered peer driver)) h.worker w w'
  | @refused w peer hidle hout =>
      left
      have hworker : s.worker w = .idle := by rw [h.worker, hidle, Task.standing]
      have hsection : s.Step (.enter w peer.discovery.deviceId now)
          (s.enter w peer.discovery.deviceId now) := .enter hworker hlater
      refine ⟨_, _, hsection, ?_, ?_, hclock ▸ le_refl _⟩
      · rw [hc, Workers.enter, h.coordinator]
      · intro w'
        rw [htasks, Workers.enter, h.coordinator, if_neg hout]
        exact h.worker w'
  | begun htask => exact .inr (hsame rfl (hmoved _ _ _ htask rfl))
  | wrote htask => exact .inr (hsame rfl (hmoved _ _ _ htask rfl))
  | @released w peer result retryLater htask =>
      left
      have hworker : s.worker w = .pairing peer.discovery.deviceId := by
        rw [h.worker, htask]
        rfl
      have hsection : s.Step (.release w retryLater now)
          (s.release w peer.discovery.deviceId retryLater now) := .release hworker hlater
      refine ⟨_, _, hsection, ?_, ?_, hclock ▸ le_refl _⟩
      · rw [hc, Workers.release, h.coordinator]
      · intro w'
        have hupdate := standing_update
          (if retryLater then some (.leaving peer.discovery.deviceId now) else none) h.worker w w'
        rw [htasks, ← hupdate, Workers.release]
        cases retryLater <;> rfl
  | @cooled w id released htask =>
      left
      have hworker : s.worker w = .leaving id released := by
        rw [h.worker, htask]
        rfl
      refine ⟨_, _, .coolDown hworker hlater, ?_, ?_, hclock ▸ le_refl _⟩
      · rw [hc, Workers.coolDown, h.coordinator]
      · intro w'
        rw [htasks]
        exact standing_update none h.worker w w'

theorem Run.follows {past : List Moment} (hrun : Run rt host past d) :
    ∃ schedule s, Workers.Run schedule s ∧ d.Follows s := by
  induction hrun with
  | start => exact ⟨[], _, .start, .start⟩
  | @act past d now action d' _ hnow hstep ih =>
      obtain ⟨schedule, s, hworkers, hfollows⟩ := ih
      rcases hstep.effect.follows hnow hfollows (d'.tick now) rfl rfl rfl with
        ⟨l, s', hsection, hfollows'⟩ | hfollows'
      · exact ⟨_, s', hworkers.step hsection, hfollows'⟩
      · exact ⟨_, s, hworkers, hfollows'⟩

omit [Serde] [AppSerde] in
/-- The thread has entered and not yet left. -/
def Holds (d : Daemon) (w : ℕ) : Prop := ∃ id, Task.standing (d.tasks w) = .pairing id

private theorem Run.exclusive {past : List Moment} (hrun : Run rt host past d) (hw : d.Holds w)
    (hw' : d.Holds w') : w = w' := by
  obtain ⟨schedule, s, hworkers, hfollows⟩ := hrun.follows
  obtain ⟨id, hid⟩ := hw
  obtain ⟨id', hid'⟩ := hw'
  apply hworkers.remembers.exclusive w w' id id'
  · exact (hfollows.worker w).trans hid
  · exact (hfollows.worker w').trans hid'

end Daemon

end Threads

section Serial

variable [Crypto] [Noise] [Serde] [AppSerde]

/-- One whole attempt, undisturbed. -/
def Runtime.Attempts (rt : Runtime) (h g : Host) : Prop :=
  ∃ driver, rt.Drives driver ∧ g = endState h (driver h).visited

namespace Daemon

/-- The store is where the attempts so far have left it, one after the other; one that is running
has come as far as `done`. -/
structure Serial (rt : Runtime) (host : Host) (d : Daemon) : Prop where
  drives : ∀ w peer driver, d.tasks w = some (.entered peer driver) → rt.Drives driver
  quiet : (∀ w peer rest result, d.tasks w ≠ some (.running peer rest result)) →
    Relation.ReflTransGen rt.Attempts host d.host
  busy : ∀ w peer rest result, d.tasks w = some (.running peer rest result) →
    ∃ h driver done, Relation.ReflTransGen rt.Attempts host h ∧ rt.Drives driver ∧
      (driver h).visited = done ++ rest ∧ (driver h).result = result ∧ d.host = endState h done

variable {rt : Runtime} {host : Host} {d d' : Daemon} {now : Instant} {past : List Moment} {w : ℕ}

private theorem not_running (hrun : Run rt host past d) (hw : d.Holds w) {w' : ℕ} (hne : w' ≠ w)
    (peer : CachedPeer) (rest : List (DriverStep × Host))
    (result : Result AuthenticatedPairingSession) :
    d.tasks w' ≠ some (.running peer rest result) := by
  intro htask
  apply hne
  exact hrun.exclusive ⟨peer.discovery.deviceId, by rw [htask]; rfl⟩ hw

private theorem Serial.update (h : d.Serial rt host) {task : Option Task}
    (htasks : d'.tasks = Function.update d.tasks w task)
    (hdrives : ∀ peer driver, task = some (.entered peer driver) → rt.Drives driver)
    (hothers : ∀ w' peer rest result, w' ≠ w → d.tasks w' ≠ some (.running peer rest result))
    (hquiet : (∀ peer rest result, task ≠ some (.running peer rest result)) →
      Relation.ReflTransGen rt.Attempts host d'.host)
    (hbusy : ∀ peer rest result, task = some (.running peer rest result) →
      ∃ h driver done, Relation.ReflTransGen rt.Attempts host h ∧ rt.Drives driver ∧
        (driver h).visited = done ++ rest ∧ (driver h).result = result ∧
        d'.host = endState h done) : d'.Serial rt host := by
  constructor
  · intro w' peer driver htask
    rw [htasks] at htask
    by_cases heq : w' = w
    · rw [heq, Function.update_self] at htask
      exact hdrives peer driver htask
    · rw [Function.update_of_ne heq] at htask
      exact h.drives w' peer driver htask
  · intro hnone
    apply hquiet
    intro peer rest result htask
    apply hnone w peer rest result
    rw [htasks, Function.update_self, htask]
  · intro w' peer rest result htask
    rw [htasks] at htask
    by_cases heq : w' = w
    · rw [heq, Function.update_self] at htask
      exact hbusy peer rest result htask
    · rw [Function.update_of_ne heq] at htask
      exact absurd htask (hothers w' peer rest result heq)

private theorem Effect.serial {c : PairCoordinator} {g : Host} {tasks : ℕ → Option Task}
    (heffect : Effect rt d now c g tasks) (hrun : Run rt host past d) (h : d.Serial rt host)
    (hhost : d'.host = g) (htasks : d'.tasks = tasks) : d'.Serial rt host := by
  have hsame : g = d.host → tasks = d.tasks → d'.Serial rt host := by
    intro hg ht
    constructor <;> simp only [hhost, htasks, hg, ht]
    · exact h.drives
    · exact h.quiet
    · exact h.busy
  cases heffect with
  | nothing => exact hsame rfl rfl
  | refused _ _ => exact hsame rfl rfl
  | @entered w peer driver hidle hdriver _ =>
      constructor
      · intro w' peer' driver' htask
        rw [htasks] at htask
        by_cases heq : w' = w
        · rw [heq, Function.update_self] at htask
          cases htask
          exact hdriver
        · rw [Function.update_of_ne heq] at htask
          exact h.drives w' peer' driver' htask
      · intro hnone
        rw [hhost]
        apply h.quiet
        intro w' peer' rest result htask
        have hne : w' ≠ w := by
          intro heq
          rw [heq, hidle] at htask
          cases htask
        apply hnone w' peer' rest result
        rw [htasks, Function.update_of_ne hne, htask]
      · intro w' peer' rest result htask
        rw [htasks] at htask
        by_cases heq : w' = w
        · rw [heq, Function.update_self] at htask
          cases htask
        · rw [Function.update_of_ne heq] at htask
          rw [hhost]
          exact h.busy w' peer' rest result htask
  | @begun w peer driver htask =>
      have hw : d.Holds w := ⟨peer.discovery.deviceId, by rw [htask]; rfl⟩
      have hquiet : Relation.ReflTransGen rt.Attempts host d.host := by
        apply h.quiet
        intro w' peer' rest result htask'
        by_cases heq : w' = w
        · rw [heq, htask] at htask'
          cases htask'
        · exact not_running hrun hw heq peer' rest result htask'
      apply h.update htasks
      · intro _ _ heq
        cases heq
      · exact fun w' peer rest result hne => not_running hrun hw hne peer rest result
      · exact fun hnone => absurd rfl (hnone _ _ _)
      · intro _ _ _ heq
        cases heq
        exact ⟨d.host, driver, [], hquiet, h.drives w peer driver htask, rfl, rfl, hhost⟩
  | @wrote w peer l g rest result htask =>
      have hw : d.Holds w := ⟨peer.discovery.deviceId, by rw [htask]; rfl⟩
      obtain ⟨h₀, driver, done, hearlier, hdriver, hvisited, hresult, -⟩ := h.busy w _ _ _ htask
      apply h.update htasks
      · intro _ _ heq
        cases heq
      · exact fun w' peer rest result hne => not_running hrun hw hne peer rest result
      · exact fun hnone => absurd rfl (hnone _ _ _)
      · intro _ _ _ heq
        cases heq
        refine ⟨h₀, driver, done ++ [(l, g)], hearlier, hdriver, ?_, hresult, ?_⟩
        · rw [hvisited, List.append_assoc]
          rfl
        · rw [hhost, endState_append]
          rfl
  | @released w peer result retryLater htask =>
      have hw : d.Holds w := ⟨peer.discovery.deviceId, by rw [htask]; rfl⟩
      obtain ⟨h₀, driver, done, hearlier, hdriver, hvisited, -, hend⟩ := h.busy w _ _ _ htask
      apply h.update htasks
      · intro _ _ heq
        split at heq <;> cases heq
      · exact fun w' peer rest result hne => not_running hrun hw hne peer rest result
      · intro _
        refine hearlier.tail ⟨driver, hdriver, ?_⟩
        rw [hvisited, List.append_nil, hhost]
        exact hend
      · intro _ _ _ heq
        split at heq <;> cases heq
  | @cooled w id released htask =>
      constructor
      · intro w' peer' driver' htask'
        rw [htasks] at htask'
        by_cases heq : w' = w
        · rw [heq, Function.update_self] at htask'
          cases htask'
        · rw [Function.update_of_ne heq] at htask'
          exact h.drives w' peer' driver' htask'
      · intro hnone
        rw [hhost]
        apply h.quiet
        intro w' peer' rest result htask'
        have hne : w' ≠ w := by
          intro heq
          rw [heq, htask] at htask'
          cases htask'
        apply hnone w' peer' rest result
        rw [htasks, Function.update_of_ne hne, htask']
      · intro w' peer' rest result htask'
        rw [htasks] at htask'
        by_cases heq : w' = w
        · rw [heq, Function.update_self] at htask'
          cases htask'
        · rw [Function.update_of_ne heq] at htask'
          rw [hhost]
          exact h.busy w' peer' rest result htask'

theorem Run.serial (hrun : Run rt host past d) : d.Serial rt host := by
  induction hrun with
  | start =>
      constructor
      · intro w peer driver htask
        cases htask
      · intro _
        exact .refl
      · intro w peer rest result htask
        cases htask
  | act hrun _ hstep ih => exact hstep.effect.serial hrun ih rfl rfl

/-- In every run one thread at most is between `enter` and `leave`, and the store is where whole
attempts, one after the other, have led it. -/
theorem attempts_serial (hrun : Run rt host past d) :
    (∀ w w', d.Holds w → d.Holds w' → w = w') ∧ d.Serial rt host :=
  ⟨fun _ _ hw hw' => hrun.exclusive hw hw', hrun.serial⟩

end Daemon

end Serial

namespace Loopback

attribute [local instance] crypto noise lawfulCrypto PairingRecord.canonicalSerde
  PairMessage.canonicalSerde

open Daemon

def lan : IpAddr := .v4 ⟨[192, 168, 1, 7], rfl⟩

/-- The announcement of the first device as the second one caches it. -/
def neighbour : CachedPeer :=
  ⟨(announcement (keyOf 1) 3 100).verified, ⟨lan, (announcement (keyOf 1) 3 100).port⟩, 1⟩

/-- A connection that breaks off at once. -/
def broken : Surroundings :=
  ⟨none, ⟨100, 100, listing, listing, listing, .error "", keyOf 12⟩, env, env, []⟩

def answer : DriverM AuthenticatedPairingSession :=
  responderRuntime.responds neighbour [] (fun _ => .error "") broken

/-- The neighbour is heard and calls. -/
def heard (h : Host) : Daemon :=
  ((start responderRuntime h).hear responderRuntime announcementBytes lan 100 1).tick 1

def called (h : Host) : Daemon :=
  ((heard h).route responderRuntime lan (routePreface (identity 1)) 2).tick 2

/-- The listener lets it in, to no avail. -/
def answered (h : Host) : Daemon :=
  Daemon.tick { (called h).enter 0 neighbour answer 3 with called := none } 3

def running (h : Host) : Daemon :=
  ((answered h).setTask 0
    (some (.running neighbour (answer h).visited (answer h).result))).tick 3

/-- The verifier behind the announcement. -/
@[irreducible]
def heardVerifier : DiscoveryVerifier :=
  ((DiscoveryVerifier.new root).verify announcementBytes 100).2

private theorem verify_of_isOk {v : DiscoveryVerifier} {datagram : Bytes} {wall : UInt64}
    {a : DiscoveryAnnouncement}
    (hparsed : (DiscoveryAnnouncement.fromBytes datagram).toOption = some a)
    (hok : (v.verify datagram wall).1.isOk = true) :
    v.verify datagram wall = (.ok a.verified, (v.verify datagram wall).2) := by
  have hread : DiscoveryAnnouncement.fromBytes datagram = .ok a := by
    cases hread : DiscoveryAnnouncement.fromBytes datagram with
    | error e =>
        rw [hread] at hparsed
        cases hparsed
    | ok a' =>
        rw [hread] at hparsed
        rw [Option.some.inj hparsed]
  have haccepts : v.Accepts (datagram, wall) a := ⟨hread, hok⟩
  have hverify := haccepts.verify.2
  dsimp only at hverify
  refine Prod.ext ?_ rfl
  rw [hverify]

private theorem hear_verified {d : Daemon} {datagram : Bytes} {wall : UInt64} {now : Instant}
    {discovery : VerifiedDiscovery} {verifier : DiscoveryVerifier}
    (hverify : d.verifier.verify datagram wall = (.ok discovery, verifier))
    (hother : discovery.deviceId ≠ responderRuntime.identity.deviceId) :
    d.hear responderRuntime datagram lan wall now = { d with
      verifier
      peers := d.peers.put now discovery ⟨lan, discovery.port⟩
      loop := .heard ⟨discovery, ⟨lan, discovery.port⟩, now⟩ } := by
  simp only [Daemon.hear, hverify, if_neg hother]

private theorem heard_eq (h : Host) : heard h =
    ⟨heardVerifier, PeerCache.new.put 1 neighbour.discovery neighbour.address, .new, h,
      .heard neighbour, none, fun _ => none, 1⟩ := by
  have hparsed : (DiscoveryAnnouncement.fromBytes announcementBytes).toOption =
      some (announcement (keyOf 1) 3 100) := by decide +kernel
  have hok : ((DiscoveryVerifier.new root).verify announcementBytes 100).1.isOk = true := by
    decide +kernel
  have hverify : (DiscoveryVerifier.new root).verify announcementBytes 100 =
      (.ok neighbour.discovery, heardVerifier) := by
    unfold heardVerifier
    exact verify_of_isOk hparsed hok
  have hother : neighbour.discovery.deviceId ≠ responderRuntime.identity.deviceId := by
    decide +kernel
  have hstart : (start responderRuntime h).verifier = DiscoveryVerifier.new root := rfl
  rw [← hstart] at hverify
  unfold heard
  rw [hear_verified hverify hother]
  rfl

theorem route_neighbour {d : Daemon} {now : Instant}
    (hcached : d.peers.entries.lookup neighbour.discovery.deviceId = some neighbour)
    (hfresh : PeerCache.fresh now neighbour = true) :
    ∃ peers : PeerCache, peers.entries.lookup neighbour.discovery.deviceId = some neighbour ∧
      d.route responderRuntime lan (routePreface (identity 1)) now =
        { d with peers, called := some neighbour } := by
  have hkept : (d.peers.byId now neighbour.discovery.deviceId).1 = some neighbour := by
    rw [PeerCache.byId, lookup_filterValues, hcached, Option.filter_some, if_pos hfresh]
  have hroutes : Routes (routePreface (identity 1)) neighbour.discovery.deviceId
      neighbour.discovery.publicKey := routePreface_routes (identity 1)
  have hcaller : caller responderRuntime lan (routePreface (identity 1)) (some neighbour) =
      some neighbour := by
    refine caller_eq_some.mpr ⟨rfl, rfl, hroutes, ?_⟩
    decide +kernel
  refine ⟨(d.peers.byId now neighbour.discovery.deviceId).2, hkept, ?_⟩
  simp only [Daemon.route, hroutes.routeDeviceId, hkept, hcaller]

theorem called_eq (h : Host) : ∃ peers : PeerCache,
    peers.entries.lookup neighbour.discovery.deviceId = some neighbour ∧ called h =
      ⟨heardVerifier, peers, .new, h, .heard neighbour, some neighbour, fun _ => none, 2⟩ := by
  have heq := heard_eq h
  have hcached : (heard h).peers.entries.lookup neighbour.discovery.deviceId = some neighbour := by
    rw [heq, PeerCache.put, AList.lookup_insert]
    rfl
  have hfresh : PeerCache.fresh 2 neighbour = true := by decide +kernel
  obtain ⟨peers, hkept, hroute⟩ := route_neighbour hcached hfresh
  refine ⟨peers, hkept, ?_⟩
  unfold called
  rw [hroute, heq]
  rfl

theorem answered_eq (h : Host) : ∃ peers : PeerCache,
    peers.entries.lookup neighbour.discovery.deviceId = some neighbour ∧ answered h =
      ⟨heardVerifier, peers, ⟨true, ∅⟩, h, .heard neighbour, none,
        Function.update (fun _ => none) 0 (some (.entered neighbour answer)), 3⟩ := by
  obtain ⟨peers, hkept, heq⟩ := called_eq h
  refine ⟨peers, hkept, ?_⟩
  unfold answered
  rw [heq]
  rfl

/-- The moments up to the answer. -/
def calls (h : Host) : List Moment :=
  [⟨start responderRuntime h, .hear announcementBytes lan 100, 1⟩,
    ⟨heard h, .route lan (routePreface (identity 1)), 2⟩,
    ⟨called h, .call [] (fun _ => .error "") broken, 3⟩, ⟨answered h, .begin 0, 3⟩]

theorem calls_run (h : Host) : Daemon.Run responderRuntime h (calls h) (running h) := by
  have hheard := heard_eq h
  obtain ⟨_, -, hcalled⟩ := called_eq h
  obtain ⟨_, -, hanswered⟩ := answered_eq h
  have hrun₁ : Daemon.Run responderRuntime h _ (heard h) := .act .start (Nat.zero_le 1) (.hear rfl)
  have hroute : Step responderRuntime (heard h) 2 (.route lan (routePreface (identity 1)))
      ((heard h).route responderRuntime lan (routePreface (identity 1)) 2) :=
    .route (by rw [hheard]) (by rw [hheard])
  have hrun₂ := Daemon.Run.act hrun₁ (Nat.le_succ 1) hroute
  have hcall : Step responderRuntime (called h) 3 (.call [] (fun _ => .error "") broken)
      { (called h).enter 0 neighbour answer 3 with called := none } :=
    .call (by rw [hcalled]) (by rw [hcalled])
  have hrun₃ := Daemon.Run.act hrun₂ (Nat.le_succ 2) hcall
  have htask : (answered h).tasks 0 = some (.entered neighbour answer) := by
    rw [hanswered]
    rfl
  have hhost : (answered h).host = h := by rw [hanswered]
  have hbegin : Step responderRuntime (answered h) 3 (.begin 0)
      ((answered h).setTask 0 (some (.running neighbour (answer (answered h).host).visited
        (answer (answered h).host).result))) := .begin htask
  rw [hhost] at hbegin
  exact Daemon.Run.act hrun₃ (le_refl 3) hbegin

/-- The announcement of a third device. -/
def strangerBytes : Bytes := ((announcement (keyOf 3) 3 100).toBytes.toOption).getD []

def stranger : CachedPeer :=
  ⟨(announcement (keyOf 3) 3 100).verified, ⟨lan, (announcement (keyOf 3) 3 100).port⟩, 4⟩

/-- While the caller is answered, the loop hears the third device. -/
def overhearing : Daemon :=
  ((Daemon.tick { running Host.empty with loop := .receiving } 4).hear responderRuntime
    strangerBytes lan 100 4).tick 4

/-- It has no record of the two and decides to initiate. -/
def electing : Daemon :=
  (((overhearing.scan responderRuntime stranger 100 listing).tick 4).decide responderRuntime
    stranger 100 none listing).tick 4

/-- Its thread asks to be let in. -/
def contended : Daemon :=
  Daemon.tick { electing.enter 1 stranger (responderRuntime.initiates stranger broken) 4 with
    loop := .receiving } 4

private theorem overhearing_eq : ∃ verifier peers tasks, overhearing =
    ⟨verifier, peers, ⟨true, ∅⟩, Host.empty, .heard stranger, none, tasks, 4⟩ ∧
      tasks 1 = none := by
  obtain ⟨peers, -, hanswered⟩ := answered_eq Host.empty
  have hverify : heardVerifier.verify strangerBytes 100 =
      (.ok stranger.discovery, (heardVerifier.verify strangerBytes 100).2) :=
    verify_of_isOk (by decide +kernel) (by decide +kernel)
  have hother : stranger.discovery.deviceId ≠ responderRuntime.identity.deviceId := by
    decide +kernel
  have hverifier : (Daemon.tick { running Host.empty with loop := .receiving } 4).verifier =
      heardVerifier := by
    simp only [running, hanswered, Daemon.tick, Daemon.setTask]
  rw [← hverifier] at hverify
  unfold overhearing
  rw [hear_verified hverify hother]
  simp only [running, hanswered, Daemon.tick, Daemon.setTask]
  exact ⟨_, _, _, rfl, rfl⟩

private theorem electing_eq : ∃ verifier peers tasks, electing =
    ⟨verifier, peers, ⟨true, ∅⟩, Host.empty, .electing stranger, none, tasks, 4⟩ ∧
      tasks 1 = none := by
  obtain ⟨verifier, peers, tasks, heq, hidle⟩ := overhearing_eq
  have hlower : responderRuntime.identity.deviceId < stranger.discovery.deviceId := by
    decide +kernel
  refine ⟨verifier, peers, tasks, ?_, hidle⟩
  simp only [electing, heq, Daemon.scan, Daemon.decide, Daemon.tick, Option.isSome_none,
    Bool.false_eq_true, false_and, if_false, if_pos hlower]

private theorem contended_run : ∃ past, Daemon.Run responderRuntime Host.empty past contended := by
  obtain ⟨_, -, hanswered⟩ := answered_eq Host.empty
  obtain ⟨_, _, _, hoverhearing, -⟩ := overhearing_eq
  obtain ⟨_, _, _, helecting, hidle⟩ := electing_eq
  have hunopened : Step responderRuntime (running Host.empty) 4 .unopened
      { running Host.empty with loop := .receiving } := by
    have hloop : (running Host.empty).loop = .heard neighbour := by
      simp only [running, hanswered, Daemon.tick, Daemon.setTask]
    exact .unopened hloop
  have hrun₁ := Daemon.Run.act (calls_run Host.empty) (Nat.le_succ 3) hunopened
  have hrun₂ : Daemon.Run responderRuntime Host.empty _ overhearing :=
    .act hrun₁ (le_refl 4) (.hear rfl)
  have hscan : Step responderRuntime overhearing 4 (.scan 100 listing)
      (overhearing.scan responderRuntime stranger 100 listing) := .scan (by rw [hoverhearing])
  have hrun₃ := Daemon.Run.act hrun₂ (by rw [hoverhearing]) hscan
  have hactive : responderRuntime.foundActive 100 listing Host.empty stranger = none := by
    decide +kernel
  have hdecide : Step responderRuntime
      ((overhearing.scan responderRuntime stranger 100 listing).tick 4) 4 (.decide listing)
      (((overhearing.scan responderRuntime stranger 100 listing).tick 4).decide responderRuntime
        stranger 100 none listing) := by
    refine .decide ?_
    rw [hoverhearing]
    simp only [Daemon.scan, Daemon.tick, hactive]
  have hrun₄ : Daemon.Run responderRuntime Host.empty _ electing := .act hrun₃ (le_refl 4) hdecide
  have helect : Step responderRuntime electing 4 (.elect 1 broken)
      { electing.enter 1 stranger (responderRuntime.initiates stranger broken) 4 with
        loop := .receiving } := by
    refine .elect ?_ ?_
    · rw [helecting]
    · rw [helecting]
      exact hidle
  exact ⟨_, Daemon.Run.act hrun₄ (by rw [helecting]) helect⟩

/-- While the caller is answered, a second thread is not let in. -/
theorem attempts_serial_contended :
    ((∀ w w', contended.Holds w → contended.Holds w' → w = w') ∧
      contended.Serial responderRuntime Host.empty) ∧ contended.tasks 1 = none := by
  obtain ⟨past, hrun⟩ := contended_run
  refine ⟨attempts_serial hrun, ?_⟩
  obtain ⟨_, _, _, helecting, hidle⟩ := electing_eq
  rw [contended, helecting]
  exact hidle

end Loopback

end OmarchySync
