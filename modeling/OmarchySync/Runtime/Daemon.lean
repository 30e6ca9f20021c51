import OmarchySync.Capability
import OmarchySync.Runtime.Coordinator
import OmarchySync.Runtime.Prompt
import OmarchySync.Runtime.Route

/-!
# The daemon

The discovery loop, the listener and the initiating threads of one process over their shared
state: the peer cache, the coordinator and the pairing store. The threads take turns in any
order; an attempt shows every state its driver takes the store through.
-/

namespace OmarchySync

open Logic Wire Traced

deriving instance DecidableEq for IpAddr

variable [Crypto] [Noise]

/-- What an attempt meets outside: a connection or a file that cannot be opened, or all that its
driver reads until it returns. -/
structure Surroundings where
  refused : Option String
  os : Opening
  env : Env
  env' : Env
  stream : Bytes

/-- What two lookups of a peer take from the operating system. -/
structure Look where
  opened : UInt64
  activeOrder : ReadDir
  pendingOrder : ReadDir

/-- Where the discovery loop stands. -/
inductive LoopStage where
  | receiving
  | heard (peer : CachedPeer)
  | scanned (peer : CachedPeer) (opened : UInt64) (active : Option Text)
  | electing (peer : CachedPeer)

/-- Where a thread stands between `enter` and the end of `leave`. A running attempt holds the
states its driver has yet to lead the store through: nobody else writes meanwhile. -/
inductive Task where
  | entered (peer : CachedPeer) (driver : DriverM AuthenticatedPairingSession)
  | running (peer : CachedPeer) (rest : List (DriverStep × Host))
      (result : Result AuthenticatedPairingSession)
  | leaving (id : Text) (released : Instant)

/-- The thread `0` is the listener, the others initiate. `called` is the caller whose start frame
the listener waits for. -/
structure Daemon where
  verifier : DiscoveryVerifier
  peers : PeerCache
  coordinator : PairCoordinator
  host : Host
  loop : LoopStage
  called : Option CachedPeer
  tasks : ℕ → Option Task
  clock : Instant

/-- `.ok().flatten()`: a lookup that fails has found nothing. -/
def flatten {α : Type} : Result (Option α) → Option α
  | .ok found => found
  | .error _ => none

namespace Runtime

/-- The runtime of an attempt with the given peer. -/
def toward (rt : Runtime) (peer : CachedPeer) : Runtime :=
  { rt with peerDeviceId := peer.discovery.deviceId }

section Lookups

variable [Serde]

def foundActive (rt : Runtime) (opened : UInt64) (order : ReadDir) (h : Host) (peer : CachedPeer) :
    Option Text :=
  flatten ((PairingStore.mk rt.root opened).activePairForPeerAt order h rt.identity.deviceId
    peer.discovery.deviceId)

def foundPending (rt : Runtime) (opened : UInt64) (order : ReadDir) (h : Host) (peer : CachedPeer) :
    Option PairingRecord :=
  flatten ((PairingStore.mk rt.root opened).pendingForPeer order h rt.identity.deviceId
    peer.discovery.deviceId)

/-- Whether a responder that has returned is to be retried later. -/
def guardRetries (rt : Runtime) (look : Option Look) (h : Host) (peer : CachedPeer) :
    Result AuthenticatedPairingSession → Bool
  | .ok _ => false
  | .error _ =>
      match look with
      | none => true
      | some look => (rt.foundActive look.opened look.activeOrder h peer).isNone &&
          (rt.foundPending look.opened look.pendingOrder h peer).isNone

/-- The last argument of `leave` for the given thread. -/
def retries (rt : Runtime) (look : Option Look) (h : Host) (peer : CachedPeer)
    (result : Result AuthenticatedPairingSession) : ℕ → Bool
  | 0 => rt.guardRetries look h peer result
  | _ + 1 => !result.isOk

end Lookups

section Drivers

variable [Serde] [AppSerde]

def initiates (rt : Runtime) (peer : CachedPeer) (around : Surroundings) :
    DriverM AuthenticatedPairingSession :=
  match around.refused with
  | some e => liftM (Except.error e : Result _)
  | none => runInitiator (rt.toward peer) around.os around.env around.env' around.stream

def responds (rt : Runtime) (peer : CachedPeer) (start : Bytes) (broker : AuthorizationBroker)
    (around : Surroundings) : DriverM AuthenticatedPairingSession :=
  match around.refused with
  | some e => liftM (Except.error e : Result _)
  | none =>
      runResponderWithStart (rt.toward peer) around.os around.env around.env' broker start
        around.stream

end Drivers

end Runtime

namespace Daemon

def start (rt : Runtime) (host : Host) : Daemon :=
  ⟨.new rt.root, .new, .new, host, .receiving, none, fun _ => none, 0⟩

/-- What the threads do between two moments at which they can be overtaken. -/
inductive Action where
  | hear (datagram : Bytes) (source : IpAddr) (wall : UInt64)
  | unopened
  | scan (opened : UInt64) (order : ReadDir)
  | decide (order : ReadDir)
  | elect (w : ℕ) (around : Surroundings)
  | route (source : IpAddr) (preface : Bytes)
  | hangUp
  | call (start : Bytes) (broker : AuthorizationBroker) (around : Surroundings)
  | begin (w : ℕ)
  | write (w : ℕ)
  | release (w : ℕ) (look : Option Look)
  | coolDown (w : ℕ)

def setTask (d : Daemon) (w : ℕ) (task : Option Task) : Daemon :=
  { d with tasks := Function.update d.tasks w task }

@[simp]
theorem setTask_tasks_self (d : Daemon) (w : ℕ) (task : Option Task) :
    (d.setTask w task).tasks w = task :=
  Function.update_self ..

def tick (d : Daemon) (now : Instant) : Daemon := { d with clock := now }

section Tick

variable (d : Daemon) (now : Instant)

@[simp] theorem tick_peers : (d.tick now).peers = d.peers := rfl
@[simp] theorem tick_coordinator : (d.tick now).coordinator = d.coordinator := rfl
@[simp] theorem tick_host : (d.tick now).host = d.host := rfl
@[simp] theorem tick_called : (d.tick now).called = d.called := rfl
@[simp] theorem tick_tasks : (d.tick now).tasks = d.tasks := rfl

end Tick

/-- The loop takes an announcement into the cache. -/
def hear (rt : Runtime) (datagram : Bytes) (source : IpAddr) (wall : UInt64) (now : Instant)
    (d : Daemon) : Daemon :=
  match d.verifier.verify datagram wall with
  | (.error _, verifier) => { d with verifier }
  | (.ok discovery, verifier) =>
      if discovery.deviceId = rt.identity.deviceId then { d with verifier }
      else
        { d with
          verifier
          peers := d.peers.put now discovery ⟨source, discovery.port⟩
          loop := .heard ⟨discovery, ⟨source, discovery.port⟩, now⟩ }

/-- The caller of a preface, if the listener goes on with it. -/
def caller (rt : Runtime) (source : IpAddr) (preface : Bytes) (found : Option CachedPeer) :
    Option CachedPeer := do
  let peer ← found
  if peer.address.ip ≠ source ∨ (verifyRoutePreface preface peer).isOk = false then none
  else if peer.discovery.deviceId = rt.identity.deviceId then none
  else some peer

omit [Noise] in
theorem caller_eq_some {rt : Runtime} {source : IpAddr} {preface : Bytes}
    {found : Option CachedPeer} {peer : CachedPeer} :
    caller rt source preface found = some peer ↔ found = some peer ∧ peer.address.ip = source ∧
      Routes preface peer.discovery.deviceId peer.discovery.publicKey ∧
      peer.discovery.deviceId ≠ rt.identity.deviceId := by
  have hverify : ∀ p : CachedPeer, (verifyRoutePreface preface p).isOk = true ↔
      Routes preface p.discovery.deviceId p.discovery.publicKey := by
    intro p
    rw [← verifyRoutePreface_eq_ok, isOk_iff]
    exact ⟨fun h => h.elim fun _ hok => hok, fun hok => ⟨(), hok⟩⟩
  cases found with
  | none => simp [caller]
  | some p =>
      simp only [caller, Option.bind_eq_bind, Option.bind_some, Option.some.injEq]
      constructor
      · intro h
        split_ifs at h with hunbound hown
        cases h
        rw [not_or, not_not, Bool.not_eq_false, hverify] at hunbound
        exact ⟨rfl, hunbound.1, hunbound.2, hown⟩
      · intro h
        obtain ⟨rfl, hip, hroutes, hother⟩ := h
        have hok := (hverify p).mpr hroutes
        rw [if_neg (by simp [hip, hok]), if_neg hother]

/-- The listener reads the preface of a connection. -/
def route (rt : Runtime) (source : IpAddr) (preface : Bytes) (now : Instant) (d : Daemon) : Daemon :=
  match routeDeviceId preface with
  | none => d
  | some routeId =>
      let (found, peers) := d.peers.byId now routeId
      { d with peers, called := caller rt source preface found }

/-- `enter`, and the thread that goes on if it is let in. -/
def enter (w : ℕ) (peer : CachedPeer) (driver : DriverM AuthenticatedPairingSession) (now : Instant)
    (d : Daemon) : Daemon :=
  let (entered, coordinator) := d.coordinator.enter now peer.discovery.deviceId
  let d := { d with coordinator }
  if entered then d.setTask w (some (.entered peer driver)) else d

variable [Serde]

def scan (rt : Runtime) (peer : CachedPeer) (opened : UInt64) (order : ReadDir) (d : Daemon) :
    Daemon :=
  { d with loop := .scanned peer opened (rt.foundActive opened order d.host peer) }

/-- The loop goes on to initiate unless the relationship is healthy, or the peer's part it is. -/
def decide (rt : Runtime) (peer : CachedPeer) (opened : UInt64) (active : Option Text)
    (order : ReadDir) (d : Daemon) : Daemon :=
  let pending := rt.foundPending opened order d.host peer
  if active.isSome ∧ pending.isNone then { d with loop := .receiving }
  else if rt.identity.deviceId < peer.discovery.deviceId then { d with loop := .electing peer }
  else { d with loop := .receiving }

def release (rt : Runtime) (w : ℕ) (peer : CachedPeer) (result : Result AuthenticatedPairingSession)
    (look : Option Look) (now : Instant) (d : Daemon) : Daemon :=
  { d.setTask w (if rt.retries look d.host peer result w then
      some (.leaving peer.discovery.deviceId now) else none) with
    coordinator := d.coordinator.release }

omit [Serde] in
def coolDown (w : ℕ) (id : Text) (now : Instant) (d : Daemon) : Daemon :=
  { d.setTask w none with coordinator := d.coordinator.coolDown now id }

variable [AppSerde]

/-- The steps of the threads at the given time. -/
inductive Step (rt : Runtime) (d : Daemon) (now : Instant) : Action → Daemon → Prop where
  | hear {datagram source wall} (hloop : d.loop = .receiving) :
      Step rt d now (.hear datagram source wall) (d.hear rt datagram source wall now)
  | unopened {peer} (hloop : d.loop = .heard peer) :
      Step rt d now .unopened { d with loop := .receiving }
  | scan {peer opened order} (hloop : d.loop = .heard peer) :
      Step rt d now (.scan opened order) (d.scan rt peer opened order)
  | decide {peer opened active order} (hloop : d.loop = .scanned peer opened active) :
      Step rt d now (.decide order) (d.decide rt peer opened active order)
  | elect {w peer around} (hloop : d.loop = .electing peer) (hidle : d.tasks (w + 1) = none) :
      Step rt d now (.elect (w + 1) around)
        { d.enter (w + 1) peer (rt.initiates peer around) now with loop := .receiving }
  | route {source preface} (hidle : d.tasks 0 = none) (hlistening : d.called = none) :
      Step rt d now (.route source preface) (d.route rt source preface now)
  | hangUp : Step rt d now .hangUp { d with called := none }
  | call {peer start broker around} (hidle : d.tasks 0 = none) (hcalled : d.called = some peer) :
      Step rt d now (.call start broker around)
        { d.enter 0 peer (rt.responds peer start broker around) now with called := none }
  | begin {w peer driver} (htask : d.tasks w = some (.entered peer driver)) :
      Step rt d now (.begin w)
        (d.setTask w (some (.running peer (driver d.host).visited (driver d.host).result)))
  | write {w peer l h rest result} (htask : d.tasks w = some (.running peer ((l, h) :: rest) result)) :
      Step rt d now (.write w) { d.setTask w (some (.running peer rest result)) with host := h }
  | release {w peer result look} (htask : d.tasks w = some (.running peer [] result)) :
      Step rt d now (.release w look) (d.release rt w peer result look now)
  | coolDown {w id released} (htask : d.tasks w = some (.leaving id released)) :
      Step rt d now (.coolDown w) (d.coolDown w id now)

end Daemon

/-- An action with the state it was taken in and its time. -/
structure Moment where
  before : Daemon
  action : Daemon.Action
  now : Instant

namespace Daemon

variable [Serde] [AppSerde]

/-- The actions taken so far, and the state reached. The clock does not go back. -/
inductive Run (rt : Runtime) (host : Host) : List Moment → Daemon → Prop where
  | start : Run rt host [] (start rt host)
  | act {past d now action d'} (hrun : Run rt host past d) (hnow : d.clock ≤ now)
      (hstep : Step rt d now action d') :
      Run rt host (past ++ [⟨d, action, now⟩]) (d'.tick now)

end Daemon

end OmarchySync
