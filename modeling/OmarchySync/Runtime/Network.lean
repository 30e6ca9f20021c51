import Mathlib.Logic.Function.Basic
import OmarchySync.Runtime.Driver

/-!
# Two devices and their connections

Any number of attempts between one initiating and one responding device. A connection keeps
what was written and not yet read in each direction. Every phase of a driver may run to its
end, be cut short by a crash of its device, or never happen because the connection is lost.
-/

namespace OmarchySync

open Logic Wire Traced PairingM

variable [Crypto] [Noise]

/-- One attempt: where the two drivers wait and what is on its way between them. -/
structure Link where
  initiator : InitiatorStage
  responder : ResponderStage
  toInitiator : Bytes
  toResponder : Bytes

/-- The two daemons. -/
structure Devices where
  initiator : Runtime
  responder : Runtime

/-- The two stores and all attempts so far. -/
structure Joint where
  initiator : Host
  responder : Host
  links : Nat → Link

namespace Link

/-- No attempt yet. -/
def unused : Link := ⟨.idle, .listening, [], []⟩

/-- An attempt whose initiator has given up. -/
def initiatorLost (l : Link) (e : String) : Link := { l with initiator := .returned (.error e) }

def responderLost (l : Link) (e : String) : Link := { l with responder := .returned (.error e) }

variable [Serde]

/-- The initiator looks up its records and sends its first message. -/
def dial (rt : Runtime) (os : Opening) (h : Host) : Link :=
  let dialed : Result Link := do
    let (x, reconnect) ← openInitiator rt os h
    let (start, party) ← exec PairingInitiator.start ⟨x, []⟩
    let out ← writeWire start
    return ⟨.dialed ⟨rt.root, os.opened⟩ reconnect party, .listening, [], out⟩
  match dialed with
  | .ok link => link
  | .error e => unused.initiatorLost e

/-- The responder looks up its records, and the two authenticate. -/
def connect (rt : Runtime) (os : Opening) (h : Host) (party : Party PairingInitiator)
    (start : Bytes) : Result (AuthenticatedPairingSession × ResponderStage) := do
  let (y, found) ← openResponder rt os h start
  let (initiator, responder) ← authenticate party ⟨y, []⟩ os.entropy start
  return (initiator, .request ⟨rt.root, os.opened⟩ found responder)

/-- The responder takes the call, and the initiator goes on to request a record. -/
def accept (rt : Runtime) (os : Opening) (h : Host) (l : Link) : Link :=
  match l.initiator, l.responder, readWire l.toResponder with
  | .dialed store reconnect party, .listening, .ok (start, rest) =>
      match connect rt os h party start with
      | .error e => (l.initiatorLost e).responderLost e
      | .ok (session, stage) =>
          match sendMessage session .request with
          | .error e => { l with initiator := .returned (.error e), responder := stage }
          | .ok (out, session) =>
              { l with
                initiator := .response store reconnect session
                responder := stage
                toResponder := rest ++ out }
  | _, _, _ => l

variable [AppSerde]

/-- A phase of one driver: the link it leads to and the states of the store on the way. -/
structure Phase where
  link : Link
  visited : List (FsStep × Host)

/-- The initiator reads its next frame. -/
def initiatorReads (rt : Runtime) (env : Env) (h : Host) (l : Link) : Phase :=
  match readWire l.toInitiator with
  | .error _ => ⟨l, []⟩
  | .ok (frame, rest) =>
      let outcome := l.initiator.receive rt env frame h
      match outcome.result with
      | .error e => ⟨{ l.initiatorLost e with toInitiator := rest }, outcome.visited⟩
      | .ok (stage, out) =>
          ⟨{ l with
              initiator := stage
              toInitiator := rest
              toResponder := l.toResponder ++ out }, outcome.visited⟩

/-- The responder reads its next frame. -/
def responderReads (rt : Runtime) (env : Env) (broker : AuthorizationBroker) (h : Host)
    (l : Link) : Phase :=
  match readWire l.toResponder with
  | .error _ => ⟨l, []⟩
  | .ok (frame, rest) =>
      let outcome := l.responder.receive rt env broker frame h
      match outcome.result with
      | .error e => ⟨{ l.responderLost e with toResponder := rest }, outcome.visited⟩
      | .ok (stage, out) =>
          ⟨{ l with
              responder := stage
              toResponder := rest
              toInitiator := l.toInitiator ++ out }, outcome.visited⟩

end Link

namespace Joint

/-- Two fresh installations. -/
def start : Joint := ⟨.empty, .empty, fun _ => .unused⟩

def setLink (J : Joint) (i : Nat) (l : Link) : Joint :=
  { J with links := Function.update J.links i l }

variable [Serde]

def dial (D : Devices) (i : Nat) (os : Opening) (J : Joint) : Joint :=
  J.setLink i (.dial D.initiator os J.initiator)

def accept (D : Devices) (i : Nat) (os : Opening) (J : Joint) : Joint :=
  J.setLink i ((J.links i).accept D.responder os J.responder)

variable [AppSerde]

def initiatorReads (D : Devices) (i : Nat) (env : Env) (J : Joint) : Joint :=
  let phase := (J.links i).initiatorReads D.initiator env J.initiator
  { J.setLink i phase.link with initiator := endState J.initiator phase.visited }

def responderReads (D : Devices) (i : Nat) (env : Env) (broker : AuthorizationBroker)
    (J : Joint) : Joint :=
  let phase := (J.links i).responderReads D.responder env broker J.responder
  { J.setLink i phase.link with responder := endState J.responder phase.visited }

def revokeInitiator (D : Devices) (now : UInt64) (pairId : Text) (J : Joint) : Joint :=
  let store : PairingStore := ⟨D.initiator.root, now⟩
  { J with initiator := endState J.initiator (store.revoke pairId J.initiator).visited }

def revokeResponder (D : Devices) (now : UInt64) (pairId : Text) (J : Joint) : Joint :=
  let store : PairingStore := ⟨D.responder.root, now⟩
  { J with responder := endState J.responder (store.revoke pairId J.responder).visited }

/-- What can happen next. A phase is cut short at any state of the store it passes through; a
restart is the loss of all attempts of a device, one after the other. -/
inductive Step (D : Devices) : Joint → Joint → Prop where
  | dial (J i os) (hunused : J.links i = .unused) : Step D J (J.dial D i os)
  | accept (J i os) : Step D J (J.accept D i os)
  | initiatorReads (J i env) : Step D J (J.initiatorReads D i env)
  | initiatorCrashes (J : Joint) (i env l h e)
      (hvisited : (l, h) ∈ ((J.links i).initiatorReads D.initiator env J.initiator).visited) :
      Step D J { J.setLink i ((J.links i).initiatorLost e) with initiator := h }
  | initiatorLost (J : Joint) (i e) : Step D J (J.setLink i ((J.links i).initiatorLost e))
  | responderReads (J i env broker) : Step D J (J.responderReads D i env broker)
  | responderCrashes (J : Joint) (i env broker l h e)
      (hvisited : (l, h) ∈
        ((J.links i).responderReads D.responder env broker J.responder).visited) :
      Step D J { J.setLink i ((J.links i).responderLost e) with responder := h }
  | responderLost (J : Joint) (i e) : Step D J (J.setLink i ((J.links i).responderLost e))
  | revokeInitiator (J now pairId) : Step D J (J.revokeInitiator D now pairId)
  | revokeResponder (J now pairId) : Step D J (J.revokeResponder D now pairId)

/-- The states that any number of attempts can reach. -/
abbrev Reachable (D : Devices) : Joint → Prop := Relation.ReflTransGen (Step D) start

end Joint

end OmarchySync
