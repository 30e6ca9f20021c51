import OmarchySync.Trust.Steps

/-!
# Runs of the store

Sequences of calls on one device, each completed or interrupted after an atomic step, with
the device's other signatures in between.
-/

namespace OmarchySync

open Logic Wire Traced

variable [Crypto] [Noise]

/-- A call, with the clock and the environment it runs under. -/
structure Call where
  now : UInt64
  env : Env
  op : Op

/-- A run is fixed by the device it runs on, the interruptions that may happen and the calls
that may be made in a given state. -/
structure Setting where
  root : PinnedOmarchyRoot
  identity : DeviceIdentity
  cut : FsStep → Prop
  allowed : Host → Call → Prop

namespace Call

def store (call : Call) (S : Setting) : PairingStore := ⟨S.root, call.now⟩

variable [Serde]

def outcome (call : Call) (S : Setting) (h : Host) : Outcome FsStep Host Unit :=
  call.op.run (call.store S) call.env S.identity h

/-- The states a call can leave behind. -/
inductive Ends (call : Call) (S : Setting) (h : Host) : Host → Prop where
  | completes : Ends call S h (endState h (call.outcome S h).visited)
  | interrupted {l g} (hmem : (l, g) ∈ (call.outcome S h).visited) (hcut : S.cut l) :
      Ends call S h g

end Call

variable [Serde]

/-- From `start`, the calls made and the state reached. -/
inductive Run (S : Setting) (start : Host) : List Call → Host → Prop where
  | start : Run S start [] start
  | call {calls h call g} (hrun : Run S start calls h) (hallowed : S.allowed h call)
      (hends : call.Ends S h g) : Run S start (calls ++ [call]) g
  | sign {calls h s} (hrun : Run S start calls h) (hs : ∀ r role, s ≠ Signing.record r role) :
      Run S start calls (h.log (.signed s))

theorem StoreStep.journal {store : PairingStore} {env : Env} {identity : DeviceIdentity}
    {op : Op}
    {l : FsStep} {h g : Host} (hstep : StoreStep store env identity op l h g) :
    h.journal <+: g.journal := by
  cases hstep <;> simp

theorem Call.Ends.of_keeps {S : Setting} {call : Call} {h g : Host}
    {R : FsStep → Host → Host → Prop} {Q : Result Unit → Host → Prop} {I : Host → Prop}
    (hends : call.Ends S h g) (hkeeps : Keeps R (call.op.run (call.store S) call.env S.identity) Q h)
    (hstep : ∀ l a b, R l a b → I a → I b) (hI : I h) : I g := by
  have hboth := hkeeps.1.invariant hstep hI
  cases hends with
  | completes => exact hboth.1
  | interrupted hmem _ => exact hboth.2 _ _ hmem

/-- What every step of an allowed call preserves holds wherever the call ends. -/
theorem Call.Ends.invariant {S : Setting} {call : Call} {h g : Host} {I : Host → Prop}
    (hends : call.Ends S h g)
    (hstep : ∀ l a b, h.journal <+: a.journal →
      StoreStep (call.store S) call.env S.identity call.op l a b → I a → I b)
    (hI : I h) : I g := by
  have hboth : h.journal <+: g.journal ∧ I g :=
    hends.of_keeps (I := fun a => h.journal <+: a.journal ∧ I a) (Op.keeps_run call.op h)
      (fun l a b hab ha => ⟨ha.1.trans hab.journal, hstep l a b ha.1 hab ha.2⟩)
      ⟨List.prefix_refl _, hI⟩
  exact hboth.2

/-- Induction over runs: what the start has, other signatures keep and every step of an
allowed call preserves, holds at the end. -/
theorem Run.invariant {S : Setting} {start h : Host} {calls : List Call}
    {I : List Call → Host → Prop} (hrun : Run S start calls h) (hstart : I [] start)
    (hmore : ∀ calls call h, I calls h → I (calls ++ [call]) h)
    (hsign : ∀ calls h s, (∀ r role, s ≠ Signing.record r role) → I calls h →
      I calls (h.log (.signed s)))
    (hstep : ∀ calls call h, S.allowed h call → I calls h → ∀ l a b,
      h.journal <+: a.journal →
      StoreStep (call.store S) call.env S.identity call.op l a b →
      I (calls ++ [call]) a → I (calls ++ [call]) b) : I calls h := by
  induction hrun with
  | start => exact hstart
  | call _ hallowed hends ih =>
      exact hends.invariant (hstep _ _ _ hallowed ih) (hmore _ _ _ ih)
  | sign _ hs ih => exact hsign _ _ _ hs ih

end OmarchySync
