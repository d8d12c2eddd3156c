import NantianGateway.SharedTls.Reload

/-!
# Which stream listeners are stopped and started

`listener_updates_with_force_reload` compares the running TCP and UDP listeners with the planned
ones, name by name, as `listener_updates` does for the TLS binds.  A stream listener stays for one
with the same address and protocol, a TLS bind only for an equal one.
-/

namespace NantianGateway.Stream

open Reconcile

inductive StreamProtocol where
  | tcp
  | udp
  deriving DecidableEq

structure PlannedListener where
  name : String
  bind : String
  protocol : StreamProtocol

structure ListenerPlan where
  listeners : List PlannedListener

def desiredByName (plan : Option ListenerPlan) : BTreeMap PlannedListener :=
  ((plan.map ListenerPlan.listeners).getD []).foldl
    (fun desired listener => desired.insert listener.name listener) .empty

def sameSocket (active next : PlannedListener) : Prop :=
  active.bind = next.bind ∧ active.protocol = next.protocol

instance (active next : PlannedListener) : Decidable (sameSocket active next) :=
  inferInstanceAs (Decidable (_ ∧ _))

/-- The one branch of the loop that stops and starts nothing.  In the others the listener is
stopped, and started again if it is planned. -/
def leavesAlone (finished : List String) (forceReload : Bool) (name : String)
    (active next : PlannedListener) : Bool :=
  !forceReload && !decide (name ∈ finished) && decide (sameSocket active next)

def listenerUpdatesWithForceReload (active : BTreeMap PlannedListener)
    (desired : Option ListenerPlan) (finished : List String) (forceReload : Bool) :
    Plan PlannedListener :=
  plan (leavesAlone finished forceReload) active (desiredByName desired)

def filedByName (plan : Option ListenerPlan) : Filed PlannedListener.name where
  toMap := desiredByName plan
  filed := by
    rw [desiredByName]
    induction (plan.map ListenerPlan.listeners).getD [] using List.reverseRecOn with
    | nil => exact fun _ _ h => nomatch h
    | append_singleton listeners listener ih =>
      intro key value h
      rw [List.foldl_append, List.foldl_cons, List.foldl_nil, BTreeMap.get_insert] at h
      split at h
      · next hkey =>
        obtain rfl := Option.some.inj h
        exact hkey.symm
      · exact ih key value h

/-- **Both comparisons reconcile what runs with what is planned**, whatever has ended and whether or
not a reload is forced. -/
theorem listener_updates_reconciled (finished : List String) (forceReload : Bool)
    (active : Filed PlannedListener.name) (desired : Option ListenerPlan)
    (activeBinds : Filed SharedTls.PlannedSharedTlsBind.bind)
    (desiredBinds : Option (Filed SharedTls.PlannedSharedTlsBind.bind)) :
    Reconciled PlannedListener.name sameSocket finished forceReload active.toMap
      (desiredByName desired)
      (listenerUpdatesWithForceReload active.toMap desired finished forceReload) ∧
    let updates := SharedTls.listenerUpdates activeBinds.toMap
      (desiredBinds.map fun binds => ⟨binds.toMap⟩) finished forceReload
    Reconciled SharedTls.PlannedSharedTlsBind.bind Eq finished forceReload activeBinds.toMap
      ((desiredBinds.map Filed.toMap).getD .empty) ⟨updates.start, updates.stop⟩ := by
  constructor
  · refine reconciled_plan active (filedByName desired) (fun key value next => ?_) ?_
    · simp [leavesAlone, and_assoc]
    · rintro ⟨name, bind, protocol⟩ ⟨name', bind', protocol'⟩ rfl ⟨rfl, rfl⟩
      rfl
  · rw [SharedTls.listenerUpdates_eq]
    have hkeep : ∀ key value next,
        SharedTls.leavesAlone finished forceReload key value next = true ↔
        forceReload = false ∧ key ∉ finished ∧ value = next := by
      simp [SharedTls.leavesAlone, and_assoc]
    cases desiredBinds with
    | none =>
      exact reconciled_plan activeBinds ⟨.empty, by rintro _ _ ⟨⟩⟩ hkeep fun _ _ _ heq => heq
    | some binds => exact reconciled_plan activeBinds binds hkeep fun _ _ _ heq => heq

end NantianGateway.Stream
