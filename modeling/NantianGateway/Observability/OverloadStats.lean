import NantianGateway.Lib.Table

/-!
# Overload statistics

`OverloadStats`: for every budget scope, how many permits are out and how many requests were
turned away.  A name whose count comes back to zero is taken out of its map again; what a reader
sees of a scope is one number (`current`).
-/

namespace NantianGateway.Observability

inductive BudgetScope where
  | httpGlobal
  | httpListener (listener : String)
  | httpRoute (route : String)
  | tcpGlobal
  | tcpListener (listener : String)
  | udpGlobal
  | udpListener (listener : String)
deriving DecidableEq, Repr

/-! ## Counters by name -/

/-- `NamedCounterMap`: no name is kept with the count zero. -/
@[ext]
structure NamedCounterMap where
  counts : Table String ℕ
  counts_ne_zero : ∀ key, counts key ≠ some 0

namespace NamedCounterMap

def empty : NamedCounterMap := ⟨Table.empty, fun _ => (Option.some_ne_none 0).symm⟩

variable (items : NamedCounterMap) (key : String)

def get : ℕ := (items.counts key).getD 0

def incrementNamed : NamedCounterMap where
  counts := items.counts.insert key (items.get key + 1)
  counts_ne_zero key' := by
    rw [Table.insert_apply]
    split
    · exact fun h => Nat.succ_ne_zero _ (Option.some.inj h)
    · exact items.counts_ne_zero key'

/-- `decrement_named`: a missing name is left alone, and a name that reaches zero is
removed. -/
def decrementNamed : NamedCounterMap where
  counts := fun key' =>
    if key' = key then (items.counts key).bind fun value =>
      if value - 1 = 0 then none else some (value - 1)
    else items.counts key'
  counts_ne_zero key' := by
    split
    · cases items.counts key with
      | none => exact (Option.some_ne_none 0).symm
      | some value =>
        rw [Option.bind_some]
        split
        · exact (Option.some_ne_none 0).symm
        · next hvalue => exact fun h => hvalue (Option.some.inj h)
    · exact items.counts_ne_zero key'

theorem get_incrementNamed (key key' : String) :
    (items.incrementNamed key).get key' = items.get key' + if key' = key then 1 else 0 := by
  show ((items.counts.insert key (items.get key + 1)) key').getD 0 = _
  rw [Table.insert_apply]
  split
  · next h => rw [h, Option.getD_some]
  · rfl

theorem get_decrementNamed (key key' : String) :
    (items.decrementNamed key).get key' = items.get key' - if key' = key then 1 else 0 := by
  show (if key' = key then (items.counts key).bind fun value =>
      if value - 1 = 0 then none else some (value - 1) else items.counts key').getD 0 = _
  split
  · next h =>
    rw [h, get]
    cases items.counts key with
    | none => rfl
    | some value =>
      rw [Option.bind_some, Option.getD_some]
      split
      · next hvalue => rw [hvalue, Option.getD_none]
      · rw [Option.getD_some]
  · rfl

end NamedCounterMap

/-! ## The statistics -/

/-- `OverloadStats`, its `AtomicU64` counters and its maps. -/
structure OverloadStats where
  httpGlobalInflightCurrent : ℕ
  httpListenerInflightCurrent : NamedCounterMap
  httpRouteInflightCurrent : NamedCounterMap
  httpRejectedTotal : ℕ
  httpRejectedGlobalTotal : ℕ
  httpRejectedListenerTotal : ℕ
  httpRejectedRouteTotal : ℕ
  httpRejectedListenerByName : NamedCounterMap
  httpRejectedRouteByName : NamedCounterMap
  tcpGlobalConnectionsCurrent : ℕ
  tcpListenerConnectionsCurrent : NamedCounterMap
  tcpRejectedTotal : ℕ
  tcpRejectedGlobalTotal : ℕ
  tcpRejectedListenerTotal : ℕ
  tcpRejectedListenerByName : NamedCounterMap
  udpGlobalDatagramsCurrent : ℕ
  udpListenerDatagramsCurrent : NamedCounterMap
  udpRejectedTotal : ℕ
  udpRejectedGlobalTotal : ℕ
  udpRejectedListenerTotal : ℕ
  udpRejectedListenerByName : NamedCounterMap

namespace OverloadStats

def empty : OverloadStats where
  httpGlobalInflightCurrent := 0
  httpListenerInflightCurrent := .empty
  httpRouteInflightCurrent := .empty
  httpRejectedTotal := 0
  httpRejectedGlobalTotal := 0
  httpRejectedListenerTotal := 0
  httpRejectedRouteTotal := 0
  httpRejectedListenerByName := .empty
  httpRejectedRouteByName := .empty
  tcpGlobalConnectionsCurrent := 0
  tcpListenerConnectionsCurrent := .empty
  tcpRejectedTotal := 0
  tcpRejectedGlobalTotal := 0
  tcpRejectedListenerTotal := 0
  tcpRejectedListenerByName := .empty
  udpGlobalDatagramsCurrent := 0
  udpListenerDatagramsCurrent := .empty
  udpRejectedTotal := 0
  udpRejectedGlobalTotal := 0
  udpRejectedListenerTotal := 0
  udpRejectedListenerByName := .empty

variable (stats : OverloadStats)

def observeAcquire : BudgetScope → OverloadStats
  | .httpGlobal =>
    { stats with httpGlobalInflightCurrent := stats.httpGlobalInflightCurrent + 1 }
  | .httpListener listener =>
    { stats with
      httpListenerInflightCurrent := stats.httpListenerInflightCurrent.incrementNamed listener }
  | .httpRoute route =>
    { stats with
      httpRouteInflightCurrent := stats.httpRouteInflightCurrent.incrementNamed route }
  | .tcpGlobal =>
    { stats with tcpGlobalConnectionsCurrent := stats.tcpGlobalConnectionsCurrent + 1 }
  | .tcpListener listener =>
    { stats with
      tcpListenerConnectionsCurrent :=
        stats.tcpListenerConnectionsCurrent.incrementNamed listener }
  | .udpGlobal =>
    { stats with udpGlobalDatagramsCurrent := stats.udpGlobalDatagramsCurrent + 1 }
  | .udpListener listener =>
    { stats with
      udpListenerDatagramsCurrent := stats.udpListenerDatagramsCurrent.incrementNamed listener }

/-- `observe_release`; `saturating_decrement` is subtraction of natural numbers. -/
def observeRelease : BudgetScope → OverloadStats
  | .httpGlobal =>
    { stats with httpGlobalInflightCurrent := stats.httpGlobalInflightCurrent - 1 }
  | .httpListener listener =>
    { stats with
      httpListenerInflightCurrent := stats.httpListenerInflightCurrent.decrementNamed listener }
  | .httpRoute route =>
    { stats with
      httpRouteInflightCurrent := stats.httpRouteInflightCurrent.decrementNamed route }
  | .tcpGlobal =>
    { stats with tcpGlobalConnectionsCurrent := stats.tcpGlobalConnectionsCurrent - 1 }
  | .tcpListener listener =>
    { stats with
      tcpListenerConnectionsCurrent :=
        stats.tcpListenerConnectionsCurrent.decrementNamed listener }
  | .udpGlobal =>
    { stats with udpGlobalDatagramsCurrent := stats.udpGlobalDatagramsCurrent - 1 }
  | .udpListener listener =>
    { stats with
      udpListenerDatagramsCurrent := stats.udpListenerDatagramsCurrent.decrementNamed listener }

def observeReject : BudgetScope → OverloadStats
  | .httpGlobal =>
    { stats with
      httpRejectedTotal := stats.httpRejectedTotal + 1
      httpRejectedGlobalTotal := stats.httpRejectedGlobalTotal + 1 }
  | .httpListener listener =>
    { stats with
      httpRejectedTotal := stats.httpRejectedTotal + 1
      httpRejectedListenerTotal := stats.httpRejectedListenerTotal + 1
      httpRejectedListenerByName := stats.httpRejectedListenerByName.incrementNamed listener }
  | .httpRoute route =>
    { stats with
      httpRejectedTotal := stats.httpRejectedTotal + 1
      httpRejectedRouteTotal := stats.httpRejectedRouteTotal + 1
      httpRejectedRouteByName := stats.httpRejectedRouteByName.incrementNamed route }
  | .tcpGlobal =>
    { stats with
      tcpRejectedTotal := stats.tcpRejectedTotal + 1
      tcpRejectedGlobalTotal := stats.tcpRejectedGlobalTotal + 1 }
  | .tcpListener listener =>
    { stats with
      tcpRejectedTotal := stats.tcpRejectedTotal + 1
      tcpRejectedListenerTotal := stats.tcpRejectedListenerTotal + 1
      tcpRejectedListenerByName := stats.tcpRejectedListenerByName.incrementNamed listener }
  | .udpGlobal =>
    { stats with
      udpRejectedTotal := stats.udpRejectedTotal + 1
      udpRejectedGlobalTotal := stats.udpRejectedGlobalTotal + 1 }
  | .udpListener listener =>
    { stats with
      udpRejectedTotal := stats.udpRejectedTotal + 1
      udpRejectedListenerTotal := stats.udpRejectedListenerTotal + 1
      udpRejectedListenerByName := stats.udpRejectedListenerByName.incrementNamed listener }

def current : BudgetScope → ℕ
  | .httpGlobal => stats.httpGlobalInflightCurrent
  | .httpListener listener => stats.httpListenerInflightCurrent.get listener
  | .httpRoute route => stats.httpRouteInflightCurrent.get route
  | .tcpGlobal => stats.tcpGlobalConnectionsCurrent
  | .tcpListener listener => stats.tcpListenerConnectionsCurrent.get listener
  | .udpGlobal => stats.udpGlobalDatagramsCurrent
  | .udpListener listener => stats.udpListenerDatagramsCurrent.get listener

theorem current_empty (scope : BudgetScope) : empty.current scope = 0 := by
  cases scope <;> rfl

variable (scope scope' : BudgetScope)

theorem current_observeAcquire : (stats.observeAcquire scope).current scope'
      = stats.current scope' + if scope' = scope then 1 else 0 := by
  cases scope <;> cases scope' <;>
    simp [observeAcquire, current, NamedCounterMap.get_incrementNamed]

theorem current_observeRelease : (stats.observeRelease scope).current scope'
      = stats.current scope' - if scope' = scope then 1 else 0 := by
  cases scope <;> cases scope' <;>
    simp [observeRelease, current, NamedCounterMap.get_decrementNamed]

theorem current_observeReject :
    (stats.observeReject scope).current scope' = stats.current scope' := by
  cases scope <;> cases scope' <;> rfl

end OverloadStats

end NantianGateway.Observability
