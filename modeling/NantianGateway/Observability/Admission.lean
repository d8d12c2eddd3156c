import Mathlib.Tactic.Abel
import NantianGateway.Lib.Semaphores
import NantianGateway.Lib.Tasks
import NantianGateway.Lib.Text
import NantianGateway.Observability.OverloadStats

/-!
# Admission control

The admission controllers of `overload.rs`: a request, connection or datagram is let in if each of
its scopes (all traffic, its listener, its route) has a permit left.  The semaphore of a named scope
is made on demand and removed when it is idle.  The removal races with new acquirers; what prevents
a second semaphore with a full budget is the reference count.  A turn is what the source does
atomically, and `Fits` says how the shared state fits what the tasks hold (`fits_step`).
-/

namespace NantianGateway.Observability

open Text Tasks Semaphores

/-! ## Scopes and limits -/

structure HttpAdmissionOptions where
  globalInflightLimit : ℕ
  listenerInflightLimit : ℕ
  routeInflightLimit : ℕ

structure TcpAdmissionOptions where
  globalConnectionLimit : ℕ
  listenerConnectionLimit : ℕ

structure UdpAdmissionOptions where
  globalDatagramLimit : ℕ
  listenerDatagramLimit : ℕ

/-- The options of an HTTP, a TCP and a UDP controller. -/
structure AdmissionOptions where
  http : HttpAdmissionOptions
  tcp : TcpAdmissionOptions
  udp : UdpAdmissionOptions

def BudgetScope.keyed : BudgetScope → Bool
  | .httpGlobal | .tcpGlobal | .udpGlobal => false
  | .httpListener _ | .httpRoute _ | .tcpListener _ | .udpListener _ => true

def AdmissionOptions.limit (options : AdmissionOptions) : BudgetScope → ℕ
  | .httpGlobal => options.http.globalInflightLimit
  | .httpListener _ => options.http.listenerInflightLimit
  | .httpRoute _ => options.http.routeInflightLimit
  | .tcpGlobal => options.tcp.globalConnectionLimit
  | .tcpListener _ => options.tcp.listenerConnectionLimit
  | .udpGlobal => options.udp.globalDatagramLimit
  | .udpListener _ => options.udp.listenerDatagramLimit

namespace Admission

/-- A scope of a controller.  Controllers that share their statistics have their own
semaphores, so a scope alone does not name one. -/
@[ext]
structure Slot (κ : Type*) where
  controller : κ
  scope : BudgetScope
deriving DecidableEq

def limit {κ : Type*} (options : κ → AdmissionOptions) (slot : Slot κ) : ℕ :=
  (options slot.controller).limit slot.scope

abbrev SemaphoreArc (κ : Type*) := Arc (Slot κ)

/-! ## The shared state -/

/-- The semaphores with their maps, and the statistics.  The controllers' own global
semaphores are entries of the pool that are there from the start. -/
structure Shared (κ : Type*) where
  pool : Pool (Slot κ)
  stats : OverloadStats

/-! ## Tasks -/

/-- How far `try_acquire_scope` or `try_acquire_keyed_scope` has come.  `owned` says whether the
caller has a reference besides the one it acquires with. -/
inductive Phase where
  | lookup
  | insert
  | clone (serial : ℕ)
  | attempt (serial : ℕ) (owned : Bool)
  | granted (serial : ℕ) (owned : Bool)
  | refused (serial : ℕ) (owned : Bool)
  | leaving (serial : ℕ) (owned : Bool) (granted : Bool)
deriving DecidableEq

inductive DropStage where
  | observe
  | permit
  | arc
  | cleanup
deriving DecidableEq

/-- A call of a controller. `acquiring` has the slots that are still to be asked and the permits
that were granted. `holding` has returned `Ok`; its next turn drops the permits. `dropping` is
inside the drop of one permit, with those still to be dropped. -/
inductive Task (κ : Type*) where
  | acquiring (phase : Phase) (slot : Slot κ) (rest : List (Slot κ))
      (permits : List (SemaphoreArc κ))
  | holding (permits : List (SemaphoreArc κ))
  | dropping (stage : DropStage) (permit : SemaphoreArc κ) (rest : List (SemaphoreArc κ))
      (refusal : Option BudgetScope)
  | finished (refusal : Option BudgetScope)
deriving DecidableEq

namespace Task

variable {κ : Type*}

/-- No operation is in flight: the permits were granted and are held, or it is over. -/
def resting : Task κ → Bool
  | .holding _ | .finished _ => true
  | .acquiring .. | .dropping .. => false

def startAcquire : List (Slot κ) → List (SemaphoreArc κ) → Task κ
  | [], permits => .holding permits
  | slot :: rest, permits => .acquiring .lookup slot rest permits

def startDrop : List (SemaphoreArc κ) → Option BudgetScope → Task κ
  | [], refusal => .finished refusal
  | permit :: rest, refusal => .dropping .observe permit rest refusal

end Task

section

variable {κ : Type*} [DecidableEq κ] (options : κ → AdmissionOptions) (s : Shared κ)

def stepAcquire (slot : Slot κ) (rest : List (Slot κ))
    (permits : List (SemaphoreArc κ)) : Phase → Shared κ × Task κ
  -- `entries.read().get(key).cloned()`, or `self.global.clone()`
  | .lookup =>
    match s.pool.entries slot with
    | some serial =>
      ({ s with pool := s.pool.retain ⟨slot, serial⟩ },
        .acquiring (if slot.scope.keyed then .clone serial else .attempt serial false)
          slot rest permits)
    | none =>
      if slot.scope.keyed then (s, .acquiring .insert slot rest permits)
      else (s, .startAcquire rest permits)
  -- `or_insert_with(|| Arc::new(Semaphore::new(limit))).clone()`
  | .insert =>
    match s.pool.entries slot with
    | some serial =>
      ({ s with pool := s.pool.retain ⟨slot, serial⟩ },
        .acquiring (.clone serial) slot rest permits)
    | none =>
      ({ s with pool := s.pool.insertNew slot (limit options slot) },
        .acquiring (.clone (s.pool.next slot)) slot rest permits)
  | .clone serial =>
    ({ s with pool := s.pool.retain ⟨slot, serial⟩ },
      .acquiring (.attempt serial true) slot rest permits)
  -- `try_acquire_owned` keeps its reference in the permit, or drops it
  | .attempt serial owned =>
    if 0 < s.pool.available ⟨slot, serial⟩ then
      ({ s with pool := s.pool.take ⟨slot, serial⟩ },
        .acquiring (.granted serial owned) slot rest permits)
    else
      ({ s with pool := s.pool.release ⟨slot, serial⟩ },
        .acquiring (.refused serial owned) slot rest permits)
  | .granted serial owned =>
    ({ s with stats := s.stats.observeAcquire slot.scope },
      .acquiring (.leaving serial owned true) slot rest (permits ++ [⟨slot, serial⟩]))
  | .refused serial owned =>
    ({ s with stats := s.stats.observeReject slot.scope },
      .acquiring (.leaving serial owned false) slot rest permits)
  | .leaving serial owned granted =>
    (if owned then { s with pool := s.pool.release ⟨slot, serial⟩ } else s,
      if granted then .startAcquire rest permits else .startDrop permits (some slot.scope))

/-- One turn inside the drop of a permit; the cleanup is the section under the map's write
lock. -/
def stepDrop (permit : SemaphoreArc κ) (rest : List (SemaphoreArc κ))
    (refusal : Option BudgetScope) : DropStage → Shared κ × Task κ
  | .observe =>
    ({ s with stats := s.stats.observeRelease permit.key.scope },
      .dropping .permit permit rest refusal)
  | .permit =>
    ({ s with pool := s.pool.giveBack permit }, .dropping .arc permit rest refusal)
  | .arc =>
    ({ s with pool := s.pool.release permit },
      if permit.key.scope.keyed then .dropping .cleanup permit rest refusal
      else .startDrop rest refusal)
  | .cleanup =>
    ({ s with pool := s.pool.cleanup permit.key (limit options permit.key) },
      .startDrop rest refusal)

def step : Task κ → Shared κ × Task κ
  | .acquiring phase slot rest permits => stepAcquire options s slot rest permits phase
  | .holding permits => (s, .startDrop permits none)
  | .dropping stage permit rest refusal => stepDrop options s permit rest refusal stage
  | .finished refusal => (s, .finished refusal)

end

/-! ## Calls of the controllers -/

inductive Call (κ : Type*) where
  | httpListener (controller : κ) (listener : String)
  | httpRoute (controller : κ) (route : String)
  | http (controller : κ) (listener route : String)
  | tcp (controller : κ) (listener : String)
  | udp (controller : κ) (listener : String)

section

variable {κ : Type*} (options : κ → AdmissionOptions) (controller : κ)

/-- The slot that `try_acquire_keyed_scope` asks, if it asks one. -/
def keyedSlot (scopeBuilder : String → BudgetScope) (key : String) : List (Slot κ) :=
  if limit options ⟨controller, scopeBuilder (trim key)⟩ = 0 ∨ trim key = "" then []
  else [⟨controller, scopeBuilder (trim key)⟩]

def tryAcquireListener (listener : String) : List (Slot κ) :=
  ⟨controller, .httpGlobal⟩ :: keyedSlot options controller .httpListener listener

def tryAcquireRoute (route : String) : List (Slot κ) :=
  keyedSlot options controller .httpRoute route

def Call.slots : Call κ → List (Slot κ)
  | .httpListener controller listener => tryAcquireListener options controller listener
  | .httpRoute controller route => tryAcquireRoute options controller route
  | .http controller listener route =>
    tryAcquireListener options controller listener ++ tryAcquireRoute options controller route
  | .tcp controller listener =>
    ⟨controller, .tcpGlobal⟩ :: keyedSlot options controller .tcpListener listener
  | .udp controller listener =>
    ⟨controller, .udpGlobal⟩ :: keyedSlot options controller .udpListener listener

def begin (call : Call κ) : Task κ := .startAcquire (call.slots options) []

/-- The controllers' `new`: `semaphore_for_limit` makes a global semaphore if its limit is
positive, and the maps are empty. -/
def newEntries (slot : Slot κ) : Option ℕ :=
  if slot.scope.keyed then none else if limit options slot = 0 then none else some 0

def new : Config (Shared κ) (Task κ) where
  shared :=
    { pool :=
        { entries := newEntries options
          strong := fun arc => if newEntries options arc.key = some arc.serial then 1 else 0
          available := fun arc => limit options arc.key
          capacity := fun arc => limit options arc.key
          next := fun _ => 1 }
      stats := .empty }
  tasks := []

end

/-! ## What tasks hold -/

/-- Permits, references, and the scopes of the permits that the statistics count. -/
abbrev Holdings (κ : Type*) :=
  Multiset (SemaphoreArc κ) × Multiset (SemaphoreArc κ) × Multiset BudgetScope

section

variable {κ : Type*}

/-- What a caller holds with its permits: each holds a reference, and is counted. -/
def permitHoldings (permits : List (SemaphoreArc κ)) : Holdings κ :=
  (permits, permits, permits.map fun permit => permit.key.scope)

variable (arc : SemaphoreArc κ)

def permitOf : Holdings κ := ({arc}, 0, 0)

def refOf : Holdings κ := (0, {arc}, 0)

def countOf (scope : BudgetScope) : Holdings κ := (0, 0, {scope})

def ownRef (owned : Bool) : Holdings κ := if owned then refOf arc else 0

def phaseHoldings (slot : Slot κ) : Phase → Holdings κ
  | .lookup | .insert => 0
  | .clone serial => refOf ⟨slot, serial⟩
  | .attempt serial owned => ownRef ⟨slot, serial⟩ owned + refOf ⟨slot, serial⟩
  | .granted serial owned =>
    ownRef ⟨slot, serial⟩ owned + (refOf ⟨slot, serial⟩ + permitOf ⟨slot, serial⟩)
  | .refused serial owned | .leaving serial owned _ => ownRef ⟨slot, serial⟩ owned

variable (permit : SemaphoreArc κ)

def stageHoldings : DropStage → Holdings κ
  | .observe => refOf permit + permitOf permit + countOf permit.key.scope
  | .permit => refOf permit + permitOf permit
  | .arc => refOf permit
  | .cleanup => 0

def holdings : Task κ → Holdings κ
  | .acquiring phase slot _ permits => permitHoldings permits + phaseHoldings slot phase
  | .holding permits => permitHoldings permits
  | .dropping stage permit rest _ => permitHoldings rest + stageHoldings permit stage
  | .finished _ => 0

def livePermits (tasks : List (Task κ)) : Multiset (SemaphoreArc κ) := (total holdings tasks).1

/-- Holdings with a reference for every permit. -/
def referenced (κ : Type*) : AddSubmonoid (Holdings κ) where
  carrier := {held | held.1 ≤ held.2.1}
  zero_mem' := le_refl (0 : Multiset (SemaphoreArc κ))
  add_mem' h h' := by
    rw [Set.mem_ofPred_eq] at h h' ⊢
    exact add_le_add h h'

def counted (κ : Type*) : AddSubmonoid (Holdings κ) where
  carrier := {held | held.2.2 = held.1.map fun permit => permit.key.scope}
  zero_mem' := rfl
  add_mem' {held held'} h h' := by
    rw [Set.mem_ofPred_eq] at h h' ⊢
    show held.2.2 + held'.2.2 = (held.1 + held'.1).map _
    rw [Multiset.map_add, h, h']

theorem mem_referenced {held : Holdings κ} : held ∈ referenced κ ↔ held.1 ≤ held.2.1 := Iff.rfl

theorem mem_counted {held : Holdings κ} :
    held ∈ counted κ ↔ held.2.2 = held.1.map fun permit => permit.key.scope := Iff.rfl

theorem permitHoldings_cons (rest : List (SemaphoreArc κ)) :
    permitHoldings (permit :: rest) = permitHoldings rest + stageHoldings permit .observe := by
  rw [add_comm]
  rfl

variable (permits : List (SemaphoreArc κ))

theorem permitHoldings_concat : permitHoldings (permits ++ [permit])
      = permitHoldings permits + stageHoldings permit .observe := by
  rw [permitHoldings, List.map_append]
  rfl

theorem holdings_startAcquire (rest : List (Slot κ)) (permits : List (SemaphoreArc κ)) :
    holdings (.startAcquire rest permits) = permitHoldings permits := by
  cases rest with
  | nil => rfl
  | cons slot rest => exact add_zero _

theorem holdings_startDrop (refusal : Option BudgetScope) :
    holdings (.startDrop permits refusal) = permitHoldings permits := by
  cases permits with
  | nil => rfl
  | cons permit rest => exact (permitHoldings_cons permit rest).symm

theorem holdings_begin (options : κ → AdmissionOptions) (call : Call κ) :
    holdings (begin options call) = 0 := holdings_startAcquire _ _

theorem refOf_mem_referenced : refOf arc ∈ referenced κ :=
  mem_referenced.mpr (Multiset.zero_le _)

theorem ownRef_mem_referenced (owned : Bool) : ownRef arc owned ∈ referenced κ := by
  cases owned with
  | true => exact refOf_mem_referenced arc
  | false => exact zero_mem _

theorem refOf_add_permitOf_mem_referenced :
    refOf arc + permitOf arc ∈ referenced κ := mem_referenced.mpr le_rfl

theorem permitHoldings_mem_referenced :
    permitHoldings permits ∈ referenced κ := mem_referenced.mpr le_rfl

theorem holdings_mem_referenced (task : Task κ) : holdings task ∈ referenced κ := by
  cases task with
  | acquiring phase slot rest permits =>
    refine add_mem (permitHoldings_mem_referenced permits) ?_
    cases phase with
    | lookup => exact zero_mem _
    | insert => exact zero_mem _
    | clone serial => exact refOf_mem_referenced _
    | attempt serial owned => exact add_mem (ownRef_mem_referenced _ owned) (refOf_mem_referenced _)
    | granted serial owned =>
      exact add_mem (ownRef_mem_referenced _ owned) (refOf_add_permitOf_mem_referenced _)
    | refused serial owned | leaving serial owned granted => exact ownRef_mem_referenced _ owned
  | holding permits => exact permitHoldings_mem_referenced permits
  | dropping stage permit rest refusal =>
    refine add_mem (permitHoldings_mem_referenced rest) ?_
    cases stage with
    | observe =>
      exact add_mem (refOf_add_permitOf_mem_referenced permit)
        (mem_referenced.mpr (Multiset.zero_le _))
    | permit => exact refOf_add_permitOf_mem_referenced permit
    | arc => exact refOf_mem_referenced permit
    | cleanup => exact zero_mem _
  | finished refusal => exact zero_mem _

theorem holdings_mem_counted {task : Task κ} (h : task.resting) : holdings task ∈ counted κ := by
  cases task with
  | acquiring phase slot rest permits => cases h
  | holding permits => exact mem_counted.mpr rfl
  | dropping stage permit rest refusal => cases h
  | finished refusal => exact zero_mem _

end

/-! ## How the shared state fits what is held -/

section

variable {κ : Type*} [DecidableEq κ] {options : κ → AdmissionOptions} {s : Shared κ}
  {held : Holdings κ} {arc : SemaphoreArc κ} {scope : BudgetScope}

/-- The shared state fits what the tasks hold: the pool fits, the semaphores were made with their
slot's limit, and the statistics count what the tasks take to be counted. -/
structure Fits (options : κ → AdmissionOptions) (s : Shared κ) (held : Holdings κ) : Prop where
  pool : Semaphores.Fits s.pool held.1 held.2.1
  capacity_eq : ∀ arc, s.pool.Mapped arc → s.pool.capacity arc = limit options arc.key
  current_eq : ∀ scope, s.stats.current scope = held.2.2.count scope

namespace Fits

theorem of_eq {held' : Holdings κ} (h : Fits options s held) (heq : held = held') :
    Fits options s held' := heq ▸ h

theorem retain (h : Fits options s held) (hmapped : s.pool.Mapped arc) :
    Fits options { s with pool := s.pool.retain arc } (held + refOf arc) where
  pool := by simpa [refOf] using h.pool.retain hmapped
  capacity_eq := h.capacity_eq
  current_eq := by simpa [refOf] using h.current_eq

theorem release (h : Fits options s (held + refOf arc)) :
    Fits options { s with pool := s.pool.release arc } held := by
  obtain ⟨hpool, hcapacity, hcurrent⟩ := h
  simp only [refOf, Prod.fst_add, Prod.snd_add, add_zero] at hpool hcurrent
  exact ⟨hpool.release, hcapacity, hcurrent⟩

theorem take (h : Fits options s held) (hpos : 0 < s.pool.available arc) :
    Fits options { s with pool := s.pool.take arc } (held + permitOf arc) where
  pool := by simpa [permitOf] using h.pool.take hpos
  capacity_eq := h.capacity_eq
  current_eq := by simpa [permitOf] using h.current_eq

theorem giveBack (h : Fits options s (held + permitOf arc)) :
    Fits options { s with pool := s.pool.giveBack arc } held := by
  obtain ⟨hpool, hcapacity, hcurrent⟩ := h
  simp only [permitOf, Prod.fst_add, Prod.snd_add, add_zero] at hpool hcurrent
  exact ⟨hpool.giveBack, hcapacity, hcurrent⟩

theorem insertNew (h : Fits options s held) (hheld : held ∈ referenced κ) {slot : Slot κ}
    (hentry : s.pool.entries slot = none) :
    Fits options { s with pool := s.pool.insertNew slot (limit options slot) }
      (held + refOf ⟨slot, s.pool.next slot⟩) where
  pool := by simpa [refOf] using h.pool.insertNew (mem_referenced.mp hheld) hentry _
  capacity_eq arc hmapped := by
    show Function.update s.pool.capacity ⟨slot, s.pool.next slot⟩ (limit options slot) arc = _
    rw [Function.update_apply]
    split
    · next heq => rw [heq]
    · next hne =>
      exact h.capacity_eq arc (((Pool.mapped_insertNew hentry _ arc).mp hmapped).resolve_left hne)
  current_eq := by simpa [refOf] using h.current_eq

theorem cleanup (h : Fits options s held) (slot : Slot κ) (limit : ℕ) :
    Fits options { s with pool := s.pool.cleanup slot limit } held where
  pool := h.pool.cleanup slot limit
  capacity_eq arc hmapped := by
    rcases s.pool.cleanup_cases slot limit with hsame | ⟨serial, hentry, -, hremove⟩
    · rw [hsame] at hmapped ⊢
      exact h.capacity_eq arc hmapped
    · rw [hremove] at hmapped ⊢
      exact h.capacity_eq arc ((Pool.mapped_remove hentry arc).mp hmapped).1
  current_eq := h.current_eq

theorem observeAcquire (h : Fits options s held) (scope : BudgetScope) :
    Fits options { s with stats := s.stats.observeAcquire scope } (held + countOf scope) where
  pool := by simpa [countOf] using h.pool
  capacity_eq := h.capacity_eq
  current_eq scope' := by
    show (s.stats.observeAcquire scope).current scope' = _
    simp [countOf, OverloadStats.current_observeAcquire, Multiset.count_singleton, h.current_eq]

theorem observeRelease (h : Fits options s (held + countOf scope)) :
    Fits options { s with stats := s.stats.observeRelease scope } held := by
  obtain ⟨hpool, hcapacity, hcurrent⟩ := h
  simp only [countOf, Prod.fst_add, Prod.snd_add, add_zero] at hpool hcurrent
  refine ⟨hpool, hcapacity, fun scope' => ?_⟩
  show (s.stats.observeRelease scope).current scope' = _
  rw [OverloadStats.current_observeRelease, hcurrent, Multiset.count_add,
    Multiset.count_singleton, Nat.add_sub_cancel]

theorem observeReject (h : Fits options s held) (scope : BudgetScope) :
    Fits options { s with stats := s.stats.observeReject scope } held where
  pool := h.pool
  capacity_eq := h.capacity_eq
  current_eq scope' := (OverloadStats.current_observeReject _ _ _).trans (h.current_eq scope')

end Fits

/-! ## Turns -/

theorem fits_stepAcquire {others : Holdings κ} {phase : Phase} {slot : Slot κ}
    {rest : List (Slot κ)} {permits : List (SemaphoreArc κ)} (hothers : others ∈ referenced κ)
    (h : Fits options s (others + holdings (.acquiring phase slot rest permits))) :
    Fits options (stepAcquire options s slot rest permits phase).1
      (others + holdings (stepAcquire options s slot rest permits phase).2) := by
  rw [holdings, ← add_assoc] at h
  cases phase with
  | lookup =>
    have hbase := h.of_eq (add_zero (others + permitHoldings permits))
    rw [stepAcquire]
    cases hentry : s.pool.entries slot with
    | some serial =>
      have hmapped : s.pool.Mapped ⟨slot, serial⟩ := hentry
      refine (hbase.retain hmapped).of_eq ?_
      cases hkeyed : slot.scope.keyed with
      | true => exact add_assoc _ _ _
      | false =>
        show _ = others + (permitHoldings permits + (0 + refOf _))
        rw [zero_add, add_assoc]
    | none =>
      cases hkeyed : slot.scope.keyed with
      | true => exact h.of_eq (add_assoc _ _ _)
      | false =>
        show Fits options s (others + holdings (.startAcquire rest permits))
        rw [holdings_startAcquire]
        exact hbase
  | insert =>
    have hbase := h.of_eq (add_zero (others + permitHoldings permits))
    rw [stepAcquire]
    cases hentry : s.pool.entries slot with
    | some serial =>
      have hmapped : s.pool.Mapped ⟨slot, serial⟩ := hentry
      exact (hbase.retain hmapped).of_eq (add_assoc _ _ _)
    | none =>
      have hheld := add_mem hothers (permitHoldings_mem_referenced permits)
      exact (hbase.insertNew hheld hentry).of_eq (add_assoc _ _ _)
  | clone serial =>
    refine (h.retain h.pool.mapped_of_ref).of_eq ?_
    rw [add_assoc, add_assoc]
    rfl
  | attempt serial owned =>
    rw [phaseHoldings, ← add_assoc] at h
    rw [stepAcquire]
    split
    · next hpos =>
      refine (h.take hpos).of_eq ?_
      rw [holdings, phaseHoldings]
      abel
    · exact h.release.of_eq (add_assoc _ _ _)
  | granted serial owned =>
    refine (h.observeAcquire slot.scope).of_eq ?_
    rw [stepAcquire, holdings, permitHoldings_concat, phaseHoldings, phaseHoldings, stageHoldings]
    abel
  | refused serial owned => exact (h.observeReject slot.scope).of_eq (add_assoc _ _ _)
  | leaving serial owned granted =>
    have hleft : Fits options
        (if owned then { s with pool := s.pool.release ⟨slot, serial⟩ } else s)
        (others + permitHoldings permits) := by
      cases owned with
      | true => exact h.release
      | false => exact h.of_eq (add_zero _)
    refine hleft.of_eq ?_
    cases granted with
    | true => exact congrArg (others + ·) (holdings_startAcquire rest permits).symm
    | false => exact congrArg (others + ·) (holdings_startDrop permits _).symm

theorem fits_stepDrop {others : Holdings κ} {stage : DropStage} {permit : SemaphoreArc κ}
    {rest : List (SemaphoreArc κ)} {refusal : Option BudgetScope}
    (h : Fits options s (others + holdings (.dropping stage permit rest refusal))) :
    Fits options (stepDrop options s permit rest refusal stage).1
      (others + holdings (stepDrop options s permit rest refusal stage).2) := by
  rw [holdings, ← add_assoc] at h
  cases stage with
  | observe =>
    rw [stageHoldings, ← add_assoc] at h
    exact h.observeRelease.of_eq (add_assoc _ _ _)
  | permit =>
    rw [stageHoldings, ← add_assoc] at h
    exact h.giveBack.of_eq (add_assoc _ _ _)
  | arc =>
    refine h.release.of_eq ?_
    rw [stepDrop]
    cases permit.key.scope.keyed with
    | true => exact congrArg (others + ·) (add_zero _).symm
    | false => exact congrArg (others + ·) (holdings_startDrop rest refusal).symm
  | cleanup =>
    refine (h.cleanup permit.key (limit options permit.key)).of_eq ?_
    rw [stepDrop, holdings_startDrop]
    exact add_zero _

theorem fits_step (s : Shared κ) (task : Task κ) (others : Holdings κ)
    (hothers : others ∈ referenced κ) (h : Fits options s (others + holdings task)) :
    Fits options (step options s task).1 (others + holdings (step options s task).2) := by
  cases task with
  | acquiring phase slot rest permits => exact fits_stepAcquire hothers h
  | holding permits =>
    exact h.of_eq (congrArg (others + ·) (holdings_startDrop permits none).symm)
  | dropping stage permit rest refusal => exact fits_stepDrop h
  | finished refusal => exact h

variable (options)

theorem fits_new : Fits options (new options).shared 0 where
  pool :=
    { strong_eq := fun _ => (Nat.zero_add _).symm
      mapped_of_mem := fun arc hmem => absurd hmem (Multiset.notMem_zero arc)
      lt_next := by
        intro arc hmapped
        have hentry : newEntries options arc.key = some arc.serial := hmapped
        rw [newEntries] at hentry
        split_ifs at hentry
        rw [← Option.some.inj hentry]
        exact Nat.zero_lt_one
      available_add := fun _ _ => Nat.add_zero _ }
  capacity_eq _ _ := rfl
  current_eq := OverloadStats.current_empty

variable (actions : List (Action (Call κ)))

def reached : Config (Shared κ) (Task κ) :=
  (new options).run (begin options) (step options) actions

theorem fits_reached :
    Fits options (reached options actions).shared
      (total holdings (reached options actions).tasks) :=
  run_invariant (holdings_begin options) holdings_mem_referenced fits_step
    (fits_new options) actions

variable {options}

/-! ## Operations end -/

/-- The turns a slot may take: its own, and the four that drop its permit. -/
def Phase.rank : Phase → ℕ
  | .lookup => 10
  | .insert => 9
  | .clone _ => 8
  | .attempt .. => 7
  | .granted .. => 6
  | .refused .. => 2
  | .leaving .. => 1

def DropStage.rank : DropStage → ℕ
  | .observe => 4
  | .permit => 3
  | .arc => 2
  | .cleanup => 1

def Task.rank : Task κ → ℕ
  | .acquiring phase _ rest permits => phase.rank + 10 * rest.length + 4 * permits.length
  | .dropping stage _ rest _ => stage.rank + 4 * rest.length
  | .holding _ | .finished _ => 0

omit [DecidableEq κ] in
theorem rank_startAcquire_le (rest : List (Slot κ)) (permits : List (SemaphoreArc κ)) :
    (Task.startAcquire rest permits).rank ≤ 10 * rest.length + 4 * permits.length := by
  cases rest with
  | nil => exact Nat.zero_le _
  | cons slot rest =>
    rw [Task.startAcquire, Task.rank, Phase.rank, List.length_cons]
    omega

omit [DecidableEq κ] in
theorem rank_startDrop_le (permits : List (SemaphoreArc κ)) (refusal : Option BudgetScope) :
    (Task.startDrop permits refusal).rank ≤ 4 * permits.length := by
  cases permits with
  | nil => exact Nat.zero_le _
  | cons permit rest =>
    rw [Task.startDrop, Task.rank, DropStage.rank, List.length_cons]
    omega

theorem rank_stepAcquire_lt (s : Shared κ) (phase : Phase) (slot : Slot κ) (rest : List (Slot κ))
    (permits : List (SemaphoreArc κ)) :
    (stepAcquire options s slot rest permits phase).2.rank
      < (Task.acquiring phase slot rest permits).rank := by
  have hacquire := rank_startAcquire_le rest permits
  rw [Task.rank]
  cases phase with
  | lookup =>
    rw [stepAcquire]
    cases s.pool.entries slot with
    | some serial =>
      show Phase.rank (if _ then _ else _) + _ + _ < _
      split <;> simp only [Phase.rank] <;> omega
    | none =>
      show (if slot.scope.keyed then _ else _ : Shared κ × Task κ).2.rank < _
      split
      · simp only [Task.rank, Phase.rank]
        omega
      · simp only [Phase.rank]
        omega
  | insert =>
    rw [stepAcquire]
    cases s.pool.entries slot <;> simp only [Task.rank, Phase.rank] <;> omega
  | clone serial =>
    simp only [stepAcquire, Task.rank, Phase.rank]
    omega
  | attempt serial owned =>
    rw [stepAcquire]
    split <;> simp only [Task.rank, Phase.rank] <;> omega
  | granted serial owned =>
    simp only [stepAcquire, Task.rank, Phase.rank, List.length_append, List.length_singleton]
    omega
  | refused serial owned =>
    simp only [stepAcquire, Task.rank, Phase.rank]
    omega
  | leaving serial owned granted =>
    have hdrop := rank_startDrop_le permits (some slot.scope)
    simp only [stepAcquire, Phase.rank]
    split <;> omega

theorem rank_stepDrop_lt (s : Shared κ) (stage : DropStage) (permit : SemaphoreArc κ)
    (rest : List (SemaphoreArc κ)) (refusal : Option BudgetScope) :
    (stepDrop options s permit rest refusal stage).2.rank
      < (Task.dropping stage permit rest refusal).rank := by
  have hdrop := rank_startDrop_le rest refusal
  rw [Task.rank]
  cases stage with
  | observe =>
    simp only [stepDrop, Task.rank, DropStage.rank]
    omega
  | permit =>
    simp only [stepDrop, Task.rank, DropStage.rank]
    omega
  | arc =>
    simp only [stepDrop, DropStage.rank]
    split
    · simp only [Task.rank, DropStage.rank]
      omega
    · omega
  | cleanup =>
    simp only [stepDrop, DropStage.rank]
    omega

theorem resting_or_rank_step_lt (s : Shared κ) (task : Task κ) :
    task.resting = true ∨ (step options s task).2.rank < task.rank := by
  cases task with
  | acquiring phase slot rest permits => exact .inr (rank_stepAcquire_lt s phase slot rest permits)
  | holding permits => exact .inl rfl
  | dropping stage permit rest refusal => exact .inr (rank_stepDrop_lt s stage permit rest refusal)
  | finished refusal => exact .inl rfl

/-! ## Limits, mapped semaphores, failed operations, statistics -/

/-- **No slot has more permits out than its limit**: they are all on one semaphore. -/
theorem Fits.count_slot_le (h : Fits options s held) (hheld : held ∈ referenced κ)
    (slot : Slot κ) : (held.1.map Arc.key).count slot ≤ limit options slot := by
  have hlive := mem_referenced.mp hheld
  cases hentry : s.pool.entries slot with
  | none =>
    rw [h.pool.count_key_of_unmapped hlive hentry]
    exact Nat.zero_le _
  | some serial =>
    have hmapped : s.pool.Mapped ⟨slot, serial⟩ := hentry
    have hadd := h.pool.available_add_count_key hlive hmapped
    rw [h.capacity_eq _ hmapped] at hadd
    exact (Nat.le_add_left _ _).trans_eq hadd

/-- After a run, a call that takes `n` turns while the others wait. -/
def calledAlone (options : κ → AdmissionOptions) (actions : List (Action (Call κ)))
    (call : Call κ) (n : ℕ) : Config (Shared κ) (Task κ) :=
  reached options
    (actions ++ .start call :: List.replicate n (.turn (reached options actions).tasks.length))

theorem exists_calledAlone_resting (options : κ → AdmissionOptions)
    (actions : List (Action (Call κ))) (call : Call κ) :
    ∃ n task, task.resting = true ∧
      (calledAlone options actions call n).tasks[(reached options actions).tasks.length]?
        = some task ∧
      ∀ scope, task = .finished (some scope) →
        livePermits (calledAlone options actions call n).tasks
          = livePermits (reached options actions).tasks := by
  have hrun (n : ℕ) : calledAlone options actions call n
      = ((reached options actions).act (begin options) (step options) (.start call)).run
          (begin options) (step options)
          (List.replicate n (.turn (reached options actions).tasks.length)) :=
    List.foldl_append.trans List.foldl_cons
  have hst : ((reached options actions).act (begin options) (step options)
      (.start call)).tasks[(reached options actions).tasks.length]? = some (begin options call) :=
    List.getElem?_concat_length
  obtain ⟨n, task, hrest, htask⟩ := @exists_turns_rest _ _ _ (begin options) (step options)
    (fun task => task.resting = true) Task.rank resting_or_rank_step_lt _ _ _ hst
  rw [← hrun n] at htask
  refine ⟨n, task, hrest, htask, ?_⟩
  rintro scope rfl
  -- the call holds nothing before and after, and the others did not move
  refine congrArg Prod.fst ?_
  calc total holdings (calledAlone options actions call n).tasks
      = total holdings ((calledAlone options actions call n).tasks.eraseIdx
          (reached options actions).tasks.length) := (total_eraseIdx htask rfl).symm
    _ = total holdings (((reached options actions).act (begin options) (step options)
          (.start call)).tasks.eraseIdx (reached options actions).tasks.length) := by
      rw [hrun n, eraseIdx_tasks_turns]
    _ = total holdings ((reached options actions).tasks ++ [begin options call]) :=
      total_eraseIdx hst (holdings_begin options call)
    _ = total holdings (reached options actions).tasks := by
      rw [total_append_singleton, holdings_begin, add_zero]

/-- **Admission control.** Controllers share the statistics, and calls and drops interleave in any
way. No scope has more permits out than its limit. A refused operation holds no permit; a call ends
after finitely many turns of its own, and if it was refused, the permits that are out are the ones
from before. When no operation is in flight, the statistics of a scope are the number of its
permits. -/
theorem admission_control (options : κ → AdmissionOptions) (actions : List (Action (Call κ))) :
    (∀ slot, ((livePermits (reached options actions).tasks).map Arc.key).count slot
        ≤ limit options slot) ∧
      (∀ permit ∈ livePermits (reached options actions).tasks,
        (reached options actions).shared.pool.entries permit.key = some permit.serial) ∧
      (∀ index scope, (reached options actions).tasks[index]? = some (.finished (some scope)) →
        livePermits ((reached options actions).tasks.eraseIdx index)
          = livePermits (reached options actions).tasks) ∧
      (∀ call, ∃ n task, task.resting = true ∧
        (calledAlone options actions call n).tasks[(reached options actions).tasks.length]?
          = some task ∧
        ∀ scope, task = .finished (some scope) →
          livePermits (calledAlone options actions call n).tasks
            = livePermits (reached options actions).tasks) ∧
      ((∀ task ∈ (reached options actions).tasks, task.resting = true) →
        ∀ scope, (reached options actions).shared.stats.current scope
          = ((livePermits (reached options actions).tasks).map
              fun permit => permit.key.scope).count scope) := by
  have hfits := fits_reached options actions
  have hheld := total_mem (referenced κ) fun task (_ : task ∈ (reached options actions).tasks) =>
    holdings_mem_referenced task
  refine ⟨hfits.count_slot_le hheld, fun permit =>
    hfits.pool.mapped_of_live (mem_referenced.mp hheld), ?_,
    exists_calledAlone_resting options actions, ?_⟩
  · intro index scope htask
    exact congrArg Prod.fst (total_eraseIdx htask rfl)
  · intro hrest scope
    have hcounted :=
      total_mem (counted κ) fun task htask => holdings_mem_counted (hrest task htask)
    rw [hfits.current_eq scope, mem_counted.mp hcounted, livePermits]

end

end Admission
end NantianGateway.Observability
