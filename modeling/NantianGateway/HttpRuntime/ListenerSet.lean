import NantianGateway.HttpRuntime.ListenerPlan
import NantianGateway.Lib.Reconcile
import NantianGateway.Xds.Stream

/-!
# The servers of the HTTP runtime

`ListenerSet`: one server for each planned address, in a thread of its own.  `replace` starts and
stops servers.  **A start can fail, and that is reported; the bind happens later, in the thread, and
whether it succeeds is not looked at.**
-/

namespace NantianGateway.HttpRuntime

open List BTreeMap

variable {M : Type}

/-! ## Updates -/

/-- The listeners of a plan by address; of two with one address the last one stays. -/
def desiredByBind (plan : Option (ListenerPlan M)) : BTreeMap (PlannedListener M) :=
  ((plan.map ListenerPlan.listeners).getD []).foldl
    (fun desired listener => desired.insert listener.bind listener) .empty

section

variable [DecidableEq M]

/-- One server: keep it, restart it or stop it.  The map holds the planned listeners that no server
has been compared with. -/
def updateStep (finished : List String) (forceReload : Bool)
    (acc : BTreeMap (PlannedListener M) × Reconcile.Plan (PlannedListener M))
    (active : String × PlannedListener M) :
    BTreeMap (PlannedListener M) × Reconcile.Plan (PlannedListener M) :=
  let desired := acc.1.get active.1
  let rest := acc.1.erase active.1
  if forceReload && !decide (active.1 ∈ finished) then
    match desired with
    | some next => (rest, ⟨acc.2.start ++ [next], acc.2.stop ++ [active.1]⟩)
    | none => (rest, { acc.2 with stop := acc.2.stop ++ [active.1] })
  else
    match desired with
    | some next =>
      if active.1 ∉ finished ∧ active.2.protocol = next.protocol then (rest, acc.2)
      else (rest, ⟨acc.2.start ++ [next], acc.2.stop ++ [active.1]⟩)
    | none => (rest, { acc.2 with stop := acc.2.stop ++ [active.1] })

def listenerUpdatesWithForceReload (active : BTreeMap (PlannedListener M))
    (desired : Option (ListenerPlan M)) (finished : List String) (forceReload : Bool) :
    Reconcile.Plan (PlannedListener M) :=
  let (rest, updates) := active.entries.foldl (updateStep finished forceReload)
    (desiredByBind desired, {})
  { updates with start := updates.start ++ rest.values }

/-- A server stays for a planned listener: nothing forces a reload, its thread has not ended, and
the protocol is the same. -/
def keeps (finished : List String) (forceReload : Bool) (bind : String)
    (active next : PlannedListener M) : Bool :=
  !forceReload && !decide (bind ∈ finished) && decide (active.protocol = next.protocol)

theorem updateStep_eq (finished : List String) (forceReload : Bool) :
    updateStep (M := M) finished forceReload = Reconcile.step (keeps finished forceReload) := by
  funext acc active
  rw [updateStep, Reconcile.step]
  cases hget : acc.1.get active.1 with
  | none => simp
  | some next =>
    cases forceReload <;> by_cases hfinished : active.1 ∈ finished <;>
      by_cases hprotocol : active.2.protocol = next.protocol <;>
      simp [keeps, hfinished, hprotocol]

theorem listenerUpdatesWithForceReload_eq (active : BTreeMap (PlannedListener M))
    (desired : Option (ListenerPlan M)) (finished : List String) (forceReload : Bool) :
    listenerUpdatesWithForceReload active desired finished forceReload
      = Reconcile.plan (keeps finished forceReload) active (desiredByBind desired) := by
  rw [listenerUpdatesWithForceReload, Reconcile.plan, updateStep_eq]

end

/-! ## Replacing the servers -/

/-- A server: what it was started for, the thread it has, and whether it listens.  The thread may
have ended. -/
structure ActiveServer (M : Type) where
  listener : PlannedListener M
  runtime : RuntimeOptions
  thread : ℕ
  listening : Bool := true
  finished : Bool := false

def ActiveServer.running (server : ActiveServer M) : Bool := server.listening && !server.finished

structure ListenerReplaceResult where
  retryStart : Bool := false
  firstError : Option String := none
  firstFailedListener : Option String := none
  failures : List Xds.RuntimeListenerFailure := []
  startedListeners : List String := []
  retainedListeners : List String := []

/-- What a replacement has done so far; `threads` have been spawned in all. -/
structure Replacing (M : Type) where
  tasks : BTreeMap (ActiveServer M)
  threads : ℕ
  result : ListenerReplaceResult := {}
  startedBinds : List String := []

variable (tasks : BTreeMap (ActiveServer M))

def activePlan : BTreeMap (PlannedListener M) :=
  tasks.map ActiveServer.listener

def activeNames : List String :=
  tasks.values.map fun server => server.listener.name

def finishedTasks : List String :=
  (tasks.entries.filter fun task => task.2.finished).map Prod.fst

section

variable (runtime : RuntimeOptions) (starts : String → Except String Bool)

def startListener (acc : Replacing M) (listener : PlannedListener M) : Replacing M :=
  match starts listener.bind with
  | .ok listening =>
    { tasks := acc.tasks.insert listener.bind
        { listener, runtime, thread := acc.threads, listening }
      threads := acc.threads + 1
      result :=
        { acc.result with startedListeners := acc.result.startedListeners ++ [listener.name] }
      startedBinds := acc.startedBinds ++ [listener.bind] }
  | .error message =>
    { acc with
      result :=
        { acc.result with
          retryStart := true
          failures := acc.result.failures ++ [⟨listener.name, message⟩]
          firstError := some (acc.result.firstError.getD message)
          firstFailedListener :=
            if acc.result.firstError.isNone then some listener.name
            else acc.result.firstFailedListener } }

/-- What is stopped and started, once something is. -/
def applyUpdates (tasks : BTreeMap (ActiveServer M)) (threads : ℕ)
    (updates : Reconcile.Plan (PlannedListener M)) : Replacing M :=
  let startBeforeStop := updates.start.filter fun listener => listener.bind ∉ updates.stop
  let restartAfterStop := updates.start.filter fun listener => listener.bind ∈ updates.stop
  let preflight := startBeforeStop.foldl (startListener runtime starts) ⟨tasks, threads, {}, []⟩
  if preflight.result.firstError.isSome then
    let tasks := preflight.startedBinds.foldl BTreeMap.erase preflight.tasks
    { preflight with
      tasks
      result :=
        { preflight.result with startedListeners := [], retainedListeners := activeNames tasks } }
  else
    let out := restartAfterStop.foldl (startListener runtime starts)
      { preflight with tasks := updates.stop.foldl BTreeMap.erase preflight.tasks }
    { out with
      result :=
        { out.result with
          retainedListeners :=
            (activeNames out.tasks).filter fun name => name ∉ out.result.startedListeners } }

def replace [DecidableEq M] (tasks : BTreeMap (ActiveServer M)) (threads : ℕ)
    (plan : Option (ListenerPlan M)) (forceReload : Bool) : Replacing M :=
  let updates := listenerUpdatesWithForceReload (activePlan tasks) plan (finishedTasks tasks)
    forceReload
  if updates.start.isEmpty && updates.stop.isEmpty then
    ⟨tasks, threads, { retainedListeners := activeNames tasks }, []⟩
  else applyUpdates runtime starts tasks threads updates

end

/-! ## What is planned and what is kept -/

theorem get_desiredByBind {plan : Option (ListenerPlan M)} {bind : String}
    {listener : PlannedListener M} (h : (desiredByBind plan).get bind = some listener) :
    listener.bind = bind ∧ listener ∈ (plan.map ListenerPlan.listeners).getD [] := by
  rw [desiredByBind] at h
  generalize (plan.map ListenerPlan.listeners).getD [] = listeners at h ⊢
  induction listeners using List.reverseRecOn with
  | nil => cases h
  | append_singleton listeners last ih =>
    rw [foldl_append, foldl_cons, foldl_nil, get_insert] at h
    split at h
    · next heq =>
      obtain rfl := Option.some.inj h
      exact ⟨heq.symm, mem_append_right _ (mem_singleton_self _)⟩
    · obtain ⟨hbind, hmem⟩ := ih h
      exact ⟨hbind, mem_append_left _ hmem⟩

theorem isSome_desiredByBind_iff {plan : Option (ListenerPlan M)} {bind : String} :
    ((desiredByBind plan).get bind).isSome = true ↔
      ∃ listener ∈ (plan.map ListenerPlan.listeners).getD [], listener.bind = bind := by
  rw [desiredByBind]
  generalize (plan.map ListenerPlan.listeners).getD [] = listeners
  induction listeners using List.reverseRecOn with
  | nil => simp [BTreeMap.get, BTreeMap.empty]
  | append_singleton listeners last ih =>
    rw [foldl_append, foldl_cons, foldl_nil, get_insert]
    simp only [mem_append, mem_singleton, or_and_right, exists_or, exists_eq_left, ← ih]
    by_cases heq : bind = last.bind
    · simp [heq]
    · simp [heq, Ne.symm heq]

theorem mem_finishedTasks_iff {tasks : BTreeMap (ActiveServer M)} {bind : String} :
    bind ∈ finishedTasks tasks ↔
      ∃ server, tasks.get bind = some server ∧ server.finished = true := by
  simp only [finishedTasks, mem_map, mem_filter, Prod.exists, exists_and_right,
    exists_eq_right, get_eq_some_iff]

/-- **The server under an address stays for a planned listener.** -/
def Kept (tasks : BTreeMap (ActiveServer M)) (forceReload : Bool) (bind : String)
    (next : PlannedListener M) : Prop :=
  forceReload = false ∧ ∃ server, tasks.get bind = some server ∧ server.finished = false ∧
    server.listener.protocol = next.protocol

theorem reconcile_kept_iff [DecidableEq M] {tasks : BTreeMap (ActiveServer M)} {forceReload : Bool}
    {bind : String} {next : PlannedListener M} :
    Reconcile.Kept (keeps (finishedTasks tasks) forceReload) (activePlan tasks) bind next ↔
      Kept tasks forceReload bind next := by
  have hfinished : ∀ server, tasks.get bind = some server →
      (bind ∉ finishedTasks tasks ↔ server.finished = false) := by
    intro server hserver
    rw [mem_finishedTasks_iff, hserver]
    simp
  simp only [Reconcile.Kept, Kept, keeps, activePlan, get_map, Option.map_eq_some_iff,
    Bool.and_eq_true, Bool.not_eq_true', decide_eq_false_iff_not, decide_eq_true_eq]
  constructor
  · rintro ⟨listener, ⟨server, hserver, rfl⟩, ⟨hforce, hrunning⟩, hprotocol⟩
    exact ⟨hforce, server, hserver, (hfinished server hserver).mp hrunning, hprotocol⟩
  · rintro ⟨hforce, server, hserver, hrunning, hprotocol⟩
    exact ⟨server.listener, ⟨server, hserver, rfl⟩,
      ⟨hforce, (hfinished server hserver).mpr hrunning⟩, hprotocol⟩

/-! ## What runs after a replacement -/

section

variable {runtime : RuntimeOptions} {starts : String → Except String Bool}

/-- A server as a start leaves it. -/
structure StartedFor (runtime : RuntimeOptions) (starts : String → Except String Bool)
    (listener : PlannedListener M) (server : ActiveServer M) : Prop where
  listener_eq : server.listener = listener
  runtime_eq : server.runtime = runtime
  finished_eq : server.finished = false
  start_eq : starts listener.bind = .ok server.listening

/-- A first error is kept exactly if there is a failure. -/
def ListenerReplaceResult.Told (result : ListenerReplaceResult) : Prop :=
  result.firstError = none ↔ result.failures = []

theorem told_startListener {acc : Replacing M} (h : acc.result.Told)
    (listener : PlannedListener M) : (startListener runtime starts acc listener).result.Told := by
  rw [startListener]
  cases starts listener.bind with
  | ok listening => exact h
  | error message => simp [ListenerReplaceResult.Told]

theorem told_foldl_startListener (start : List (PlannedListener M)) {acc : Replacing M}
    (h : acc.result.Told) : (start.foldl (startListener runtime starts) acc).result.Told := by
  induction start generalizing acc with
  | nil => exact h
  | cons listener start ih => exact ih (told_startListener h listener)

theorem startListener_of_no_failures {acc : Replacing M} {listener : PlannedListener M}
    (h : (startListener runtime starts acc listener).result.failures = []) :
    acc.result.failures = [] ∧ ∃ server, StartedFor runtime starts listener server ∧
      (startListener runtime starts acc listener).tasks
        = acc.tasks.insert listener.bind server := by
  rw [startListener] at h ⊢
  cases hst : starts listener.bind with
  | ok listening =>
    rw [hst] at h
    exact ⟨h, { listener, runtime, thread := acc.threads, listening }, ⟨rfl, rfl, rfl, hst⟩, rfl⟩
  | error message =>
    rw [hst] at h
    exact absurd h (by simp)

theorem placed_foldl_startListener {start : List (PlannedListener M)} {acc : Replacing M}
    (h : (start.foldl (startListener runtime starts) acc).result.failures = []) :
    acc.result.failures = [] ∧ ∀ bind, Reconcile.Placed PlannedListener.bind
      (StartedFor runtime starts) start bind (acc.tasks.get bind)
      ((start.foldl (startListener runtime starts) acc).tasks.get bind) :=
  @Reconcile.placed_foldl _ _ _ _ _ _ Replacing.tasks (fun acc => acc.result.failures = []) start
    (fun _ _ _ hnone => startListener_of_no_failures hnone) acc h

variable {tasks : BTreeMap (ActiveServer M)} {plan : Option (ListenerPlan M)} {forceReload : Bool}
  {updates : Reconcile.Plan (PlannedListener M)} {threads : ℕ}

/-- **Stopping and starting without a failure**: an address has a new server if one was to be
started there, and otherwise keeps what it has. -/
theorem placed_applyUpdates
    (hnone : (applyUpdates runtime starts tasks threads updates).result.failures = [])
    (bind : String) :
    Reconcile.Placed PlannedListener.bind (StartedFor runtime starts) updates.start bind
      (if bind ∈ updates.stop then none else tasks.get bind)
      ((applyUpdates runtime starts tasks threads updates).tasks.get bind) := by
  rw [applyUpdates] at hnone ⊢
  have htold := @told_foldl_startListener M runtime starts
    (updates.start.filter fun listener => listener.bind ∉ updates.stop) ⟨tasks, threads, {}, []⟩
    ⟨fun _ => rfl, fun _ => rfl⟩
  generalize hpreflight : (updates.start.filter fun listener => listener.bind ∉ updates.stop).foldl
    (startListener runtime starts) ⟨tasks, threads, {}, []⟩ = preflight at hnone htold ⊢
  simp only at hnone ⊢
  split at hnone
  · next herror =>
    rw [htold.mpr hnone] at herror
    cases herror
  · next herror =>
    rw [if_neg herror]
    obtain ⟨hpre, hafter⟩ := placed_foldl_startListener hnone
    rw [← hpreflight] at hpre
    obtain ⟨-, hbefore⟩ := placed_foldl_startListener hpre
    rw [hpreflight] at hbefore
    simp only [Reconcile.Placed, get_foldl_erase, mem_filter, decide_eq_true_eq] at hafter hbefore
    rcases hafter bind with ⟨listener, hmem, hstar⟩ | ⟨hother, hget⟩
    · exact .inl ⟨listener, hmem.1, hstar⟩
    · by_cases hstop : bind ∈ updates.stop
      · -- the address was released, and nothing is restarted there
        rw [if_pos hstop] at hget ⊢
        refine .inr ⟨fun listener hmem hbind => ?_, hget⟩
        exact hother listener ⟨hmem, by rwa [hbind]⟩ hbind
      · rw [if_neg hstop] at hget ⊢
        rw [hget]
        rcases hbefore bind with ⟨listener, hmem, hstar⟩ | ⟨hother', hget'⟩
        · exact .inl ⟨listener, hmem.1, hstar⟩
        · refine .inr ⟨fun listener hmem hbind => ?_, hget'⟩
          exact hother' listener ⟨hmem, by rwa [hbind]⟩ hbind

/-- **What runs after a replacement that reports no failure**: what was kept, and a new server for
every other planned listener. -/
theorem settled_of_no_failures [DecidableEq M]
    (h : (replace runtime starts tasks threads plan forceReload).result.failures = []) :
    Reconcile.Settled (keeps (finishedTasks tasks) forceReload) (StartedFor runtime starts)
      (activePlan tasks) (desiredByBind plan) tasks
      (replace runtime starts tasks threads plan forceReload).tasks := by
  refine Reconcile.settled_of_placed (fun bind next hget => (get_desiredByBind hget).1)
    (fun bind hnone => ?_) fun bind => ?_
  · rwa [activePlan, get_map, Option.map_eq_none_iff] at hnone
  · rw [← listenerUpdatesWithForceReload_eq]
    rw [replace] at h ⊢
    generalize listenerUpdatesWithForceReload (activePlan tasks) plan (finishedTasks tasks)
      forceReload = updates at h ⊢
    split at h
    · next hidle =>
      rw [if_pos hidle]
      rw [Bool.and_eq_true, List.isEmpty_iff, List.isEmpty_iff] at hidle
      rw [hidle.1, hidle.2]
      exact .inr ⟨fun _ hmem => absurd hmem not_mem_nil, (if_neg not_mem_nil).symm⟩
    · next hidle =>
      rw [if_neg hidle]
      exact placed_applyUpdates h bind

/-- **A plan is carried out once**: on what a replacement without a failure leaves, the same plan
starts and stops nothing, even if every start would now fail. -/
theorem replace_same_plan [DecidableEq M] {out : Replacing M}
    (hout : replace runtime starts tasks threads plan forceReload = out)
    (h : out.result.failures = [])
    (runtime' : RuntimeOptions) (starts' : String → Except String Bool) :
    replace runtime' starts' out.tasks out.threads plan false
      = ⟨out.tasks, out.threads, { retainedListeners := activeNames out.tasks }, []⟩ := by
  subst hout
  have hsettled := settled_of_no_failures h
  have hnil := @Reconcile.plan_eq_nil _ _ (keeps (finishedTasks _) false) (activePlan _) _
    (fun bind hnone => by rw [activePlan, get_map, hsettled.undesired bind hnone]; rfl)
    fun bind next hget => reconcile_kept_iff.mpr ?_
  · rw [replace, listenerUpdatesWithForceReload_eq, hnil.1, hnil.2]
    rfl
  · by_cases hkept : Reconcile.Kept (keeps (finishedTasks tasks) forceReload) (activePlan tasks)
      bind next
    · obtain ⟨-, server, hthere, hserver⟩ := reconcile_kept_iff.mp hkept
      exact ⟨rfl, server, (hsettled.kept bind next hget hkept).trans hthere, hserver⟩
    · obtain ⟨server, hthere, hnew⟩ := hsettled.started bind next hget hkept
      exact ⟨rfl, server, hthere, hnew.finished_eq, congrArg _ hnew.listener_eq⟩

theorem replace_same_plan_one :
    let plan := some ⟨[(⟨"web", "0.0.0.0:80", .plain⟩ : PlannedListener Unit)]⟩
    let out := replace {} (fun _ => .ok true) .empty 0 plan true
    out.tasks.values.length = 1 ∧
      (replace {} (fun _ => .error "") out.tasks out.threads plan false).tasks = out.tasks := by
  refine ⟨by decide +kernel, ?_⟩
  rw [replace_same_plan rfl (by decide +kernel)]

end

end NantianGateway.HttpRuntime
