import Mathlib.Algebra.Group.Submonoid.BigOperators

/-!
# Tasks that share a state

Tasks take turns on a shared state, in any order.  An invariant relates the shared state and what
the tasks *hold* between them --- locks, references, permits.  Holdings add up, so the rule asks for
one thing: whatever the others hold, a step keeps the fit (`run_invariant`).
-/

namespace NantianGateway.Tasks

open List

variable {σ τ ω M : Type*}

structure Config (σ τ : Type*) where
  shared : σ
  tasks : List τ

/-- Either a new task starts, or a task takes a turn. -/
inductive Action (ω : Type*) where
  | start (op : ω)
  | turn (index : ℕ)

section

variable (begin : ω → τ) (step : σ → τ → σ × τ)

def Config.act (config : Config σ τ) : Action ω → Config σ τ
  | .start op => { config with tasks := config.tasks ++ [begin op] }
  | .turn index =>
    match config.tasks[index]? with
    | none => config
    | some task =>
      ⟨(step config.shared task).1, config.tasks.set index (step config.shared task).2⟩

def Config.run (config : Config σ τ) (actions : List (Action ω)) : Config σ τ :=
  actions.foldl (Config.act begin step) config

variable {begin step} {config : Config σ τ} {action : Action ω} {index : ℕ} {task : τ}

/-- A task changes in its own turns only. -/
theorem getElem?_act (h : config.tasks[index]? = some task) :
    (config.act begin step action).tasks[index]? = some (match action with
      | .start _ => task
      | .turn turned => if turned = index then (step config.shared task).2 else task) := by
  have hlt := (List.getElem?_eq_some_iff.mp h).1
  cases action with
  | start op => exact (getElem?_append_left hlt).trans h
  | turn turned =>
    dsimp only
    split_ifs with hturned
    · rw [hturned, Config.act, h]
      exact List.getElem?_set_self hlt
    · rw [Config.act]
      split
      · exact h
      · exact (getElem?_set_ne hturned).trans h

theorem exists_begin_of_act (hnone : config.tasks[index]? = none)
    (h : (config.act begin step action).tasks[index]? = some task) : ∃ op, task = begin op := by
  cases action with
  | start op =>
    rw [Config.act, getElem?_append_right (getElem?_eq_none_iff.mp hnone)] at h
    exact ⟨op, mem_singleton.mp (mem_of_getElem? h)⟩
  | turn turned =>
    rw [Config.act] at h
    split at h
    · cases hnone.symm.trans h
    · rw [getElem?_eq_none (by simpa using hnone)] at h
      cases h

end

def total [AddMonoid M] (held : τ → M) (tasks : List τ) : M := (tasks.map held).sum

section

variable [AddCommMonoid M] {held : τ → M} {tasks : List τ} {index : ℕ} {task : τ}

theorem total_append_singleton (task : τ) :
    total held (tasks ++ [task]) = total held tasks + held task := by
  rw [total, map_append, sum_append, map_singleton, sum_singleton, total]

theorem total_eq_eraseIdx_add (h : tasks[index]? = some task) :
    total held tasks = total held (tasks.eraseIdx index) + held task := by
  induction tasks generalizing index with
  | nil => cases h
  | cons first tasks ih =>
    cases index with
    | zero =>
      obtain rfl := Option.some.inj h
      rw [total, total, map_cons, sum_cons, eraseIdx_cons_zero, add_comm]
    | succ index =>
      have hrest := @ih index h
      rw [total, map_cons, sum_cons, ← total, hrest, total, total,
        eraseIdx_cons_succ, map_cons, sum_cons, add_assoc]

theorem total_set (h : tasks[index]? = some task) (task' : τ) :
    total held (tasks.set index task') = total held (tasks.eraseIdx index) + held task' := by
  have hlen := (List.getElem?_eq_some_iff.mp h).1
  have hset : (tasks.set index task')[index]? = some task' := List.getElem?_set_self hlen
  rw [total_eq_eraseIdx_add hset, eraseIdx_set_eq]

theorem total_modify {f : τ → τ} (h : tasks[index]? = some task) :
    total held (tasks.modify index f) + held task = total held tasks + held (f task) := by
  have hset : tasks.modify index f = tasks.set index (f task) := by
    rw [modify_eq_set_getElem?, h]
    rfl
  rw [hset, total_set h, total_eq_eraseIdx_add h, add_right_comm]

theorem total_mem (P : AddSubmonoid M) (hP : ∀ task ∈ tasks, held task ∈ P) :
    total held tasks ∈ P := by
  refine list_sum_mem fun m hm => ?_
  obtain ⟨task, htask, rfl⟩ := mem_map.mp hm
  exact hP task htask

theorem total_eraseIdx (h : tasks[index]? = some task) (hzero : held task = 0) :
    total held (tasks.eraseIdx index) = total held tasks := by
  rw [total_eq_eraseIdx_add h, hzero, add_zero]

end

section

variable [AddCommMonoid M] {begin : ω → τ} {step : σ → τ → σ × τ} {held : τ → M}
  {P : AddSubmonoid M} {Inv : σ → M → Prop}

/-- **The rule for interleavings.**  New tasks hold nothing, and a step keeps the invariant
whatever the others hold. -/
theorem run_invariant (hbegin : ∀ op, held (begin op) = 0) (hP : ∀ task, held task ∈ P)
    (hstep : ∀ shared task, ∀ others ∈ P, Inv shared (others + held task) →
      Inv (step shared task).1 (others + held (step shared task).2))
    {config : Config σ τ} (h : Inv config.shared (total held config.tasks))
    (actions : List (Action ω)) :
    Inv (config.run begin step actions).shared
      (total held (config.run begin step actions).tasks) := by
  induction actions generalizing config with
  | nil => exact h
  | cons action actions ih =>
    refine ih ?_
    cases action with
    | start op =>
      show Inv config.shared (total held (config.tasks ++ [begin op]))
      rw [total_append_singleton, hbegin, add_zero]
      exact h
    | turn index =>
      rw [Config.act]
      cases htask : config.tasks[index]? with
      | none => exact h
      | some task =>
        rw [total_eq_eraseIdx_add htask] at h
        show Inv (step config.shared task).1
          (total held (config.tasks.set index (step config.shared task).2))
        rw [total_set htask]
        exact hstep _ _ _ (total_mem P fun task _ => hP task) h

theorem eraseIdx_tasks_turns (config : Config σ τ) (index n : ℕ) :
    (config.run begin step (List.replicate n (.turn index : Action ω))).tasks.eraseIdx index
      = config.tasks.eraseIdx index := by
  induction n generalizing config with
  | zero => rfl
  | succ n ih =>
    rw [replicate_succ]
    refine (ih _).trans ?_
    rw [Config.act]
    cases config.tasks[index]? with
    | none => rfl
    | some task => exact eraseIdx_set_eq

/-- **A task that comes closer to its rest with every turn rests after some turns of its own.** -/
theorem exists_turns_rest {rest : τ → Prop} (rank : τ → ℕ)
    (hrank : ∀ shared task, rest task ∨ rank (step shared task).2 < rank task)
    {config : Config σ τ} {index : ℕ} {task : τ} (h : config.tasks[index]? = some task) :
    ∃ n task', rest task' ∧
      (config.run begin step (List.replicate n (.turn index : Action ω))).tasks[index]?
        = some task' := by
  induction hr : rank task using Nat.strong_induction_on generalizing config task with
  | _ r ih =>
    rcases hrank config.shared task with hrest | hlt
    · exact ⟨0, task, hrest, h⟩
    · have hturn : (config.act begin step (.turn index : Action ω)).tasks[index]?
          = some (step config.shared task).2 :=
        (getElem?_act h).trans (congrArg some (if_pos rfl))
      obtain ⟨n, task', hrest, htask'⟩ := ih _ (hr ▸ hlt) hturn rfl
      exact ⟨n + 1, task', hrest, htask'⟩

end

end NantianGateway.Tasks
