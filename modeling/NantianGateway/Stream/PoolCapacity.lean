import NantianGateway.Lib.Tasks

/-!
# How many connections are kept idle

`return_connection` compares with `max_idle_per_backend` and pushes in one section of the map.
`prewarm` reads the room that is left in one section, connects, and pushes in other sections
without comparing again.  By itself it stays within the room that it read, but **the room may be
gone when a connection is pushed**: the limit holds exactly if what other calls have stored since
leaves room for each of its connections.
-/

namespace NantianGateway.Stream

open List Tasks

/-- A call for one backend. -/
inductive IdleCall where
  | returning
  /-- The answers are the outcomes of the attempts to connect. -/
  | prewarming (count : ℕ) (connects : List Bool)

/-- How far a call has come; a prewarming call that has no answer left is still waiting for one. -/
inductive PoolTask where
  | returning
  | prewarming (count : ℕ) (connects : List Bool)
  | warming (left : ℕ) (connects : List Bool)
  | over
  deriving DecidableEq

def IdleCall.begin : IdleCall → PoolTask
  | .returning => .returning
  | .prewarming count connects => .prewarming count connects

/-- One section of the map, for a pool that keeps at most `m`; the shared state is the number of
connections that are stored. -/
def poolStep (m stored : ℕ) : PoolTask → ℕ × PoolTask
  | .returning => (if m = 0 ∨ m ≤ stored then stored else stored + 1, .over)
  | .prewarming count connects =>
    (stored, if m = 0 then .over else .warming (min count (m - stored)) connects)
  | .warming 0 _ => (stored, .over)
  | .warming (left + 1) [] => (stored, .warming (left + 1) [])
  | .warming (left + 1) (connected :: connects) =>
    (if connected then stored + 1 else stored, .warming left connects)
  | .over => (stored, .over)

def poolRun (m : ℕ) (actions : List (Action IdleCall)) : Config ℕ PoolTask :=
  (⟨0, []⟩ : Config ℕ PoolTask).run IdleCall.begin (poolStep m) actions

/-- What the call at `index` has stored, and what the others have, in the course of the actions
`since` that follow on `before`. -/
def storedSince (m index : ℕ) (before since : List (Action IdleCall)) :
    Config ℕ PoolTask × ℕ × ℕ :=
  since.foldl (fun out action =>
    let next := out.1.act IdleCall.begin (poolStep m) action
    match action with
    | .start _ => (next, out.2)
    | .turn turned =>
      if turned = index then (next, out.2.1 + (next.shared - out.1.shared), out.2.2)
      else (next, out.2.1, out.2.2 + (next.shared - out.1.shared))) (poolRun m before, 0, 0)

variable {m index : ℕ} {actions before since : List (Action IdleCall)}

theorem poolRun_concat (action : Action IdleCall) :
    poolRun m (actions ++ [action]) = (poolRun m actions).act IdleCall.begin (poolStep m) action :=
  foldl_concat _ _ _ _

/-- The next section of the task pushes a connection without comparing. -/
def PoolTask.pushes : PoolTask → Bool
  | .warming (_ + 1) (connected :: _) => connected
  | _ => false

theorem eq_warming_of_pushes {task : PoolTask} (h : task.pushes = true) :
    ∃ left connects, task = .warming (left + 1) connects := by
  cases task with
  | warming left connects =>
    cases left with
    | zero => cases h
    | succ left => exact ⟨left, connects, rfl⟩
  | _ => cases h

theorem poolStep_fst (stored : ℕ) (task : PoolTask) :
    (task.pushes = true → (poolStep m stored task).1 = stored + 1) ∧
      (task.pushes = false → stored ≤ m → (poolStep m stored task).1 ≤ m) ∧
      stored ≤ (poolStep m stored task).1 := by
  cases task with
  | returning =>
    rw [poolStep]
    refine ⟨nofun, fun _ hle => ?_, ?_⟩ <;> dsimp only <;> split <;> omega
  | warming left connects =>
    cases left with
    | zero => exact ⟨nofun, fun _ hle => hle, le_rfl⟩
    | succ left =>
      cases connects with
      | nil => exact ⟨nofun, fun _ hle => hle, le_rfl⟩
      | cons connected connects => cases connected <;> simp [poolStep, PoolTask.pushes]
  | _ => exact ⟨nofun, fun _ hle => hle, le_rfl⟩

/-- What is stored was stored before the actions, or in their course by the call or by another. -/
theorem storedSince_eq (m index : ℕ) (before since : List (Action IdleCall)) :
    (storedSince m index before since).1 = poolRun m (before ++ since) ∧
      (storedSince m index before since).1.shared = (poolRun m before).shared
        + ((storedSince m index before since).2.1 + (storedSince m index before since).2.2) := by
  induction since using List.reverseRecOn with
  | nil => exact ⟨by rw [append_nil, storedSince, foldl_nil], rfl⟩
  | append_singleton since action ih =>
    rw [← append_assoc, poolRun_concat, ← ih.1, storedSince, foldl_concat, ← storedSince]
    generalize storedSince m index before since = out at ih
    cases action with
    | start op => exact ⟨rfl, ih.2⟩
    | turn turned =>
      have hgrows : out.1.shared
          ≤ (out.1.act IdleCall.begin (poolStep m) (.turn turned)).shared := by
        rw [Config.act]
        split
        · exact le_rfl
        · exact (poolStep_fst _ _).2.2
      have hsum := ih.2
      dsimp only
      split
      · exact ⟨rfl, by dsimp only; omega⟩
      · exact ⟨rfl, by dsimp only; omega⟩

/-- The last action of `before` is the turn in which the call at `index` reads the room. -/
def Reads (m index : ℕ) (before : List (Action IdleCall)) : Prop :=
  ∃ earlier count connects, before = earlier ++ [.turn index] ∧
    (poolRun m earlier).tasks[index]? = some (.prewarming count connects)

/-- A call that pushes has read the room before. -/
theorem exists_reads {left : ℕ} {connects : List Bool}
    (h : (poolRun m actions).tasks[index]? = some (.warming left connects)) :
    ∃ before since, actions = before ++ since ∧ Reads m index before := by
  induction actions using List.reverseRecOn generalizing left connects with
  | nil => exact absurd h (by simp [poolRun, Config.run])
  | append_singleton actions action ih =>
    rw [poolRun_concat] at h
    cases htask : (poolRun m actions).tasks[index]? with
    | none =>
      obtain ⟨op, hop⟩ := exists_begin_of_act htask h
      cases op <;> cases hop
    | some task =>
      rw [getElem?_act htask] at h
      cases task with
      | warming left' connects' =>
        obtain ⟨before, since, rfl, hread⟩ := ih htask
        exact ⟨before, since ++ [action], append_assoc .., hread⟩
      | prewarming count answers =>
        cases action with
        | start op => cases h
        | turn turned =>
          dsimp only at h
          split at h
          next hturned =>
            subst hturned
            exact ⟨_, [], (append_nil _).symm, actions, count, answers, rfl, htask⟩
          next => cases h
      | _ =>
        cases action with
        | start op => cases h
        | turn turned =>
          dsimp only at h
          split at h <;> cases h

/-- What a call has stored since it read the room, and what it may still store, fit into that
room. -/
def PoolTask.Spends (room own : ℕ) : PoolTask → Prop
  | .warming left _ => own + left ≤ room
  | .over => True
  | _ => False

theorem PoolTask.Spends.step {room own : ℕ} {task : PoolTask} (h : task.Spends room own)
    (stored : ℕ) :
    (poolStep m stored task).2.Spends room (own + ((poolStep m stored task).1 - stored)) := by
  cases task with
  | warming left connects =>
    cases left with
    | zero => trivial
    | succ left =>
      cases connects with
      | nil => simpa [poolStep] using h
      | cons connected connects =>
        have hle : own + (left + 1) ≤ room := h
        cases connected <;> simp [poolStep, Spends] <;> omega
  | «over» => trivial
  | returning => cases h
  | prewarming count connects => cases h

theorem exists_spends (h : Reads m index before) (since : List (Action IdleCall)) :
    ∃ task, (storedSince m index before since).1.tasks[index]? = some task ∧
      task.Spends (m - (poolRun m before).shared) (storedSince m index before since).2.1 := by
  induction since using List.reverseRecOn with
  | nil =>
    obtain ⟨earlier, count, connects, rfl, hread⟩ := h
    rw [storedSince, foldl_nil, poolRun_concat]
    refine ⟨_, (getElem?_act hread).trans (congrArg some (if_pos rfl)), ?_⟩
    rw [Config.act, hread, poolStep]
    dsimp only
    split
    · trivial
    · exact (Nat.zero_add _).trans_le (min_le_right ..)
  | append_singleton since action ih =>
    obtain ⟨task, htask, hspends⟩ := ih
    rw [storedSince, foldl_concat, ← storedSince]
    generalize storedSince m index before since = out at htask hspends
    cases action with
    | start op => exact ⟨task, getElem?_act htask, hspends⟩
    | turn turned =>
      dsimp only
      split_ifs with hturned
      · refine ⟨_, (getElem?_act htask).trans (congrArg some (if_pos hturned)), ?_⟩
        rw [hturned, Config.act, htask]
        exact hspends.step _
      · exact ⟨task, (getElem?_act htask).trans (congrArg some (if_neg hturned)), hspends⟩

/-- In the course of the actions the call at `index` reads the room at the end of `before`, and
pushes a connection after `since`. -/
structure Pushes (m : ℕ) (actions : List (Action IdleCall)) (index : ℕ)
    (before since : List (Action IdleCall)) : Prop where
  within : before ++ since ++ [.turn index] <+: actions
  reads : Reads m index before
  pushes : ∃ task, (poolRun m (before ++ since)).tasks[index]? = some task ∧ task.pushes = true

/-- **A prewarming call by itself stays within the room it read, and the pool within its limit
exactly if the others leave that room**: whenever a call pushes a connection, what the others have
stored since is less than what is left of the room. -/
theorem pool_capacity_iff (m : ℕ) (actions : List (Action IdleCall)) :
    (∀ index before since, Pushes m actions index before since →
      (storedSince m index before since).2.1 < m - (poolRun m before).shared) ∧
    ((∀ past, past <+: actions → (poolRun m past).shared ≤ m) ↔
      ∀ index before since, Pushes m actions index before since →
        (storedSince m index before since).2.2
          < m - (poolRun m before).shared - (storedSince m index before since).2.1) := by
  refine ⟨fun index before since hpush => ?_, fun h index before since hpush => ?_,
    fun h past hwithin => ?_⟩
  · obtain ⟨task, htask, hpushes⟩ := hpush.pushes
    obtain ⟨task', htask', hspends⟩ := exists_spends hpush.reads since
    rw [(storedSince_eq m index before since).1, htask] at htask'
    obtain rfl := Option.some.inj htask'
    obtain ⟨left, connects, rfl⟩ := eq_warming_of_pushes hpushes
    have hle : _ + (left + 1) ≤ _ := hspends
    omega
  · obtain ⟨task, htask, hpushes⟩ := hpush.pushes
    have hle := h _ hpush.within
    obtain ⟨hrun, hstored⟩ := storedSince_eq m index before since
    rw [poolRun_concat, Config.act, htask] at hle
    rw [hrun] at hstored
    have hnext := (poolStep_fst (m := m) (poolRun m (before ++ since)).shared task).1 hpushes
    dsimp only at hle
    omega
  · induction past using List.reverseRecOn with
    | nil => exact Nat.zero_le m
    | append_singleton past action ih =>
      have hpast := ih ((prefix_append past [action]).trans hwithin)
      rw [poolRun_concat]
      cases action with
      | start task => exact hpast
      | turn index =>
        rw [Config.act]
        cases htask : (poolRun m past).tasks[index]? with
        | none => exact hpast
        | some task =>
          cases hpushes : task.pushes with
          | false => exact (poolStep_fst _ task).2.1 hpushes hpast
          | true =>
            -- the call is warming, so there is a moment at which it read the room
            obtain ⟨left, connects, rfl⟩ := eq_warming_of_pushes hpushes
            obtain ⟨before, since, rfl, hread⟩ := exists_reads htask
            have hroom := h index before since ⟨hwithin, hread, _, htask, hpushes⟩
            obtain ⟨hrun, hstored⟩ := storedSince_eq m index before since
            rw [hrun] at hstored
            have hnext := (poolStep_fst (m := m) (poolRun m (before ++ since)).shared _).1 hpushes
            dsimp only
            omega

/-- Two prewarming calls read the room for one connection before either has connected. -/
theorem prewarm_exceeds_capacity :
    (poolRun 1 [.start (.prewarming 1 [true]), .start (.prewarming 1 [true]), .turn 0, .turn 1,
      .turn 0, .turn 1]).shared = 2 := by
  decide

end NantianGateway.Stream
