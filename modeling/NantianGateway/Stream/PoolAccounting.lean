import NantianGateway.Lib.Machines
import NantianGateway.Lib.Tasks

/-!
# What the counters of the pool say

Every section of the map and every atomic update is a step, and any number of calls interleave.  The
counters are kept as integers; what is read is the residue modulo `2 ^ 64`.  A connection that is
dropped stays counted as active, one that was handed out while the pool was disabled never was, a
`drain` clears the map and the counter in different steps, and only a call that connects records the
peak.  So whether the counters are right is a matter of the calls and their order: what the drains
found when they set the counter to zero (`idleError`), which connections were counted and what
became of them (`inHand`), and which values the calls recorded (`Recorded`).
-/

namespace NantianGateway.Stream

open List Tasks

variable {κ : Type} [DecidableEq κ]

/-- The map holds the key of every idle connection. -/
structure PoolLedger (κ : Type) where
  stored : List κ := []
  maxIdle : ℕ := 0
  active : ℤ := 0
  idle : ℤ := 0
  peak : ℤ := 0

/-- How far a call has come, and what became of the connection it got; `counted` says whether the
connection was counted as active when it was handed out. -/
inductive PoolPhase (κ : Type) where
  | get (key : κ)
  | pop (key : κ)
  | probe (key : κ)
  | connect (key : κ) (counted : Bool)
  | load (key : κ)
  | record (key : κ) (loaded : ℤ)
  | held (key : κ) (counted : Bool)
  | dropped (counted : Bool)
  | returning (key : κ) (counted : Bool)
  | push (key : κ) (counted : Bool)
  | returned (counted : Bool)
  | prewarm (key : κ) (count : ℕ)
  | warm (key : κ) (left warmed : ℕ)
  | drain (shards : List (κ → Bool))
  | resize (size : ℕ)
  | over

def readCounter (counter : ℤ) : ℤ := counter % 2 ^ 64

/-- One step; `choice` is what the network or the caller decides: a probe finds the connection
alive, an attempt to connect succeeds, a connection is returned. -/
def PoolLedger.step (s : PoolLedger κ) (choice : Bool) : PoolPhase κ → PoolLedger κ × PoolPhase κ
  | .get key => if s.maxIdle = 0 then (s, .connect key false) else (s, .pop key)
  | .pop key =>
    if key ∈ s.stored then ({ s with stored := s.stored.erase key, idle := s.idle - 1 }, .probe key)
    else (s, .connect key true)
  | .probe key =>
    if choice then ({ s with active := s.active + 1 }, .held key true) else (s, .pop key)
  | .connect key counted =>
    match choice, counted with
    | false, _ => (s, .over)
    | true, false => (s, .held key false)
    | true, true => ({ s with active := s.active + 1 }, .load key)
  | .load key => (s, .record key (readCounter s.active))
  | .record key loaded => ({ s with peak := max s.peak loaded }, .held key true)
  | .held key counted =>
    if choice then ({ s with active := s.active - 1 }, .returning key counted)
    else (s, .dropped counted)
  | .returning key counted =>
    if s.maxIdle = 0 then (s, .returned counted) else (s, .push key counted)
  | .push key counted =>
    if s.maxIdle ≤ s.stored.count key then (s, .returned counted)
    else ({ s with stored := key :: s.stored, idle := s.idle + 1 }, .returned counted)
  | .prewarm key count => (s, .warm key (min count (s.maxIdle - s.stored.count key)) 0)
  | .warm key (left + 1) warmed =>
    if choice then ({ s with stored := key :: s.stored }, .warm key left (warmed + 1))
    else (s, .warm key left warmed)
  | .warm _ 0 warmed => ({ s with idle := s.idle + warmed }, .over)
  | .drain (shard :: shards) =>
    ({ s with stored := s.stored.filter fun key => !shard key }, .drain shards)
  | .drain [] => ({ s with idle := 0 }, .over)
  | .resize size => ({ s with maxIdle := min size 32768 }, .over)
  | .dropped counted => (s, .dropped counted)
  | .returned counted => (s, .returned counted)
  | .over => (s, .over)

/-- What a call has in hand: the connection, if it is handed out; by how much the active counter
then says too much; and the connections stored and not yet counted. -/
def PoolPhase.inHand : PoolPhase κ → ℤ × ℤ × ℤ
  | .held _ counted => (1, counted.toNat - 1, 0)
  | .load _ | .record .. => (0, 1, 0)
  | .dropped counted => (0, counted.toNat, 0)
  | .returning _ counted | .push _ counted | .returned counted => (0, counted.toNat - 1, 0)
  | .warm _ _ warmed => (0, 0, warmed)
  | _ => (0, 0, 0)

/-- A call with the decisions that it will meet. -/
abbrev PoolCall (κ : Type) := PoolPhase κ × List Bool

inductive PoolOp (κ : Type) where
  | get (key : κ)
  | prewarm (key : κ) (count : ℕ)
  | drain (shards : List (κ → Bool))
  | resize (size : ℕ)

def PoolOp.begin : PoolOp κ × List Bool → PoolCall κ
  | (.get key, choices) => (.get key, choices)
  | (.prewarm key count, choices) => (.prewarm key count, choices)
  | (.drain shards, choices) => (.drain shards, choices)
  | (.resize size, choices) => (.resize size, choices)

def poolTurn (s : PoolLedger κ) (call : PoolCall κ) : PoolLedger κ × PoolCall κ :=
  ((s.step (call.2.headD false) call.1).1, (s.step (call.2.headD false) call.1).2, call.2.tail)

def ledgerRun (maxIdle : ℕ) (actions : List (Action (PoolOp κ × List Bool))) :
    Config (PoolLedger κ) (PoolCall κ) :=
  (⟨{ maxIdle }, []⟩ : Config (PoolLedger κ) (PoolCall κ)).run PoolOp.begin poolTurn actions

def inHand (calls : List (PoolCall κ)) : ℤ × ℤ × ℤ := total (fun call => call.1.inHand) calls

/-- What a step of a drain does to the error of the idle counter.  A shard that is cleared stays
counted; when the counter is set to zero, it leaves out what is stored, apart from what prewarming
calls have stored and will count. -/
def PoolLedger.errorAfter (s : PoolLedger κ) (warmed error : ℤ) : PoolPhase κ → ℤ
  | .drain (shard :: _) => error + s.stored.countP shard
  | .drain [] => warmed - s.stored.length
  | _ => error

/-- By how much the idle counter says too much, by what the drains did. -/
def idleError (maxIdle : ℕ) (actions : List (Action (PoolOp κ × List Bool))) :
    Config (PoolLedger κ) (PoolCall κ) × ℤ :=
  actions.foldl (fun out action =>
    (out.1.act PoolOp.begin poolTurn action,
      match action with
      | .start _ => out.2
      | .turn index =>
        match out.1.tasks[index]? with
        | none => out.2
        | some call => out.1.shared.errorAfter (inHand out.1.tasks).2.2 out.2 call.1))
    (⟨{ maxIdle }, []⟩, 0)

structure PoolLedger.Balanced (s : PoolLedger κ) (hands : ℤ × ℤ × ℤ) (error : ℤ) : Prop where
  active : s.active = hands.1 + hands.2.1
  idle : s.idle + hands.2.2 = s.stored.length + error

theorem PoolLedger.Balanced.step {s : PoolLedger κ} {others : ℤ × ℤ × ℤ} {error : ℤ}
    {phase : PoolPhase κ} (h : s.Balanced (others + phase.inHand) error) (choice : Bool) :
    (s.step choice phase).1.Balanced (others + (s.step choice phase).2.inHand)
      (s.errorAfter (others + phase.inHand).2.2 error phase) := by
  obtain ⟨hactive, hidle⟩ := h
  fun_cases PoolLedger.step s choice phase
  case' case3 hmem => have herase := length_erase_add_one hmem
  case' case22 shard shards =>
    have hsplit := length_eq_length_filter_add (l := s.stored) shard
    rw [← countP_eq_length_filter] at hsplit
  all_goals constructor
  all_goals simp only [PoolPhase.inHand, PoolLedger.errorAfter, Prod.fst_add, Prod.snd_add,
    length_cons, Bool.toNat_true, Bool.toNat_false] at hactive hidle ⊢
  all_goals omega

variable (maxIdle : ℕ) (actions : List (Action (PoolOp κ × List Bool)))

theorem ledgerRun_concat (action : Action (PoolOp κ × List Bool)) :
    ledgerRun maxIdle (actions ++ [action])
      = (ledgerRun maxIdle actions).act PoolOp.begin poolTurn action :=
  foldl_concat _ _ _ _

theorem balanced_ledgerRun : (idleError maxIdle actions).1 = ledgerRun maxIdle actions ∧
    (ledgerRun maxIdle actions).shared.Balanced (inHand (ledgerRun maxIdle actions).tasks)
      (idleError maxIdle actions).2 := by
  induction actions using List.reverseRecOn with
  | nil => exact ⟨rfl, rfl, rfl⟩
  | append_singleton actions action ih =>
    rw [ledgerRun_concat, idleError, foldl_concat, ← idleError, ih.1]
    refine ⟨rfl, ?_⟩
    have h := ih.2
    cases action with
    | start op =>
      obtain ⟨op, choices⟩ := op
      have hbegin : (PoolOp.begin (op, choices) : PoolCall κ).1.inHand = 0 := by cases op <;> rfl
      dsimp only [Config.act]
      rw [inHand, total_append_singleton, hbegin, add_zero]
      exact h
    | turn index =>
      dsimp only [Config.act]
      cases hcall : (ledgerRun maxIdle actions).tasks[index]? with
      | none => exact h
      | some call =>
        dsimp only
        rw [inHand, total_eq_eraseIdx_add hcall] at h
        rw [inHand, inHand, total_set hcall, total_eq_eraseIdx_add hcall]
        exact h.step _

/-- **The counters are right**: they say how many connections are stored and handed out, active
connections never fall below zero, and their peak is at least what they ever were. -/
structure CountersRight : Prop where
  idle : readCounter (ledgerRun maxIdle actions).shared.idle
    = readCounter (ledgerRun maxIdle actions).shared.stored.length
  active : readCounter (ledgerRun maxIdle actions).shared.active
    = readCounter (inHand (ledgerRun maxIdle actions).tasks).1
  nonneg : ∀ past, past <+: actions → 0 ≤ (ledgerRun maxIdle past).shared.active
  peak : ∀ past, past <+: actions → readCounter (ledgerRun maxIdle past).shared.active
    ≤ (ledgerRun maxIdle actions).shared.peak

/-- Some call has recorded a value for the peak that is at least this one. -/
def Recorded (value : ℤ) : Prop :=
  ∃ past action future, actions = past ++ action :: future ∧ ∃ index key loaded choices,
    action = .turn index ∧ value ≤ loaded ∧
      (ledgerRun maxIdle past).tasks[index]? = some (.record key loaded, choices)

theorem le_peak_step {s : PoolLedger κ} {value : ℤ} (choice : Bool) (phase : PoolPhase κ) :
    value ≤ (s.step choice phase).1.peak
      ↔ value ≤ s.peak ∨ ∃ key loaded, phase = .record key loaded ∧ value ≤ loaded := by
  fun_cases PoolLedger.step s choice phase
  all_goals simp

/-- **The peak is the largest value that a call has recorded.** -/
theorem le_peak_iff (value : ℤ) : value ≤ (ledgerRun maxIdle actions).shared.peak
      ↔ value ≤ 0 ∨ Recorded maxIdle actions value := by
  induction actions using List.reverseRecOn with
  | nil => simp [Recorded, ledgerRun, Config.run]
  | append_singleton actions action ih =>
    rw [Recorded, exists_moment_concat, ← Recorded, ← or_assoc, ← ih, ledgerRun_concat]
    cases action with
    | start op => simp [Config.act]
    | turn index =>
      rw [Config.act]
      cases hcall : (ledgerRun maxIdle actions).tasks[index]? with
      | none => simp [hcall]
      | some call =>
        refine (le_peak_step (call.2.headD false) call.1).trans (or_congr_right ?_)
        constructor
        · rintro ⟨key, loaded, hphase, hle⟩
          exact ⟨index, key, loaded, call.2, rfl, hle, by rw [hcall, ← hphase]⟩
        · rintro ⟨index', key, loaded, choices, hindex, hle, hrecord⟩
          rw [← Action.turn.inj hindex, hcall] at hrecord
          exact ⟨key, loaded, congrArg Prod.fst (Option.some.inj hrecord), hle⟩

end NantianGateway.Stream
