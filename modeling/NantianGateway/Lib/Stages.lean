import Mathlib.Logic.Basic

/-!
# Programs made of stages

A request handler is often one long function: each part hands the request on, ends it, or fails.  A
`Stage` is one such part and `runStages` the walk.  A `Contract` says what holds after a stage, an
`Effect` by which function it changes the state.
-/

namespace NantianGateway.Stages

/-- How a stage leaves the request: to the next stage, ended with an answer to the caller, or
ended in an error. -/
inductive Flow where
  | next
  | done (handled : Bool)
  | failed
  deriving DecidableEq

variable {σ : Type}

/-- A part of a request handler. -/
def Stage (σ : Type) := σ → Flow × σ

def pass : Stage σ := fun s => (.next, s)

def finish (handled : Bool) : Stage σ := fun s => (.done handled, s)

def fail : Stage σ := fun s => (.failed, s)

def update (f : σ → σ) : Stage σ := fun s => (.next, f s)

def Stage.andThen (first second : Stage σ) : Stage σ := fun s =>
  match first s with
  | (.next, s) => second s
  | out => out

def Stage.when (concerned : Bool) (stage : Stage σ) : Stage σ := if concerned then stage else pass

def runStages : List (Stage σ) → Stage σ
  | [] => pass
  | stage :: stages => stage.andThen (runStages stages)

theorem runStages_append (xs ys : List (Stage σ)) (s : σ) :
    runStages (xs ++ ys) s = (runStages xs).andThen (runStages ys) s := by
  induction xs generalizing s with
  | nil => rfl
  | cons stage xs ih =>
    simp only [List.cons_append, runStages, Stage.andThen] at ih ⊢
    rcases stage s with ⟨_ | _ | _, s'⟩
    · exact ih s'
    · rfl
    · rfl

/-! ## Handing on -/

def HandsOn (stage : Stage σ) (s : σ) : Prop := (stage s).1 = .next

section

variable (s : σ)

@[simp] theorem handsOn_pass : HandsOn pass s := rfl

@[simp] theorem handsOn_update (f : σ → σ) : HandsOn (update f) s := rfl

@[simp] theorem not_handsOn_finish (handled : Bool) : ¬HandsOn (finish handled) s := nofun

@[simp] theorem not_handsOn_fail : ¬HandsOn fail s := nofun

theorem handsOn_andThen (first second : Stage σ) :
    HandsOn (first.andThen second) s ↔ HandsOn first s ∧ HandsOn second (first s).2 := by
  rw [HandsOn, HandsOn, HandsOn, Stage.andThen]
  rcases first s with ⟨_ | _ | _, s'⟩ <;> simp

@[simp] theorem handsOn_when (concerned : Bool) (stage : Stage σ) :
    HandsOn (stage.when concerned) s ↔ (concerned = true → HandsOn stage s) := by
  cases concerned <;> simp [Stage.when]

theorem handsOn_runStages_nil : HandsOn (runStages []) s := rfl

theorem handsOn_runStages_cons (stage : Stage σ) (stages : List (Stage σ)) :
    HandsOn (runStages (stage :: stages)) s ↔
      HandsOn stage s ∧ HandsOn (runStages stages) (stage s).2 :=
  handsOn_andThen s stage (runStages stages)

end

/-! ## Contracts -/

/-- From `before`, a stage hands on with `after` or ends with `exit`. -/
def Contract (before after : σ → Prop) (exit : Bool → σ → Prop) (stage : Stage σ) : Prop :=
  ∀ s, before s → match stage s with
    | (.next, s') => after s'
    | (.done handled, s') => exit handled s'
    | (.failed, _) => True

variable {before middle after : σ → Prop} {exit : Bool → σ → Prop} {stage first second : Stage σ}

theorem contract_pass : Contract before before exit (pass : Stage σ) := fun _ h => h

theorem contract_fail : Contract before after exit (fail : Stage σ) := fun _ _ => trivial

theorem contract_finish {handled : Bool} (h : ∀ s, before s → exit handled s) :
    Contract before after exit (finish handled : Stage σ) := h

theorem contract_update {f : σ → σ} (h : ∀ s, before s → after (f s)) :
    Contract before after exit (update f) := h

theorem Contract.andThen (hfirst : Contract before middle exit first)
    (hsecond : Contract middle after exit second) :
    Contract before after exit (first.andThen second) := by
  intro s hs
  have h := hfirst s hs
  rw [Stage.andThen]
  rcases hout : first s with ⟨flow, s'⟩
  rw [hout] at h
  cases flow with
  | next => exact hsecond s' h
  | done handled => exact h
  | failed => trivial

theorem Contract.mono {after' : σ → Prop} {exit' : Bool → σ → Prop}
    (h : Contract before after exit stage) (hafter : ∀ s, after s → after' s)
    (hexit : ∀ handled s, exit handled s → exit' handled s) :
    Contract before after' exit' stage := by
  intro s hs
  have hout := h s hs
  generalize stage s = out at hout ⊢
  rcases out with ⟨_ | handled | _, s'⟩
  · exact hafter s' hout
  · exact hexit handled s' hout
  · trivial

/-! ## Effects -/

/-- A stage that hands on has applied `f`; one that ends the request has ended it with
`exit`. -/
def Effect (exit : Bool → σ → Prop) (f : σ → σ) (stage : Stage σ) : Prop :=
  ∀ s₀, Contract (· = s₀) (· = f s₀) exit stage

end NantianGateway.Stages
