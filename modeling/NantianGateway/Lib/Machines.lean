import Mathlib.Data.List.Induction

/-!
# Machines that keep a log

A machine takes events, one after another, and some of them it answers with an entry in a log.  What
relates the state and the log, and is kept by every step, relates them after every history
(`invariant`); and an entry was made by one event, on the state left by the history before it
(`mem_log_iff`).  A moment of a history is an event with what came before it; the moments of a
longer history are those of the shorter one and the last (`exists_moment_concat`).
-/

namespace NantianGateway

theorem exists_moment_concat {ε : Type*} {P : List ε → ε → Prop} {history : List ε} {last : ε} :
    (∃ past event future, history ++ [last] = past ++ event :: future ∧ P past event)
      ↔ (∃ past event future, history = past ++ event :: future ∧ P past event)
        ∨ P history last := by
  constructor
  · rintro ⟨past, event, future, hhistory, hmoment⟩
    -- the moment is the last one, or lies before it
    induction future using List.reverseRecOn with
    | nil =>
      obtain ⟨rfl, hlast⟩ := List.append_inj' hhistory rfl
      obtain rfl := List.singleton_inj.mp hlast
      exact .inr hmoment
    | append_singleton future event' _ =>
      rw [← List.cons_append, ← List.append_assoc] at hhistory
      exact .inl ⟨past, event, future, (List.append_inj' hhistory rfl).1, hmoment⟩
  · rintro (⟨past, event, future, rfl, hmoment⟩ | hlast)
    · exact ⟨past, event, future ++ [last], by simp, hmoment⟩
    · exact ⟨history, last, [], rfl, hlast⟩

theorem forall_moments_concat {ε : Type*} {P : List ε → ε → Prop} {history : List ε} {last : ε} :
    (∀ past event future, history ++ [last] = past ++ event :: future → P past event)
      ↔ (∀ past event future, history = past ++ event :: future → P past event)
        ∧ P history last := by
  have hexists := (@exists_moment_concat ε (fun past event => ¬ P past event) history last).not
  push Not at hexists
  exact hexists

/-- A machine with states `σ`, events `ε` and entries `ι`. -/
structure Machine (σ ε ι : Type*) where
  step : σ → ε → σ
  emit : σ → ε → Option ι

namespace Machine

variable {σ ε ι : Type*} (m : Machine σ ε ι) (s : σ) (history : List ε)

def trace : σ × List ι :=
  history.foldl (fun out event => (m.step out.1 event, (m.emit out.1 event).toList ++ out.2))
    (s, [])

def run : σ := (m.trace s history).1

def log : List ι := (m.trace s history).2

@[simp] theorem run_nil : m.run s [] = s := rfl

@[simp] theorem log_nil : m.log s [] = [] := rfl

@[simp] theorem run_concat (event : ε) :
    m.run s (history ++ [event]) = m.step (m.run s history) event := by
  rw [run, trace, List.foldl_append]
  rfl

@[simp] theorem log_concat (event : ε) : m.log s (history ++ [event])
      = (m.emit (m.run s history) event).toList ++ m.log s history := by
  rw [log, trace, List.foldl_append]
  rfl

variable {m s}

theorem invariant {Inv : σ → List ι → Prop} (hinit : Inv s [])
    (hstep : ∀ s log event, Inv s log → Inv (m.step s event) ((m.emit s event).toList ++ log))
    (history : List ε) : Inv (m.run s history) (m.log s history) := by
  induction history using List.reverseRecOn with
  | nil => exact hinit
  | append_singleton history event ih =>
    rw [run_concat, log_concat]
    exact hstep _ _ event ih

theorem mem_log_iff {history : List ε} {entry : ι} :
    entry ∈ m.log s history ↔ ∃ past event future, history = past ++ event :: future ∧
      m.emit (m.run s past) event = some entry := by
  induction history using List.reverseRecOn with
  | nil => simp
  | append_singleton history last ih =>
    rw [log_concat, List.mem_append, Option.mem_toList, ih, or_comm]
    exact exists_moment_concat.symm

end Machine
end NantianGateway
