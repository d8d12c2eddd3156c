import Mathlib.Logic.Basic

/-!
# Computations that may fail and keep their state

A method that changes shared state and returns a `Result` is a computation in `EStateM`.
`Meets pre x ok err` says what it does from the states with `pre`, and composes by `Meets.bind`; a
part of the state that is not touched can be left out (`Keeps.meets`).
-/

namespace NantianGateway.Fallible

universe u

variable {ε σ α β : Type u}

def Ends (ok : α → σ → Prop) (err : ε → σ → Prop) : EStateM.Result ε σ α → Prop
  | .ok a s => ok a s
  | .error e s => err e s

/-- What a computation does from the states with a property. -/
def Meets (pre : σ → Prop) (x : EStateM ε σ α) (ok : α → σ → Prop) (err : ε → σ → Prop) : Prop :=
  ∀ s, pre s → Ends ok err (x s)

variable {pre : σ → Prop} {x : EStateM ε σ α} {ok : α → σ → Prop} {err : ε → σ → Prop}

theorem Meets.of_ok (h : Meets pre x ok err) {s s' : σ} {a : α} (hs : pre s)
    (hx : x s = .ok a s') : ok a s' := by
  have hends := h s hs
  rw [hx] at hends
  exact hends

theorem Meets.of_error (h : Meets pre x ok err) {s s' : σ} {e : ε} (hs : pre s)
    (hx : x s = .error e s') : err e s' := by
  have hends := h s hs
  rw [hx] at hends
  exact hends

theorem Meets.mono {pre' : σ → Prop} {ok' : α → σ → Prop} {err' : ε → σ → Prop}
    (h : Meets pre x ok err) (hpre : ∀ s, pre' s → pre s) (hok : ∀ a s, ok a s → ok' a s)
    (herr : ∀ e s, err e s → err' e s) : Meets pre' x ok' err' := by
  intro s hs
  cases hx : x s with
  | ok a s' => exact hok a s' (h.of_ok (hpre s hs) hx)
  | error e s' => exact herr e s' (h.of_error (hpre s hs) hx)

theorem meets_of_fact {p : Prop} (h : p → Meets pre x ok err) :
    Meets (fun s => pre s ∧ p) x ok err :=
  fun s hs => h hs.2 s hs.1

theorem meets_fact {p : Prop} : Meets (fun _ => p) x (fun _ _ => p) fun _ _ => True := by
  intro s hp
  unfold Ends
  split
  · exact hp
  · exact trivial

theorem meets_pure {a : α} (h : ∀ s, pre s → ok a s) : Meets pre (pure a : EStateM ε σ α) ok err :=
  h

theorem meets_throw {e : ε} (h : ∀ s, pre s → err e s) :
    Meets pre (throw e : EStateM ε σ α) ok err :=
  h

theorem meets_get : Meets pre (get : EStateM ε σ σ) (fun a s => a = s ∧ pre s) err :=
  fun _ hs => ⟨rfl, hs⟩

variable {f : α → EStateM ε σ β}

/-- **The rule of composition.**  An error of the first part is an error of the whole. -/
theorem Meets.bind {ok' : β → σ → Prop} (h : Meets pre x ok err)
    (hf : ∀ a, Meets (ok a) (f a) ok' err) : Meets pre (x >>= f) ok' err := by
  intro s hs
  change Ends ok' err (EStateM.bind x f s)
  unfold EStateM.bind
  cases hx : x s with
  | ok a s' => exact hf a s' (h.of_ok hs hx)
  | error e s' => exact h.of_error hs hx

theorem meets_ite {c : Prop} [Decidable c] {y : EStateM ε σ α} (hx : c → Meets pre x ok err)
    (hy : ¬ c → Meets pre y ok err) : Meets pre (if c then x else y) ok err := by
  by_cases hc : c
  · rw [if_pos hc]
    exact hx hc
  · rw [if_neg hc]
    exact hy hc

def lift : Except ε α → EStateM ε σ α
  | .ok a => pure a
  | .error e => throw e

theorem meets_lift {r : Except ε α} (hok : ∀ a, r = .ok a → ∀ s, pre s → ok a s)
    (herr : ∀ e, r = .error e → ∀ s, pre s → err e s) :
    Meets pre (lift r : EStateM ε σ α) ok err := by
  cases r with
  | ok a => exact hok a rfl
  | error e => exact herr e rfl

def attempt (x : EStateM ε σ α) : EStateM ε σ (Except ε α) := fun s =>
  match x s with
  | .ok a s' => .ok (.ok a) s'
  | .error e s' => .ok (.error e) s'

theorem Meets.attempt {out : Except ε α → σ → Prop}
    (h : Meets pre x (fun a => out (.ok a)) fun e => out (.error e)) :
    Meets pre (attempt x) out err := by
  intro s hs
  unfold Fallible.attempt
  cases hx : x s with
  | ok a s' => exact h.of_ok hs hx
  | error e s' => exact h.of_error hs hx

/-! ## Parts of the state -/

def after : EStateM.Result ε σ α → σ
  | .ok _ s => s
  | .error _ s => s

/-- A computation leaves a part of the state as it is, whether it fails or not. -/
def Keeps {τ : Type*} (view : σ → τ) (x : EStateM ε σ α) : Prop := ∀ s, view (after (x s)) = view s

/-- **The rule of framing.**  What is said about a part that is kept stays true. -/
theorem Keeps.meets {τ : Type*} {view : σ → τ} (h : Keeps view x) (P : τ → Prop) :
    Meets (fun s => P (view s)) x (fun _ s => P (view s)) fun _ s => P (view s) := by
  intro s hs
  have hview := h s
  cases hx : x s with
  | ok a s' =>
    rw [hx] at hview
    exact (congrArg P hview).mpr hs
  | error e s' =>
    rw [hx] at hview
    exact (congrArg P hview).mpr hs

section Keeps

variable {τ : Type*} {view : σ → τ}

theorem keeps_pure (a : α) : Keeps view (pure a : EStateM ε σ α) := fun _ => rfl

theorem keeps_throw (e : ε) : Keeps view (throw e : EStateM ε σ α) := fun _ => rfl

theorem keeps_get : Keeps view (get : EStateM ε σ σ) := fun _ => rfl

theorem keeps_lift (r : Except ε α) : Keeps view (lift r : EStateM ε σ α) := by
  cases r with
  | ok a => exact keeps_pure a
  | error e => exact keeps_throw e

theorem Keeps.bind (h : Keeps view x) (hf : ∀ a, Keeps view (f a)) : Keeps view (x >>= f) := by
  intro s
  have hview := h s
  change view (after (EStateM.bind x f s)) = view s
  unfold EStateM.bind
  cases hx : x s with
  | ok a s' =>
    rw [hx] at hview
    exact (hf a s').trans hview
  | error e s' =>
    rw [hx] at hview
    exact hview

theorem keeps_ite {c : Prop} [Decidable c] {y : EStateM ε σ α} (hx : Keeps view x)
    (hy : Keeps view y) : Keeps view (if c then x else y) := by
  split
  · exact hx
  · exact hy

theorem Keeps.attempt (h : Keeps view x) : Keeps view (attempt x) := by
  intro s
  have hview := h s
  unfold Fallible.attempt
  cases hx : x s with
  | ok a s' =>
    rw [hx] at hview
    exact hview
  | error e s' =>
    rw [hx] at hview
    exact hview

end Keeps

end NantianGateway.Fallible
