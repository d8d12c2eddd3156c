import Mathlib.Algebra.BigOperators.Group.List.Basic
import Mathlib.Algebra.Order.Ring.Nat

/-!
# Sliding windows

A program that limits what happens in a window of time keeps a queue of what happened, and drops the
entries at the front that are older than the window.  If the entries came in the order of their
times, what is left is what happened in the last window.  A window includes both of its ends.
-/

namespace NantianGateway.SlidingLog

open List

variable {α : Type*} (time : α → ℕ) (width now : ℕ) (log : List α)

/-- The entries of the last window, both ends included. -/
def recent : List α :=
  log.filter fun a => decide (now - time a ≤ width)

def prune : List α :=
  log.dropWhile fun a => decide (width < now - time a)

def Ordered : Prop := log.Pairwise fun a b => time a ≤ time b

theorem recent_append (log log' : List α) :
    recent time width now (log ++ log') = recent time width now log ++ recent time width now log' :=
  filter_append ..

variable {width now : ℕ} {a : α} {log : List α}

theorem prune_cons_of_expired (h : width < now - time a) (log : List α) :
    prune time width now (a :: log) = prune time width now log :=
  dropWhile_cons_of_pos (by simpa using h)

theorem prune_cons_of_not_expired (h : ¬ width < now - time a) (log : List α) :
    prune time width now (a :: log) = a :: log :=
  dropWhile_cons_of_neg (by simpa using h)

theorem recent_singleton (width : ℕ) (a : α) : recent time width (time a) [a] = [a] := by
  rw [recent, filter_singleton, Nat.sub_self, decide_eq_true (Nat.zero_le width)]
  rfl

theorem recent_recent (width : ℕ) {later : ℕ} (h : now ≤ later) (log : List α) :
    recent time width later (recent time width now log) = recent time width later log := by
  rw [recent, recent, filter_filter, recent]
  congr 1
  funext a
  rw [Bool.and_eq_left_iff_imp]
  intro hlater
  have hle : later - time a ≤ width := of_decide_eq_true hlater
  exact decide_eq_true ((Nat.sub_le_sub_right h _).trans hle)

theorem Ordered.recent (h : Ordered time log) (width now : ℕ) :
    Ordered time (recent time width now log) :=
  h.sublist filter_sublist

theorem prune_eq_recent (width now : ℕ) (h : Ordered time log) :
    prune time width now log = recent time width now log := by
  induction log with
  | nil => rfl
  | cons a log ih =>
    obtain ⟨hfirst, hrest⟩ := pairwise_cons.mp h
    by_cases hexpired : width < now - time a
    · rw [prune_cons_of_expired time hexpired, ih hrest, recent, recent, filter_cons_of_neg]
      exact fun hrecent => absurd (of_decide_eq_true hrecent) (Nat.not_le_of_lt hexpired)
    · -- the front is recent, and what came after it is too
      have hall : ∀ b ∈ a :: log, decide (now - time b ≤ width) = true := by
        intro b hb
        refine decide_eq_true ?_
        rcases mem_cons.mp hb with rfl | hb
        · exact Nat.le_of_not_lt hexpired
        · exact (Nat.sub_le_sub_left (hfirst b hb) _).trans (Nat.le_of_not_lt hexpired)
      rw [prune_cons_of_not_expired time hexpired, recent, filter_eq_self.mpr hall]

theorem prune_recent (width : ℕ) {later : ℕ} (hle : now ≤ later) (h : Ordered time log) :
    prune time width later (recent time width now log) = recent time width later log := by
  rw [prune_eq_recent time width later (h.recent time width now), recent_recent time width hle]

/-! ## Totals -/

/-- Drop the expired entries at the front, and take their weights off a total. -/
def pruneTotal (weight : α → ℕ) (width now : ℕ) : List α → ℕ → List α × ℕ
  | [], total => ([], total)
  | a :: log, total =>
    if width < now - time a then pruneTotal weight width now log (total - weight a)
    else (a :: log, total)

theorem pruneTotal_sum (weight : α → ℕ) (width now : ℕ) (log : List α) :
    pruneTotal time weight width now log (log.map weight).sum
      = (prune time width now log, ((prune time width now log).map weight).sum) := by
  induction log with
  | nil => rfl
  | cons a log ih =>
    rw [pruneTotal]
    split
    · rename_i hexpired
      rw [map_cons, sum_cons, Nat.add_sub_cancel_left, ih, prune_cons_of_expired time hexpired]
    · rename_i hexpired
      rw [prune_cons_of_not_expired time hexpired]

/-! ## Counting -/

/-- The entries of the window that begins at a time, both ends included. -/
def within (width start : ℕ) (log : List α) : List α :=
  log.filter fun a => decide (start ≤ time a ∧ time a ≤ start + width)

theorem length_within_append_le {limit : ℕ}
    (hlog : ∀ start, (within time width start log).length ≤ limit)
    (hnew : (recent time width (time a) log).length < limit) (start : ℕ) :
    (within time width start (log ++ [a])).length ≤ limit := by
  rw [within, filter_append, length_append]
  by_cases ha : start ≤ time a ∧ time a ≤ start + width
  · -- whatever else is in the window is recent when the entry is added
    have hsub : (within time width start log).length ≤ (recent time width (time a) log).length := by
      rw [within, recent, ← countP_eq_length_filter, ← countP_eq_length_filter]
      refine countP_mono_left fun b _ hb => decide_eq_true ?_
      have hwindow : start ≤ time b ∧ time b ≤ start + width := of_decide_eq_true hb
      omega
    have hone : ([a].filter fun a => decide (start ≤ time a ∧ time a ≤ start + width)).length ≤ 1 :=
      length_filter_le _ _
    rw [within] at hsub
    omega
  · have hnone : ([a].filter fun a => decide (start ≤ time a ∧ time a ≤ start + width)) = [] := by
      rw [filter_cons_of_neg (by simpa using ha), filter_nil]
    rw [hnone, length_nil]
    exact hlog start

end NantianGateway.SlidingLog
