import Mathlib.Algebra.Order.BigOperators.Group.List
import Mathlib.Algebra.Order.Ring.Nat

/-!
# Picking by weight

A weighted choice walks a list, adds up the weights and stops at the first element
whose running total exceeds the target.  Every target below the total weight picks
something (`pickWeighted_isSome`).
Where an element occurs more than once, `pickPosition` tells the occurrences apart.
-/

namespace NantianGateway.Weighted

open List

variable {α β : Type*} (weight : α → ℕ)

/-- Walk the list from a running total, and stop where the total exceeds the target. -/
def pickWeighted (target : ℕ) : ℕ → List α → Option α
  | _, [] => none
  | seen, x :: l =>
    if target < seen + weight x then some x else pickWeighted target (seen + weight x) l

def total (l : List α) : ℕ := (l.map weight).sum

@[simp] theorem total_nil : total weight [] = 0 := rfl

@[simp] theorem total_cons (x : α) (l : List α) : total weight (x :: l)
    = weight x + total weight l :=
  by rw [total, map_cons, sum_cons, total]

@[simp] theorem total_append (l m : List α) :
    total weight (l ++ m) = total weight l + total weight m := by
  rw [total, map_append, sum_append, total, total]

variable {weight}

theorem total_map (g : β → α) (l : List β) : total weight (l.map g) = total (weight ∘ g) l := by
  rw [total, total, map_map]

variable {l : List α} {x : α} {target seen : ℕ}

theorem weight_le_total (hx : x ∈ l) : weight x ≤ total weight l :=
  single_le_sum (fun _ _ => Nat.zero_le _) _ (mem_map_of_mem hx)

theorem total_take_add_le {i : ℕ} (h : l[i]? = some x) :
    total weight (l.take i) + weight x ≤ total weight l := by
  obtain ⟨hi, rfl⟩ := List.getElem?_eq_some_iff.mp h
  have hsplit := take_append_drop i l
  rw [drop_eq_getElem_cons hi] at hsplit
  rw [← congrArg (total weight) hsplit, total_append, total_cons]
  omega

theorem pickWeighted_isSome (hseen : seen ≤ target) :
    (pickWeighted weight target seen l).isSome = true ↔ target < seen + total weight l := by
  induction l generalizing seen with
  | nil => simp [pickWeighted, hseen]
  | cons x l ih =>
    rw [pickWeighted, total_cons, ← Nat.add_assoc]
    by_cases h : target < seen + weight x
    · rw [if_pos h]
      exact ⟨fun _ => by omega, fun _ => rfl⟩
    · rw [if_neg h, ih (not_lt.mp h)]

theorem exists_pickWeighted (h : target < total weight l) :
    ∃ x, pickWeighted weight target 0 l = some x := by
  rw [← Option.isSome_iff_exists, pickWeighted_isSome (Nat.zero_le target), Nat.zero_add]
  exact h

theorem pickWeighted_map (g : β → α) (target seen : ℕ) (l : List β) :
    pickWeighted weight target seen (l.map g)
      = (pickWeighted (weight ∘ g) target seen l).map g := by
  induction l generalizing seen with
  | nil => rfl
  | cons x l ih =>
    rw [map_cons, pickWeighted, pickWeighted, ih, Function.comp_apply]
    by_cases h : target < seen + weight (g x)
    · rw [if_pos h, if_pos h, Option.map_some]
    · rw [if_neg h, if_neg h]

/-! ## The position of the element -/

variable (weight) in
def pickPosition (target : ℕ) : ℕ → List α → Option ℕ
  | _, [] => none
  | seen, x :: l =>
    if target < seen + weight x then some 0
    else (pickPosition target (seen + weight x) l).map (· + 1)

theorem pickWeighted_eq_bind (target seen : ℕ) (l : List α) :
    pickWeighted weight target seen l = (pickPosition weight target seen l).bind (l[·]?) := by
  induction l generalizing seen with
  | nil => rfl
  | cons x l ih =>
    rw [pickWeighted, pickPosition]
    split
    · rfl
    · rw [ih, Option.bind_map]
      rfl

theorem mem_of_pickWeighted (h : pickWeighted weight target seen l = some x) : x ∈ l := by
  rw [pickWeighted_eq_bind] at h
  obtain ⟨i, -, hi⟩ := Option.bind_eq_some_iff.mp h
  exact mem_of_getElem? hi

theorem pickPosition_eq_some_iff {i : ℕ} (hseen : seen ≤ target) :
    pickPosition weight target seen l = some i ↔
      ∃ x, l[i]? = some x ∧ seen + total weight (l.take i) ≤ target ∧
        target < seen + total weight (l.take i) + weight x := by
  induction l generalizing seen i with
  | nil => simp [pickPosition]
  | cons x l ih =>
    rw [pickPosition]
    by_cases h : target < seen + weight x
    · rw [if_pos h]
      cases i with
      | zero => simpa using ⟨hseen, h⟩
      | succ i =>
        simp only [take_succ_cons, total_cons, Option.some.injEq, Nat.right_eq_add,
          Nat.add_eq_zero_iff, Nat.one_ne_zero, and_false, false_iff]
        rintro ⟨y, -, hlo, -⟩
        omega
    · rw [if_neg h]
      cases i with
      | zero =>
        simp only [Option.map_eq_some_iff, Nat.add_eq_zero_iff, Nat.one_ne_zero, and_false,
          exists_false, false_iff]
        rintro ⟨y, hy, -, hhi⟩
        obtain rfl : x = y := by simpa using hy
        exact h (by simpa using hhi)
      | succ i =>
        have hshift : ∀ o : Option ℕ, o.map (· + 1) = some (i + 1) ↔ o = some i := by
          intro o
          cases o <;> simp
        rw [hshift, ih (not_lt.mp h)]
        simp only [List.getElem?_cons_succ, take_succ_cons, total_cons, Nat.add_assoc]

end NantianGateway.Weighted
