import NantianGateway.Lib.Table

/-!
# A list that stands for a map

A list of values, each with a key of its own, stands for a map when it holds exactly the value that
the map has for each key (`Holds`).  Whether an edit --- retain what passes a test, push a value at
the end --- keeps the list in step with the map is decided by the test alone.
-/

namespace NantianGateway.Keyed

open List Function

variable {κ ν : Type*}

/-- **The list holds one value for each key of the map, and nothing else.** -/
structure Holds (key : ν → κ) (l : List ν) (m : Table κ ν) : Prop where
  nodup : (l.map key).Nodup
  /-- A value is listed exactly when the map has it under its key. -/
  mem_iff : ∀ v, v ∈ l ↔ m (key v) = some v
  /-- The map keeps a value under the value's own key. -/
  keyed : ∀ k v, m k = some v → key v = k

variable {key : ν → κ} {l : List ν} {m : Table κ ν} {p : ν → Bool} {k : κ} {v : ν}

theorem holds_nil : Holds key [] (.empty : Table κ ν) where
  nodup := nodup_nil
  mem_iff := fun v => by simp
  keyed := fun k v h => by simp at h

variable [DecidableEq κ]

theorem update_none_eq_some_iff {j : κ} :
    Function.update m k none j = some v ↔ j ≠ k ∧ m j = some v := by
  by_cases hj : j = k
  · simp [hj]
  · simp [hj]

/-- **Retaining takes a key out exactly when the test tells that key from the others.** -/
theorem holds_filter_iff (h : Holds key l m) : Holds key (l.filter p) (Function.update m k none) ↔
      ∀ e ∈ l, p e = true ↔ key e ≠ k := by
  constructor
  · intro h' e he
    have hmem := h'.mem_iff e
    rw [mem_filter, update_none_eq_some_iff, ← h.mem_iff, and_comm] at hmem
    exact and_congr_left_iff.mp hmem he
  · intro hp
    refine ⟨h.nodup.sublist (filter_sublist.map key), fun e => ?_,
      fun j e hj => h.keyed j e (update_none_eq_some_iff.mp hj).2⟩
    rw [mem_filter, update_none_eq_some_iff, ← h.mem_iff, and_comm]
    exact and_congr_left fun he => hp e he

theorem Holds.push (h : Holds key l m) (hv : m (key v) = none) :
    Holds key (l ++ [v]) (Function.update m (key v) (some v)) where
  nodup := by
    rw [map_append, nodup_append]
    refine ⟨h.nodup, nodup_singleton _, ?_⟩
    rintro a ha b hb rfl
    obtain ⟨e, he, rfl⟩ := mem_map.mp ha
    rw [map_singleton, mem_singleton] at hb
    rw [h.mem_iff, hb, hv] at he
    cases he
  mem_iff := fun e => by
    rw [mem_append, mem_singleton, h.mem_iff]
    by_cases hk : key e = key v
    · rw [hk, update_self, hv]
      simp [eq_comm]
    · rw [update_of_ne hk]
      constructor
      · rintro (he | rfl)
        · exact he
        · exact absurd rfl hk
      · exact .inl
  keyed := fun j e hj => by
    by_cases hk : j = key v
    · rw [hk, update_self] at hj
      rw [hk, Option.some.inj hj]
    · rw [update_of_ne hk] at hj
      exact h.keyed j e hj

/-- **Retaining and pushing replaces a value exactly when the test tells its key from the
others.** -/
theorem holds_filter_push_iff (h : Holds key l m) :
    Holds key (l.filter p ++ [v]) (Function.update m (key v) (some v)) ↔
      ∀ e ∈ l, p e = true ↔ key e ≠ key v := by
  constructor
  · intro h' e he
    constructor
    · intro hp hk
      -- a value kept under the key of the pushed one would make the key occur twice
      have hnodup := h'.nodup
      rw [map_append, nodup_append] at hnodup
      exact hnodup.2.2 (key e) (mem_map_of_mem (mem_filter.mpr ⟨he, hp⟩)) (key v) (by simp) hk
    · intro hk
      have hkept := (h'.mem_iff e).mpr (by
        rw [update_of_ne hk]
        exact (h.mem_iff e).mp he)
      rcases mem_append.mp hkept with hkept | hkept
      · exact (mem_filter.mp hkept).2
      · exact absurd (congrArg key (mem_singleton.mp hkept)) hk
  · intro hp
    have herased := (holds_filter_iff h).mpr hp
    have hpushed := herased.push (v := v) (update_self _ _ _)
    rwa [update_idem] at hpushed

theorem holds_update_iff (h : Holds key l m) :
    Holds key l (Function.update m (key v) (some v)) ↔ m (key v) = some v := by
  constructor
  · intro h'
    rw [← h.mem_iff, h'.mem_iff, update_self]
  · intro hv
    rwa [← hv, update_eq_self]

end NantianGateway.Keyed
