import Mathlib.Algebra.Order.Group.Multiset

/-!
# Semaphores made on demand

A map from keys to reference-counted semaphores, made when the key is first asked for and removed
when only the map refers to it and its permits are back.  `Fits` relates a pool to the permits and
references that are out, with one rule per atomic operation.
-/

namespace NantianGateway.Semaphores

open Function Multiset

/-- A semaphore, by its key and its number among the semaphores made for that key. -/
@[ext]
structure Arc (K : Type*) where
  key : K
  serial : ℕ
deriving DecidableEq

/-- The semaphores, and the map.  `strong` is the reference count, `capacity` remembers with how
many permits a semaphore was made, and `next` how many were made for a key. -/
structure Pool (K : Type*) where
  entries : K → Option ℕ
  strong : Arc K → ℕ
  available : Arc K → ℕ
  capacity : Arc K → ℕ
  next : K → ℕ

namespace Pool

variable {K : Type*}

def Mapped (s : Pool K) (arc : Arc K) : Prop := s.entries arc.key = some arc.serial

instance decidableMapped (s : Pool K) (arc : Arc K) : Decidable (s.Mapped arc) :=
  inferInstanceAs (Decidable (s.entries arc.key = some arc.serial))

def empty : Pool K where
  entries _ := none
  strong _ := 0
  available _ := 0
  capacity _ := 0
  next _ := 0

variable [DecidableEq K] (s : Pool K) (arc : Arc K)

def retain : Pool K :=
  { s with strong := Function.update s.strong arc (s.strong arc + 1) }

def release : Pool K :=
  { s with strong := Function.update s.strong arc (s.strong arc - 1) }

def take : Pool K :=
  { s with available := Function.update s.available arc (s.available arc - 1) }

def giveBack : Pool K :=
  { s with available := Function.update s.available arc (s.available arc + 1) }

/-- A semaphore is made for a key: the map has a reference and the caller has one. -/
def insertNew (key : K) (limit : ℕ) : Pool K where
  entries := Function.update s.entries key (some (s.next key))
  strong := Function.update s.strong ⟨key, s.next key⟩ 2
  available := Function.update s.available ⟨key, s.next key⟩ limit
  capacity := Function.update s.capacity ⟨key, s.next key⟩ limit
  next := Function.update s.next key (s.next key + 1)

def remove : Pool K :=
  { s.release arc with entries := Function.update s.entries arc.key none }

/-- The entry of a key is removed if the map has the only reference to its semaphore and
`limit` permits are available. -/
def cleanup (key : K) (limit : ℕ) : Pool K :=
  match s.entries key with
  | none => s
  | some serial =>
    if s.strong ⟨key, serial⟩ = 1 ∧ s.available ⟨key, serial⟩ = limit then
      s.remove ⟨key, serial⟩
    else s

/-! ## The map -/

theorem mapped_insertNew {s : Pool K} {key : K} (hentry : s.entries key = none) (limit : ℕ)
    (arc : Arc K) :
    (s.insertNew key limit).Mapped arc ↔ arc = ⟨key, s.next key⟩ ∨ s.Mapped arc := by
  show Function.update s.entries key (some (s.next key)) arc.key = some arc.serial ↔ _
  rw [update_apply, Mapped, Arc.ext_iff]
  by_cases hkey : arc.key = key
  · rw [if_pos hkey, hkey, hentry]
    constructor
    · exact fun hserial => .inl ⟨rfl, (Option.some.inj hserial).symm⟩
    · rintro (⟨-, hserial⟩ | hsome)
      · exact congrArg some hserial.symm
      · cases hsome
  · rw [if_neg hkey]
    exact ⟨.inr, fun hor => hor.resolve_left fun hand => hkey hand.1⟩

theorem mapped_remove {s : Pool K} {arc : Arc K} (hmapped : s.Mapped arc) (arc' : Arc K) :
    (s.remove arc).Mapped arc' ↔ s.Mapped arc' ∧ arc' ≠ arc := by
  show Function.update s.entries arc.key none arc'.key = some arc'.serial ↔ _
  rw [update_apply, Ne, Arc.ext_iff, Mapped]
  by_cases hkey : arc'.key = arc.key
  · rw [if_pos hkey, hkey, hmapped]
    refine ⟨fun hsome => absurd hsome.symm (Option.some_ne_none _), ?_⟩
    rintro ⟨hserial, hne⟩
    exact absurd ⟨rfl, (Option.some.inj hserial).symm⟩ hne
  · rw [if_neg hkey]
    exact ⟨fun harc => ⟨harc, fun hand => hkey hand.1⟩, And.left⟩

theorem cleanup_cases (key : K) (limit : ℕ) :
    s.cleanup key limit = s ∨ ∃ serial, s.Mapped ⟨key, serial⟩ ∧ s.strong ⟨key, serial⟩ = 1 ∧
      s.cleanup key limit = s.remove ⟨key, serial⟩ := by
  rw [cleanup]
  cases hentry : s.entries key with
  | none => exact .inl rfl
  | some serial =>
    by_cases hidle : s.strong ⟨key, serial⟩ = 1 ∧ s.available ⟨key, serial⟩ = limit
    · exact .inr ⟨serial, hentry, hidle.1, if_pos hidle⟩
    · exact .inl (if_neg hidle)

end Pool

/-! ## Permits and references -/

/-- The pool fits the permits that are out and the references held outside the map: the counts are
right, what is referred to is mapped, and a permit is with its semaphore or out. -/
structure Fits {K : Type*} [DecidableEq K] (s : Pool K) (live refs : Multiset (Arc K)) :
    Prop where
  strong_eq : ∀ arc, s.strong arc = refs.count arc + if s.Mapped arc then 1 else 0
  mapped_of_mem : ∀ arc ∈ refs, s.Mapped arc
  lt_next : ∀ arc, s.Mapped arc → arc.serial < s.next arc.key
  available_add : ∀ arc, s.Mapped arc → s.available arc + live.count arc = s.capacity arc

namespace Fits

variable {K : Type*} [DecidableEq K] {s : Pool K} {live refs : Multiset (Arc K)} {arc : Arc K}
  {key : K}

theorem mapped_of_ref (h : Fits s live (refs + {arc})) : s.Mapped arc :=
  h.mapped_of_mem arc (mem_add.mpr (.inr (mem_singleton_self arc)))

/-! ### One rule per operation -/

theorem retain (h : Fits s live refs) (hmapped : s.Mapped arc) :
    Fits (s.retain arc) live (refs + {arc}) where
  strong_eq arc' := by
    show Function.update s.strong arc (s.strong arc + 1) arc' = _
    rw [count_add, count_singleton, update_apply]
    have hstrong := h.strong_eq arc'
    by_cases heq : arc' = arc
    · subst heq
      rw [if_pos rfl, if_pos rfl, hstrong]
      exact Nat.add_right_comm _ _ _
    · rw [if_neg heq, if_neg heq]
      exact hstrong
  mapped_of_mem arc' hmem := by
    rcases mem_add.mp hmem with hmem | hmem
    · exact h.mapped_of_mem arc' hmem
    · obtain rfl := mem_singleton.mp hmem
      exact hmapped
  lt_next := h.lt_next
  available_add := h.available_add

theorem release (h : Fits s live (refs + {arc})) : Fits (s.release arc) live refs where
  strong_eq arc' := by
    show Function.update s.strong arc (s.strong arc - 1) arc' = _
    have hstrong := h.strong_eq arc'
    rw [count_add, count_singleton] at hstrong
    rw [update_apply]
    by_cases heq : arc' = arc
    · subst heq
      rw [if_pos rfl, hstrong, if_pos rfl, Nat.add_right_comm]
      rfl
    · rw [if_neg heq, hstrong, if_neg heq]
      rfl
  mapped_of_mem arc' hmem := h.mapped_of_mem arc' (mem_add.mpr (.inl hmem))
  lt_next := h.lt_next
  available_add := h.available_add

theorem take (h : Fits s live refs) (hpos : 0 < s.available arc) :
    Fits (s.take arc) (live + {arc}) refs where
  strong_eq := h.strong_eq
  mapped_of_mem := h.mapped_of_mem
  lt_next := h.lt_next
  available_add arc' hmapped := by
    show Function.update s.available arc (s.available arc - 1) arc' + _ = s.capacity arc'
    have havailable := h.available_add arc' hmapped
    rw [count_add, count_singleton, update_apply]
    by_cases heq : arc' = arc
    · subst heq
      rw [if_pos rfl, if_pos rfl]
      omega
    · rw [if_neg heq, if_neg heq]
      exact havailable

theorem giveBack (h : Fits s (live + {arc}) refs) : Fits (s.giveBack arc) live refs where
  strong_eq := h.strong_eq
  mapped_of_mem := h.mapped_of_mem
  lt_next := h.lt_next
  available_add arc' hmapped := by
    show Function.update s.available arc (s.available arc + 1) arc' + _ = s.capacity arc'
    have havailable := h.available_add arc' hmapped
    rw [count_add, count_singleton] at havailable
    rw [update_apply]
    by_cases heq : arc' = arc
    · subst heq
      rw [if_pos rfl] at havailable ⊢
      omega
    · rw [if_neg heq] at havailable ⊢
      exact havailable

theorem count_next (h : Fits s live refs) (key : K) : refs.count ⟨key, s.next key⟩ = 0 := by
  refine count_eq_zero.mpr fun hmem => ?_
  exact Nat.lt_irrefl _ (h.lt_next _ (h.mapped_of_mem _ hmem))

/-- **A key without a semaphore gets a new one.**  Nobody refers to an older one of that key,
so no permit is out on one. -/
theorem insertNew (h : Fits s live refs) (hlive : live ≤ refs) (hentry : s.entries key = none)
    (limit : ℕ) : Fits (s.insertNew key limit) live (refs + {⟨key, s.next key⟩}) := by
  have hmapped := Pool.mapped_insertNew hentry limit
  have hnext : ¬ s.Mapped ⟨key, s.next key⟩ := fun hsome =>
    Option.some_ne_none _ (hsome.symm.trans hentry)
  refine ⟨fun arc => ?_, fun arc hmem => ?_, fun arc harc => ?_, fun arc harc => ?_⟩
  · show Function.update s.strong ⟨key, s.next key⟩ 2 arc = _
    rw [count_add, count_singleton, update_apply]
    by_cases heq : arc = ⟨key, s.next key⟩
    · rw [if_pos heq, if_pos heq, if_pos ((hmapped arc).mpr (.inl heq)), heq, h.count_next]
    · rw [if_neg heq, if_neg heq, h.strong_eq arc, Nat.add_zero]
      refine congrArg _ (if_congr ?_ rfl rfl)
      exact ⟨fun harc => (hmapped arc).mpr (.inr harc),
        fun harc => ((hmapped arc).mp harc).resolve_left heq⟩
  · rcases mem_add.mp hmem with hmem | hmem
    · exact (hmapped arc).mpr (.inr (h.mapped_of_mem arc hmem))
    · exact (hmapped arc).mpr (.inl (mem_singleton.mp hmem))
  · show arc.serial < Function.update s.next key (s.next key + 1) arc.key
    rw [update_apply]
    rcases (hmapped arc).mp harc with rfl | harc
    · rw [if_pos rfl]
      exact Nat.lt_succ_self _
    · have hlt := h.lt_next arc harc
      split
      · next hkey => exact Nat.lt_succ_of_lt (hkey ▸ hlt)
      · exact hlt
  · show Function.update s.available ⟨key, s.next key⟩ limit arc + _
      = Function.update s.capacity ⟨key, s.next key⟩ limit arc
    rw [update_apply, update_apply]
    rcases (hmapped arc).mp harc with rfl | harc
    · have hcount := count_le_of_le ⟨key, s.next key⟩ hlive
      rw [h.count_next] at hcount
      rw [if_pos rfl, if_pos rfl, Nat.eq_zero_of_le_zero hcount, Nat.add_zero]
    · have hne : arc ≠ ⟨key, s.next key⟩ := fun heq => hnext (heq ▸ harc)
      rw [if_neg hne, if_neg hne]
      exact h.available_add arc harc

theorem remove (h : Fits s live refs) (hmapped : s.Mapped arc) (hstrong : s.strong arc = 1) :
    Fits (s.remove arc) live refs := by
  have hcount : refs.count arc = 0 := by
    have heq := h.strong_eq arc
    rw [hstrong, if_pos hmapped] at heq
    exact (Nat.succ.inj heq).symm
  have hremoved := Pool.mapped_remove hmapped
  refine ⟨fun arc' => ?_, fun arc' hmem => ?_, fun arc' harc => ?_, fun arc' harc => ?_⟩
  · show Function.update s.strong arc (s.strong arc - 1) arc' = _
    rw [update_apply]
    by_cases heq : arc' = arc
    · rw [if_pos heq, hstrong, heq, hcount, if_neg fun harc => ((hremoved arc).mp harc).2 rfl]
    · rw [if_neg heq, h.strong_eq arc']
      refine congrArg _ (if_congr ?_ rfl rfl)
      exact ⟨fun harc => (hremoved arc').mpr ⟨harc, heq⟩, fun harc => ((hremoved arc').mp harc).1⟩
  · refine (hremoved arc').mpr ⟨h.mapped_of_mem arc' hmem, ?_⟩
    rintro rfl
    exact count_eq_zero.mp hcount hmem
  · exact h.lt_next arc' ((hremoved arc').mp harc).1
  · exact h.available_add arc' ((hremoved arc').mp harc).1

theorem cleanup (h : Fits s live refs) (key : K) (limit : ℕ) :
    Fits (s.cleanup key limit) live refs := by
  rcases s.cleanup_cases key limit with hsame | ⟨serial, hmapped, hstrong, hremove⟩
  · rw [hsame]
    exact h
  · rw [hremove]
    exact h.remove hmapped hstrong

/-! ### The permits of a key -/

theorem mapped_of_live (h : Fits s live refs) (hlive : live ≤ refs) (hmem : arc ∈ live) :
    s.Mapped arc :=
  h.mapped_of_mem arc (mem_of_le hlive hmem)

theorem count_key_of_unmapped (h : Fits s live refs) (hlive : live ≤ refs)
    (hentry : s.entries key = none) : (live.map Arc.key).count key = 0 := by
  refine count_eq_zero.mpr fun hmem => ?_
  obtain ⟨arc, harc, rfl⟩ := mem_map.mp hmem
  exact Option.some_ne_none _ ((h.mapped_of_live hlive harc).symm.trans hentry)

theorem available_add_count_key (h : Fits s live refs) (hlive : live ≤ refs)
    (hmapped : s.Mapped arc) :
    s.available arc + (live.map Arc.key).count arc.key = s.capacity arc := by
  have hsame : (live.filter fun arc' => arc.key = arc'.key)
      = live.filter fun arc' => arc = arc' := by
    refine filter_congr fun arc' harc' => ?_
    constructor
    · intro hkey
      have hserial : some arc'.serial = some arc.serial := by
        rw [← h.mapped_of_live hlive harc', ← hmapped, hkey]
      exact Arc.ext hkey (Option.some.inj hserial).symm
    · exact congrArg Arc.key
  rw [count_map, hsame, ← countP_eq_card_filter]
  exact h.available_add arc hmapped

end Fits

end NantianGateway.Semaphores
