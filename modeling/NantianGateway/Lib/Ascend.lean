import Mathlib.Data.List.Basic
import Mathlib.Data.Set.Basic
import Mathlib.Order.MinMax

/-!
# Listing a set by asking for its next element

Several ascending lists are enumerated without merging them: ask for the least element after the
last one given out, and stop when there is none.  `IsNext` is what one such question has to answer,
and `walk` is the loop.
-/

namespace NantianGateway.Ascend

open List

variable {α : Type*} [LinearOrder α]

def Above (last : Option α) (x : α) : Prop := ∀ y, last = some y → y < x

@[simp] theorem above_none (x : α) : Above none x := nofun

@[simp] theorem above_some {x y : α} : Above (some y) x ↔ y < x :=
  ⟨fun h => h y rfl, fun h _ hz => Option.some.inj hz ▸ h⟩

/-- `r` answers the question for the least element of `S` after `last`. -/
structure IsNext (S : Set α) (last r : Option α) : Prop where
  /-- The answer is an element of the set after `last`. -/
  sound : ∀ x, r = some x → x ∈ S ∧ Above last x
  /-- Nothing of the set lies between. -/
  least : ∀ y ∈ S, Above last y → ∃ x, r = some x ∧ x ≤ y

def minOption (r r' : Option α) : Option α :=
  match r, r' with
  | some x, some y => some (min x y)
  | some x, none => some x
  | none, some y => some y
  | none, none => none

theorem IsNext.union {S T : Set α} {last r r' : Option α} (hS : IsNext S last r)
    (hT : IsNext T last r') : IsNext (S ∪ T) last (minOption r r') := by
  constructor
  · intro z hz
    cases r with
    | none =>
      cases r' with
      | none => cases hz
      | some y => exact ⟨.inr (hT.sound z hz).1, (hT.sound z hz).2⟩
    | some x =>
      cases r' with
      | none => exact ⟨.inl (hS.sound z hz).1, (hS.sound z hz).2⟩
      | some y =>
        have hxy : min x y = z := Option.some.inj hz
        rcases min_choice x y with h | h
        · have hx := hS.sound x rfl
          rw [← hxy, h]
          exact ⟨.inl hx.1, hx.2⟩
        · have hy := hT.sound y rfl
          rw [← hxy, h]
          exact ⟨.inr hy.1, hy.2⟩
  · rintro z (hz | hz) hlast
    · obtain ⟨x, rfl, hx⟩ := hS.least z hz hlast
      cases r' with
      | none => exact ⟨x, rfl, hx⟩
      | some y => exact ⟨min x y, rfl, (min_le_left x y).trans hx⟩
    · obtain ⟨y, rfl, hy⟩ := hT.least z hz hlast
      cases r with
      | none => exact ⟨y, rfl, hy⟩
      | some x => exact ⟨min x y, rfl, (min_le_right x y).trans hy⟩

theorem isNext_head_dropWhile {l : List α} (hl : l.Pairwise (· ≤ ·)) (last : Option α) :
    IsNext {x | x ∈ l} last (l.dropWhile fun x => last.any fun y => x ≤ y).head? := by
  induction l with
  | nil => exact ⟨nofun, nofun⟩
  | cons a l ih =>
    obtain ⟨ha, hl⟩ := pairwise_cons.mp hl
    have hstop : (last.any fun y => a ≤ y) = false ↔ Above last a := by
      cases last with
      | none => simp
      | some y => simp
    rw [dropWhile_cons]
    by_cases h : (last.any fun y => a ≤ y) = true
    · rw [if_pos h]
      refine ⟨fun x hx => ?_, fun y hy hlast => ?_⟩
      · exact ⟨mem_cons_of_mem _ ((ih hl).sound x hx).1, ((ih hl).sound x hx).2⟩
      · rcases mem_cons.mp hy with rfl | hy
        · rw [hstop.mpr hlast] at h
          cases h
        · exact (ih hl).least y hy hlast
    · rw [if_neg h]
      refine ⟨fun x hx => ?_, fun y hy _ => ⟨a, rfl, ?_⟩⟩
      · obtain rfl := Option.some.inj hx
        exact ⟨mem_cons_self, hstop.mp (Bool.not_eq_true _ ▸ h)⟩
      · rcases mem_cons.mp hy with rfl | hy
        · exact le_rfl
        · exact ha y hy

def walk (next : Option α → Option α) : ℕ → Option α → List α
  | 0, _ => []
  | n + 1, last =>
    match next last with
    | none => []
    | some x => x :: walk next n (some x)

section Walk

variable {next : Option α → Option α} {l : List α}

theorem above_of_mem_walk (hnext : ∀ last, IsNext {x | x ∈ l} last (next last)) {n : ℕ}
    {last : Option α} {x : α} (hx : x ∈ walk next n last) : x ∈ l ∧ Above last x := by
  induction n generalizing last with
  | zero => exact (not_mem_nil hx).elim
  | succ n ih =>
    rw [walk] at hx
    cases hy : next last with
    | none => rw [hy] at hx; exact (not_mem_nil hx).elim
    | some y =>
      rw [hy] at hx
      have hys := (hnext last).sound y hy
      rcases mem_cons.mp hx with rfl | hx
      · exact hys
      · obtain ⟨hxl, hyx⟩ := ih hx
        exact ⟨hxl, fun z hz => (hys.2 z hz).trans (above_some.mp hyx)⟩

theorem pairwise_walk (hnext : ∀ last, IsNext {x | x ∈ l} last (next last)) (n : ℕ)
    (last : Option α) : (walk next n last).Pairwise (· < ·) := by
  induction n generalizing last with
  | zero => exact .nil
  | succ n ih =>
    rw [walk]
    cases next last with
    | none => exact .nil
    | some y => exact .cons (fun z hz => above_some.mp (above_of_mem_walk hnext hz).2) (ih _)

theorem mem_walk_iff (hnext : ∀ last, IsNext {x | x ∈ l} last (next last)) {n : ℕ}
    (hn : l.length ≤ n) {x : α} : x ∈ walk next n none ↔ x ∈ l := by
  refine ⟨fun hx => (above_of_mem_walk hnext hx).1, fun hx => ?_⟩
  -- the number of entries still to come bounds the turns still needed
  suffices hmain : ∀ n last, (l.filter fun y => last.all fun z => z < y).length ≤ n →
      Above last x → x ∈ walk next n last from
    hmain n none ((length_filter_le _ _).trans hn) (above_none x)
  clear hn
  intro n
  induction n with
  | zero =>
    intro last hn hlast
    have hmem : x ∈ l.filter fun y => last.all fun z => z < y := by
      refine mem_filter.mpr ⟨hx, ?_⟩
      cases last with
      | none => rfl
      | some z => simpa using hlast
    rw [length_eq_zero_iff.mp (Nat.le_zero.mp hn)] at hmem
    exact (not_mem_nil hmem).elim
  | succ n ih =>
    intro last hn hlast
    obtain ⟨y, hy, hyx⟩ := (hnext last).least x hx hlast
    have hys := (hnext last).sound y hy
    rw [walk, hy]
    rcases eq_or_lt_of_le hyx with rfl | hlt
    · exact mem_cons_self
    · refine mem_cons_of_mem _ (ih (some y) (Nat.le_of_lt_succ (lt_of_lt_of_le ?_ hn))
        (above_some.mpr hlt))
      have hsub : (l.filter fun z => (some y).all fun w => w < z).Sublist
          (l.filter fun z => last.all fun w => w < z) := by
        refine monotone_filter_right l fun z hz => ?_
        cases last with
        | none => rfl
        | some w =>
          have hwy : w < y := above_some.mp hys.2
          simpa using hwy.trans (by simpa using hz)
      refine lt_of_le_of_ne hsub.length_le fun heq => ?_
      have hmem : y ∈ l.filter fun z => last.all fun w => w < z := by
        refine mem_filter.mpr ⟨hys.1, ?_⟩
        cases last with
        | none => rfl
        | some w => simpa using above_some.mp hys.2
      rw [← hsub.eq_of_length heq] at hmem
      simp at hmem

end Walk

/-! ## Reading a list at ascending positions -/

variable {β : Type*} {is : List ℕ} (l : List β)

theorem filterMap_getElem?_eq_aux (k : ℕ) (his : is.Pairwise (· < ·)) (hk : ∀ i ∈ is, k ≤ i) :
    (is.filterMap fun i => l[i - k]?.map fun x => (x, i))
      = (l.zipIdx k).filter fun p => p.2 ∈ is := by
  induction l generalizing k is with
  | nil => simp
  | cons a l ih =>
    -- the positions above `k` read the tail
    have htail : ∀ js : List ℕ, js.Pairwise (· < ·) → (∀ i ∈ js, k + 1 ≤ i) →
        (js.filterMap fun i => (a :: l)[i - k]?.map fun x => (x, i))
          = (l.zipIdx (k + 1)).filter fun p => p.2 ∈ js := by
      intro js hjs hjk
      rw [← ih (k + 1) hjs hjk]
      refine filterMap_congr fun i hi => ?_
      obtain ⟨d, rfl⟩ := Nat.exists_eq_add_of_le (hjk i hi)
      rw [show k + 1 + d - k = d + 1 by omega, show k + 1 + d - (k + 1) = d by omega,
        List.getElem?_cons_succ]
    rw [zipIdx_cons]
    cases is with
    | nil => simp
    | cons i is =>
      obtain ⟨hi, his'⟩ := pairwise_cons.mp his
      rcases eq_or_lt_of_le (hk i mem_cons_self) with rfl | hlt
      · have hrest : ∀ j ∈ is, k + 1 ≤ j := fun j hj => hi j hj
        rw [filterMap_cons, htail is his' hrest, filter_cons_of_pos (by simp)]
        simp only [Nat.sub_self, List.getElem?_cons_zero, Option.map_some]
        congr 1
        refine filter_congr fun p hp => ?_
        have hpk : p.2 ≠ k := by
          have := le_snd_of_mem_zipIdx hp
          omega
        simp [hpk]
      · have hrest : ∀ j ∈ i :: is, k + 1 ≤ j :=
          forall_mem_cons.mpr ⟨hlt, fun j hj => hlt.trans (hi j hj)⟩
        rw [htail _ his hrest, filter_cons_of_neg]
        intro h
        have := hrest k (by simpa using h)
        omega

theorem filterMap_getElem?_eq (his : is.Pairwise (· < ·)) :
    (is.filterMap fun i => l[i]?.map fun x => (x, i)) = l.zipIdx.filter fun p => p.2 ∈ is :=
  filterMap_getElem?_eq_aux l 0 his fun _ _ => Nat.zero_le _

theorem filterMap_getElem?_map_snd {l : List β} {es : List (β × ℕ)}
    (h : ∀ e ∈ es, l[e.2]? = some e.1) :
    ((es.map Prod.snd).filterMap fun i => l[i]?.map fun x => (x, i)) = es := by
  induction es with
  | nil => rfl
  | cons e es ih =>
    have he : (l[e.2]?.map fun x => (x, e.2)) = some e := by
      rw [h e mem_cons_self]
      rfl
    rw [map_cons, filterMap_cons, he]
    exact congrArg (e :: ·) (ih fun e he => h e (mem_cons_of_mem _ he))

end NantianGateway.Ascend
