import Mathlib.Algebra.Order.Group.Nat
import Mathlib.Data.List.Basic
import Mathlib.Order.WellFounded

/-!
# Spans of positions

A program that marks parts of a text as spans copies the gaps between them: `positions_gaps` says
which positions they are.  The spans are separated by dropping every span that starts before the end
of the last one that was kept (`dedupBy`).

What is left of a sorted list is the choice from left to right: a span counts if it starts where no
span that counts has reached, and of several that start at one position the longest does.  `reach`
says this position by position, without a list of what was kept, and `any_covers_dedupBy` is that
the two come to the same.  If every two spans are apart or one is inside the other, the choice
reaches every position of every span (`lt_reach_of_nested`).
-/

namespace NantianGateway.Spans

open List

variable {α : Type*} (same : α → α → Bool)

/-- `Vec::dedup_by`: drop an element that is the same as the last one that was kept. -/
def dedupBy : List α → List α
  | [] => []
  | kept :: rest => kept :: after kept rest
where
  after (kept : α) : List α → List α
    | [] => []
    | x :: rest => if same x kept then after kept rest else x :: after x rest

theorem after_sublist (kept : α) (l : List α) : (dedupBy.after same kept l).Sublist l := by
  induction l generalizing kept with
  | nil => exact List.Sublist.refl _
  | cons x l ih =>
    rw [dedupBy.after]
    split
    · exact (ih kept).cons x
    · exact (ih x).cons_cons x

theorem dedupBy_sublist (l : List α) : (dedupBy same l).Sublist l := by
  cases l with
  | nil => exact List.Sublist.refl _
  | cons kept rest => exact (after_sublist same kept rest).cons_cons kept

variable (start stop : α → ℕ)

def covers (p : ℕ) (x : α) : Bool := decide (start x ≤ p) && decide (p < stop x)

/-- Spans between two positions, each starting at or after the end of the one before it. -/
def Separated (lo hi : ℕ) : List α → Prop
  | [] => lo ≤ hi
  | x :: l => lo ≤ start x ∧ start x ≤ stop x ∧ Separated (stop x) hi l

/-- The gaps before, between and after spans. -/
def gaps (lo hi : ℕ) : List α → List (ℕ × ℕ)
  | [] => [(lo, hi)]
  | x :: l => (lo, start x) :: gaps (stop x) hi l

def positions (ranges : List (ℕ × ℕ)) : List ℕ :=
  ranges.flatMap fun range => List.range' range.1 (range.2 - range.1)

variable {start stop} {lo hi : ℕ} {l : List α}

theorem Separated.le (h : Separated start stop lo hi l) : lo ≤ hi := by
  induction l generalizing lo with
  | nil => exact h
  | cons x l ih => exact h.1.trans (h.2.1.trans (ih h.2.2))

theorem Separated.le_start (h : Separated start stop lo hi l) {x : α} (hx : x ∈ l) :
    lo ≤ start x := by
  induction l generalizing lo with
  | nil => cases hx
  | cons y l ih =>
    rcases mem_cons.mp hx with rfl | hx
    · exact h.1
    · exact h.1.trans (h.2.1.trans (ih h.2.2 hx))

theorem positions_gaps (h : Separated start stop lo hi l) : positions (gaps start stop lo hi l)
      = (List.range' lo (hi - lo)).filter fun p => !l.any (covers start stop p) := by
  induction l generalizing lo with
  | nil => simp [positions, gaps]
  | cons x l ih =>
    obtain ⟨hlo, hx, hrest⟩ := h
    have hhi : stop x ≤ hi := hrest.le
    have hsplit : List.range' lo (hi - lo)
        = List.range' lo (start x - lo) ++ (List.range' (start x) (stop x - start x)
          ++ List.range' (stop x) (hi - stop x)) := by
      rw [← Nat.add_sub_of_le hx, Nat.add_sub_cancel_left, List.range'_append_1]
      have hmid : start x = lo + (start x - lo) := by omega
      conv_rhs => rw [hmid, Nat.add_sub_cancel_left]
      rw [List.range'_append_1]
      congr 1
      omega
    have hbefore : (List.range' lo (start x - lo)).filter
        (fun p => !(x :: l).any (covers start stop p)) = List.range' lo (start x - lo) := by
      rw [filter_eq_self]
      intro p hp
      rw [mem_range'_1] at hp
      simp only [Bool.not_eq_true', any_eq_false, Bool.not_eq_true]
      intro y hy
      have hst : start x ≤ start y := by
        rcases mem_cons.mp hy with rfl | hy
        · exact le_rfl
        · exact hx.trans (hrest.le_start hy)
      simp only [covers, Bool.and_eq_false_imp, decide_eq_true_eq, decide_eq_false_iff_not]
      omega
    have hinside : (List.range' (start x) (stop x - start x)).filter
        (fun p => !(x :: l).any (covers start stop p)) = [] := by
      rw [filter_eq_nil_iff]
      intro p hp
      rw [mem_range'_1] at hp
      simp only [any_cons, covers, Bool.not_eq_true', Bool.not_eq_false, Bool.or_eq_true,
        Bool.and_eq_true, decide_eq_true_eq]
      left
      omega
    have hafter : (List.range' (stop x) (hi - stop x)).filter
        (fun p => !(x :: l).any (covers start stop p))
          = (List.range' (stop x) (hi - stop x)).filter fun p => !l.any (covers start stop p) := by
      refine filter_congr fun p hp => ?_
      rw [mem_range'_1] at hp
      have hnot : covers start stop p x = false := by
        simp only [covers, Bool.and_eq_false_imp, decide_eq_true_eq, decide_eq_false_iff_not]
        omega
      rw [any_cons, hnot, Bool.false_or]
    rw [hsplit, filter_append, filter_append, hbefore, hinside, hafter, nil_append, ← ih hrest]
    rfl

theorem separated_dedupBy (hspan : ∀ x ∈ l, start x ≤ stop x ∧ stop x ≤ hi) :
    Separated start stop 0 hi (dedupBy (fun x kept => decide (start x < stop kept)) l) := by
  have hafter : ∀ (kept : α) (l : List α), stop kept ≤ hi →
      (∀ x ∈ l, start x ≤ stop x ∧ stop x ≤ hi) →
      Separated start stop (stop kept) hi
        (dedupBy.after (fun x kept => decide (start x < stop kept)) kept l) := by
    intro kept l
    induction l generalizing kept with
    | nil => exact fun hkept _ => hkept
    | cons x l ih =>
      intro hkept hspan
      have hrest : ∀ y ∈ l, start y ≤ stop y ∧ stop y ≤ hi := fun y hy =>
        hspan y (mem_cons_of_mem _ hy)
      obtain ⟨hx, hxhi⟩ := hspan x mem_cons_self
      rw [dedupBy.after]
      split
      · exact ih kept hkept hrest
      · next hnot =>
        rw [decide_eq_true_eq, not_lt] at hnot
        exact ⟨hnot, hx, ih x hxhi hrest⟩
  cases l with
  | nil => exact Nat.zero_le _
  | cons kept rest =>
    obtain ⟨hkept, hhi⟩ := hspan kept mem_cons_self
    exact ⟨Nat.zero_le _, hkept, hafter kept rest hhi fun x hx => hspan x (mem_cons_of_mem _ hx)⟩

/-! ## The choice from left to right -/

section

variable (start stop : α → ℕ)

/-- The end of the longest span that starts at a position. -/
def longestAt (l : List α) (p : ℕ) : ℕ :=
  ((l.filter fun x => start x = p).map stop).foldr max 0

/-- The end of the last span that counts among those that start before a position: the longest one
at the first position, and from there on only at positions that are not reached yet. -/
def reach (l : List α) : ℕ → ℕ
  | 0 => 0
  | p + 1 => if reach l p ≤ p then longestAt start stop l p else reach l p

variable {start stop}

theorem lt_longestAt {p q : ℕ} :
    p < longestAt start stop l q ↔ ∃ x ∈ l, start x = q ∧ p < stop x := by
  have hmax : ∀ ends : List ℕ, p < ends.foldr max 0 ↔ ∃ e ∈ ends, p < e := by
    intro ends
    induction ends with
    | nil => simp
    | cons e ends ih => simp [ih]
  rw [longestAt, hmax]
  simp [and_assoc]

theorem Separated.stop_le_start (h : Separated start stop lo hi l) {x y : α} (hx : x ∈ l)
    (hy : y ∈ l) (hlt : start x < start y) : stop x ≤ start y := by
  induction l generalizing lo with
  | nil => cases hx
  | cons z l ih =>
    obtain ⟨-, hz, hrest⟩ := h
    rcases mem_cons.mp hx with rfl | hleft
    · rcases mem_cons.mp hy with rfl | hright
      · exact absurd hlt (lt_irrefl _)
      · exact hrest.le_start hright
    · rcases mem_cons.mp hy with rfl | hright
      · have hafter := hrest.le_start hleft
        omega
      · exact ih hrest hleft hright

/-- A span that is dropped starts inside a kept one, and does not outlast one that starts with it.
-/
theorem mem_or_inside_after {kept : α}
    (hsorted : (kept :: l).Pairwise fun a b =>
      start a < start b ∨ (start a = start b ∧ stop b ≤ stop a)) {x : α} (hx : x ∈ l) :
    x ∈ dedupBy.after (fun x kept => decide (start x < stop kept)) kept l ∨
      ∃ k ∈ kept :: dedupBy.after (fun x kept => decide (start x < stop kept)) kept l,
        start k ≤ start x ∧ start x < stop k ∧ (start k = start x → stop x ≤ stop k) := by
  induction l generalizing kept with
  | nil => cases hx
  | cons y l ih =>
    rw [dedupBy.after]
    split
    · next hdrop =>
      rw [decide_eq_true_eq] at hdrop
      rcases mem_cons.mp hx with rfl | hx
      · have hkept := rel_of_pairwise_cons hsorted mem_cons_self
        exact .inr ⟨kept, mem_cons_self, by omega, hdrop, by omega⟩
      · exact ih (hsorted.sublist ((sublist_cons_self y l).cons_cons kept)) hx
    · rcases mem_cons.mp hx with rfl | hx
      · exact .inl mem_cons_self
      · rcases ih hsorted.of_cons hx with hkept | ⟨k, hk, hinside⟩
        · exact .inl (mem_cons_of_mem _ hkept)
        · exact .inr ⟨k, mem_cons_of_mem _ hk, hinside⟩

theorem mem_or_inside_dedupBy
    (hsorted : l.Pairwise fun a b => start a < start b ∨ (start a = start b ∧ stop b ≤ stop a))
    {x : α} (hx : x ∈ l) :
    x ∈ dedupBy (fun x kept => decide (start x < stop kept)) l ∨
      ∃ k ∈ dedupBy (fun x kept => decide (start x < stop kept)) l,
        start k ≤ start x ∧ start x < stop k ∧ (start k = start x → stop x ≤ stop k) := by
  cases l with
  | nil => cases hx
  | cons kept rest =>
    rcases mem_cons.mp hx with rfl | hx
    · exact .inl mem_cons_self
    · exact (mem_or_inside_after hsorted hx).imp_left (mem_cons_of_mem _)

variable (hspan : ∀ x ∈ l, start x ≤ stop x ∧ stop x ≤ hi)
  (hsorted : l.Pairwise fun a b => start a < start b ∨ (start a = start b ∧ stop b ≤ stop a))

include hspan hsorted in
/-- From a position on, the choice reaches as far as the spans that were kept before it. -/
theorem lt_reach_iff {p q : ℕ} (hp : q ≤ p + 1) : p < reach start stop l q ↔
      ∃ k ∈ dedupBy (fun x kept => decide (start x < stop kept)) l, start k < q ∧ p < stop k := by
  have hkept : ∀ {k}, k ∈ dedupBy (fun x kept => decide (start x < stop kept)) l → k ∈ l :=
    fun hk => (dedupBy_sublist _ _).subset hk
  induction q generalizing p with
  | zero => simp [reach]
  | succ q ih =>
    rw [reach]
    split
    · next hfree =>
      -- no span that counts covers `q`
      have hnone := mt (ih (Nat.le_succ q)).mpr (Nat.not_lt.mpr hfree)
      have hstarts : ∀ {k}, k ∈ dedupBy (fun x kept => decide (start x < stop kept)) l →
          start k < q + 1 → p < stop k → start k = q := by
        intro k hk hlt hstop
        by_contra hne
        exact hnone ⟨k, hk, by omega, by omega⟩
      rw [lt_longestAt]
      constructor
      · rintro ⟨x, hx, hat, hstop⟩
        rcases mem_or_inside_dedupBy hsorted hx with hmem | ⟨k, hk, hle, hlt, htie⟩
        · exact ⟨x, hmem, by omega, hstop⟩
        · have hsame : start k = q := by
            by_contra hne
            exact hnone ⟨k, hk, by omega, by omega⟩
          exact ⟨k, hk, by omega, lt_of_lt_of_le hstop (htie (hsame.trans hat.symm))⟩
      · rintro ⟨k, hk, hlt, hstop⟩
        exact ⟨k, hkept hk, hstarts hk hlt hstop, hstop⟩
    · next hbusy =>
      obtain ⟨k', hk', hlt', hstop'⟩ := (ih (Nat.le_succ q)).mp (Nat.lt_of_not_le hbusy)
      refine (ih (p := p) (by omega)).trans ?_
      constructor
      · rintro ⟨k, hk, hlt, hstop⟩
        exact ⟨k, hk, by omega, hstop⟩
      · rintro ⟨k, hk, hlt, hstop⟩
        refine ⟨k, hk, ?_, hstop⟩
        by_contra hne
        have hapart := (separated_dedupBy hspan).stop_le_start hk' hk (by omega)
        omega

include hspan hsorted in
/-- **What is kept covers a position exactly if the choice from left to right reaches beyond it.**
-/
theorem any_covers_dedupBy (p : ℕ) :
    (dedupBy (fun x kept => decide (start x < stop kept)) l).any (covers start stop p) = true ↔
      p < reach start stop l (p + 1) := by
  rw [lt_reach_iff hspan hsorted le_rfl, any_eq_true]
  simp only [covers, Bool.and_eq_true, decide_eq_true_eq, Nat.lt_succ_iff]

theorem exists_of_lt_reach {p q : ℕ} (h : p < reach start stop l q) :
    ∃ x ∈ l, start x < q ∧ p < stop x := by
  induction q with
  | zero => cases h
  | succ q ih =>
    rw [reach] at h
    split at h
    · obtain ⟨x, hx, hat, hstop⟩ := lt_longestAt.mp h
      exact ⟨x, hx, by omega, hstop⟩
    · obtain ⟨x, hx, hlt, hstop⟩ := ih h
      exact ⟨x, hx, by omega, hstop⟩

/-- **Spans that are apart or nested are reached everywhere.** -/
theorem lt_reach_of_nested
    (hnested : ∀ x ∈ l, ∀ y ∈ l, start x ≤ start y → stop x ≤ start y ∨ stop y ≤ stop x)
    {x : α} (hx : x ∈ l) {p : ℕ} (hp : start x ≤ p ∧ p < stop x) :
    p < reach start stop l (p + 1) := by
  -- the first span that covers `p` starts at a position that is not reached
  obtain ⟨y, ⟨hy, hyp⟩, hminute⟩ := (measure start).wf.has_min
    {y | y ∈ l ∧ start y ≤ p ∧ p < stop y} ⟨x, hx, hp⟩
  have hfree : reach start stop l (start y) ≤ start y := by
    by_contra hbusy
    obtain ⟨z, hz, hlt, hstop⟩ := exists_of_lt_reach (Nat.lt_of_not_le hbusy)
    have hinside := hnested z hz y hy (Nat.le_of_lt hlt)
    exact hminute z ⟨hz, by omega, by omega⟩ hlt
  have hreached : p < reach start stop l (start y + 1) := by
    rw [reach, if_pos hfree, lt_longestAt]
    exact ⟨y, hy, rfl, hyp.2⟩
  have hkeeps : ∀ q, start y ≤ q → q ≤ p → p < reach start stop l (q + 1) := by
    intro q hq
    induction q, hq using Nat.le_induction with
    | base => exact fun _ => hreached
    | succ q hq ih =>
      intro hle
      have hbefore := ih (by omega)
      rw [reach, if_neg (by omega)]
      exact hbefore
  exact hkeeps p hyp.1 le_rfl

end

end NantianGateway.Spans
