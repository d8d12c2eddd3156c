import Mathlib.Data.List.MinMax

/-!
# Searching a list for its best element

Which of several equally good candidates survives a search depends on the comparison.

* `keepFirst` computes Mathlib's `List.argmax`; `maxBy` is the last maximum, and `keepTies` keeps
  every maximum.
* `scanStep` makes every candidate, threading a state, and keeps the first best one.
* `lazyStep` makes a candidate only when its score would win, and passes over one that cannot be
  made; `strictStep` gives up there.
-/

namespace NantianGateway.Best

open List

variable {α β γ κ ρ σ τ : Type*} [LinearOrder β]

/-! ## First and last maxima -/

variable {f : α → β} {l : List α} {a : α}

theorem argmax_eq_some_iff_split : l.argmax f = some a ↔
      ∃ u v, l = u ++ a :: v ∧ (∀ x ∈ u, f x < f a) ∧ ∀ x ∈ v, f x ≤ f a := by
  constructor
  · intro h
    induction l with
    | nil => rw [argmax_nil] at h; cases h
    | cons x l ih =>
      rw [argmax_cons] at h
      cases hl : l.argmax f with
      | none =>
        rw [hl] at h
        obtain rfl := Option.some.inj h
        rw [argmax_eq_none] at hl
        subst hl
        exact ⟨[], [], rfl, by simp, by simp⟩
      | some m =>
        rw [hl] at h
        simp only at h
        by_cases hx : f x < f m
        · rw [if_pos hx] at h
          obtain rfl := Option.some.inj h
          obtain ⟨u, v, rfl, hu, hv⟩ := ih hl
          exact ⟨x :: u, v, rfl, forall_mem_cons.mpr ⟨hx, hu⟩, hv⟩
        · rw [if_neg hx] at h
          obtain rfl := Option.some.inj h
          exact ⟨[], l, rfl, by simp, fun y hy =>
            le_trans (le_of_mem_argmax hy hl) (not_lt.mp hx)⟩
  · rintro ⟨u, v, rfl, hu, hv⟩
    induction u with
    | nil =>
      rw [nil_append, argmax_cons]
      cases hl : v.argmax f with
      | none => rfl
      | some m => exact if_neg (not_lt.mpr (hv m (argmax_mem hl)))
    | cons x u ih =>
      rw [cons_append, argmax_cons, ih fun y hy => hu y (mem_cons_of_mem _ hy)]
      exact if_pos (hu x mem_cons_self)

theorem eq_or_rel_of_argmax {r : α → α → Prop} {b : α} (hl : l.Pairwise r) (h : l.argmax f = some a)
    (hb : b ∈ l) (heq : f b = f a) : b = a ∨ r a b := by
  obtain ⟨u, v, rfl, hu, -⟩ := argmax_eq_some_iff_split.mp h
  rcases mem_append.mp hb with hb | hb
  · exact ((hu b hb).ne heq).elim
  · rcases mem_cons.mp hb with rfl | hb
    · exact .inl rfl
    · exact .inr (rel_of_pairwise_cons (pairwise_append.mp hl).2.1 hb)

theorem argmax_map (f : α → β) (g : γ → α) (l : List γ) :
    (l.map g).argmax f = (l.argmax (f ∘ g)).map g := by
  induction l with
  | nil => rfl
  | cons x l ih =>
    rw [map_cons, argmax_cons, argmax_cons, ih]
    cases l.argmax (f ∘ g) with
    | none => rfl
    | some m => exact (apply_ite (Option.map g) _ (some m) (some x)).symm

theorem argmax_congr {β' : Type*} [LinearOrder β'] {g : α → β'}
    (h : ∀ x ∈ l, ∀ y ∈ l, f x < f y ↔ g x < g y) : l.argmax f = l.argmax g := by
  induction l with
  | nil => rfl
  | cons x l ih =>
    have hl := ih fun y hy z hz => h y (mem_cons_of_mem _ hy) z (mem_cons_of_mem _ hz)
    rw [argmax_cons, argmax_cons, hl]
    cases hm : l.argmax g with
    | none => rfl
    | some m =>
      have hxm := h x mem_cons_self m (mem_cons_of_mem _ (argmax_mem hm))
      exact if_congr hxm rfl rfl

theorem argmax_filterMap_eq_some_iff_split {view : γ → Option α} {l : List γ} :
    (l.filterMap view).argmax f = some a ↔
      ∃ u x v, l = u ++ x :: v ∧ view x = some a ∧ (∀ y ∈ u, ∀ b, view y = some b → f b < f a) ∧
        ∀ y ∈ v, ∀ b, view y = some b → f b ≤ f a := by
  rw [argmax_eq_some_iff_split]
  constructor
  · rintro ⟨u, v, hsplit, hu, hv⟩
    obtain ⟨before, rest, rfl, rfl, hrest⟩ := filterMap_eq_append_iff.mp hsplit
    obtain ⟨skipped, x, after, rfl, hskip, hx, rfl⟩ := filterMap_eq_cons_iff.mp hrest
    refine ⟨before ++ skipped, x, after, (append_assoc ..).symm, hx, fun y hy b hb => ?_,
      fun y hy b hb => hv b (mem_filterMap.mpr ⟨y, hy, hb⟩)⟩
    rcases mem_append.mp hy with hy | hy
    · exact hu b (mem_filterMap.mpr ⟨y, hy, hb⟩)
    · rw [hskip y hy] at hb
      cases hb
  · rintro ⟨u, x, v, rfl, hx, hu, hv⟩
    refine ⟨u.filterMap view, v.filterMap view, by simp [hx], fun b hb => ?_, fun b hb => ?_⟩
    · obtain ⟨y, hy, hb⟩ := mem_filterMap.mp hb
      exact hu y hy b hb
    · obtain ⟨y, hy, hb⟩ := mem_filterMap.mp hb
      exact hv y hy b hb

/-- **A winner stays the winner where the others lose**, and it offers what it did. -/
theorem argmax_filterMap_of_le {view view' : γ → Option α} {l : List γ}
    (hle : ∀ x ∈ l, ∀ b, view' x = some b → ∃ c, view x = some c ∧ f b ≤ f c)
    (hkeep : ∀ x ∈ l, view x = some a → view' x = some a)
    (h : (l.filterMap view).argmax f = some a) : (l.filterMap view').argmax f = some a := by
  obtain ⟨u, x, v, rfl, hx, hu, hv⟩ := argmax_filterMap_eq_some_iff_split.mp h
  refine argmax_filterMap_eq_some_iff_split.mpr ⟨u, x, v, rfl, hkeep x (by simp) hx,
    fun y hy b hb => ?_, fun y hy b hb => ?_⟩
  · obtain ⟨c, hc, hbc⟩ := hle y (by simp [hy]) b hb
    exact hbc.trans_lt (hu y hy c hc)
  · obtain ⟨c, hc, hbc⟩ := hle y (by simp [hy]) b hb
    exact hbc.trans (hv y hy c hc)

/-- `Iterator::max_by`: of several maxima, the last. -/
def maxBy (f : α → β) (l : List α) : Option α := l.reverse.argmax f

@[simp] theorem maxBy_nil : maxBy f [] = none := rfl

theorem maxBy_eq_none : maxBy f l = none ↔ l = [] := by
  rw [maxBy, argmax_eq_none, reverse_eq_nil_iff]

theorem maxBy_mem (h : maxBy f l = some a) : a ∈ l :=
  mem_reverse.mp (argmax_mem h)

theorem le_of_maxBy {b : α} (h : maxBy f l = some a) (hb : b ∈ l) : f b ≤ f a :=
  le_of_mem_argmax (mem_reverse.mpr hb) h

theorem exists_maxBy {b : α} (hb : b ∈ l) : ∃ a, maxBy f l = some a ∧ f b ≤ f a := by
  cases hmax : maxBy f l with
  | none => exact (ne_nil_of_mem hb (maxBy_eq_none.mp hmax)).elim
  | some a => exact ⟨a, rfl, le_of_maxBy hmax hb⟩

theorem maxBy_filter {p : α → Bool} (h : maxBy f l = some a) (ha : p a = true) :
    maxBy f (l.filter p) = some a := by
  rw [maxBy] at h ⊢
  rw [← filter_reverse, ← filterMap_eq_filter]
  rw [← filterMap_some (l := l.reverse)] at h
  refine argmax_filterMap_of_le (fun x _ b hb => ?_) (fun x _ hx => ?_) h
  · exact ⟨b, congrArg some (Option.guard_eq_some_iff.mp hb).1, le_rfl⟩
  · obtain rfl := Option.some.inj hx
    exact Option.guard_eq_some_iff.mpr ⟨rfl, ha⟩

theorem maxBy_map (f : α → β) (g : γ → α) (l : List γ) :
    maxBy f (l.map g) = (maxBy (f ∘ g) l).map g := by
  rw [maxBy, ← map_reverse, argmax_map, maxBy]

theorem maxBy_congr {β' : Type*} [LinearOrder β'] {g : α → β'}
    (h : ∀ x ∈ l, ∀ y ∈ l, f x < f y ↔ g x < g y) : maxBy f l = maxBy g l :=
  argmax_congr fun x hx y hy => h x (mem_reverse.mp hx) y (mem_reverse.mp hy)

/-! ## Keeping an incumbent -/

variable (f)

/-- One turn of a search loop: the incumbent stays unless `x` beats it. -/
def keepFirst (best : Option α) (x : α) : Option α :=
  if best.any (fun c => f x ≤ f c) then best else some x

theorem keepFirst_eq_argAux (best : Option α) (x : α) :
    keepFirst f best x = List.argAux (fun b c => f c < f b) best x := by
  cases best with
  | none => rfl
  | some c =>
    by_cases h : f x ≤ f c
    · simp [keepFirst, List.argAux, h]
    · simp [keepFirst, List.argAux, h, not_le.mp h]

theorem foldl_keepFirst (l : List α) : l.foldl (keepFirst f) none = l.argmax f := by
  rw [List.argmax, show keepFirst f = List.argAux (fun b c => f c < f b) from
    funext fun best => funext fun x => keepFirst_eq_argAux f best x]

omit [LinearOrder β] in
theorem of_foldl_eq_some {P : τ → Prop} {step : Option τ → α → Option τ} {b : τ}
    (hstep : ∀ x ∈ l, ∀ best c, step best x = some c → best = some c ∨ P c)
    (h : l.foldl step none = some b) : P b := by
  induction l using List.reverseRecOn generalizing b with
  | nil => cases h
  | append_singleton l x ih =>
    rw [foldl_append, foldl_cons, foldl_nil] at h
    rcases hstep x (mem_append_right _ (mem_singleton_self x)) _ b h with hold | hnew
    · exact ih (fun y hy => hstep y (mem_append_left _ hy)) hold
    · exact hnew

/-- One turn of a loop that keeps all the maxima met so far, with their score. -/
def keepTies (acc : Option β × List α) (x : α) : Option β × List α :=
  match acc.1 with
  | some b =>
    if f x < b then acc
    else if f x = b then (acc.1, acc.2 ++ [x])
    else (some (f x), [x])
  | none => (some (f x), [x])

theorem foldl_keepTies_aux (l : List α) : (l = [] ∧ l.foldl (keepTies f) (none, []) = (none, [])) ∨
      ∃ b, (∃ a ∈ l, f a = b) ∧ (∀ x ∈ l, f x ≤ b) ∧
        l.foldl (keepTies f) (none, []) = (some b, l.filter fun x => f x = b) := by
  induction l using List.reverseRecOn with
  | nil => exact .inl ⟨rfl, rfl⟩
  | append_singleton l x ih =>
    have hupper {b : β} (hl : ∀ y ∈ l, f y ≤ b) (hx : f x ≤ b) : ∀ y ∈ l ++ [x], f y ≤ b :=
      forall_mem_append.mpr ⟨hl, forall_mem_singleton.mpr hx⟩
    right
    rw [foldl_append, foldl_cons, foldl_nil]
    rcases ih with ⟨rfl, h⟩ | ⟨b, ⟨a, ha, hab⟩, hle, h⟩
    · exact ⟨f x, ⟨x, by simp, rfl⟩, by simp, by rw [h]; simp [keepTies]⟩
    · rw [h, keepTies]
      rcases lt_trichotomy (f x) b with hx | hx | hx
      · exact ⟨b, ⟨a, by simp [ha], hab⟩, hupper hle hx.le, by
          simp [hx, hx.ne, filter_append]⟩
      · exact ⟨b, ⟨a, by simp [ha], hab⟩, hupper hle hx.le, by simp [hx, filter_append]⟩
      · have hnone : l.filter (fun y => f y = f x) = [] := by
          rw [filter_eq_nil_iff]
          intro y hy
          simpa using ((hle y hy).trans_lt hx).ne
        exact ⟨f x, ⟨x, by simp, rfl⟩, hupper (fun y hy => (hle y hy).trans hx.le) le_rfl, by
          simp [not_lt.mpr hx.le, hx.ne', filter_append, hnone]⟩

theorem foldl_keepTies (l : List α) :
    (l.foldl (keepTies f) (none, [])).2 = l.filter fun x => ∀ y ∈ l, f y ≤ f x := by
  rcases foldl_keepTies_aux f l with ⟨rfl, h⟩ | ⟨b, ⟨a, ha, hab⟩, hle, h⟩
  · rw [h]; rfl
  · rw [h]
    refine filter_congr fun x hx => decide_eq_decide.mpr ?_
    constructor
    · rintro rfl
      exact hle
    · exact fun hmax => le_antisymm (hle x hx) (hab ▸ hmax a ha)

variable {f}

/-! ## Making candidates along the way -/

section Scan

variable (make : α → σ → Option κ × σ) (score : κ → β)

/-- One turn of a loop that makes the candidate of `x`, if there is one, and keeps it
if it beats the incumbent.  The state moves on either way. -/
def scanStep (acc : Option κ × σ) (x : α) : Option κ × σ :=
  ((make x acc.2).1.elim acc.1 (keepFirst score acc.1), (make x acc.2).2)

def stateAfter (s : σ) (l : List α) : σ := l.foldl (fun s x => (make x s).2) s

def made : List α → σ → List κ
  | [], _ => []
  | x :: l, s => (make x s).1.toList ++ made l (make x s).2

theorem made_append (l m : List α) (s : σ) :
    made make (l ++ m) s = made make l s ++ made make m (stateAfter make s l) := by
  induction l generalizing s with
  | nil => rfl
  | cons x l ih =>
    rw [cons_append, made, ih, made, append_assoc]
    rfl

theorem foldl_scanStep_aux (l : List α) (best : Option κ) (s : σ) :
    l.foldl (scanStep make score) (best, s)
      = ((made make l s).foldl (keepFirst score) best, stateAfter make s l) := by
  induction l generalizing best s with
  | nil => rfl
  | cons x l ih =>
    rw [foldl_cons, scanStep, ih, made, foldl_append]
    cases (make x s).1 with
    | none => rfl
    | some c => rfl

theorem foldl_scanStep (l : List α) (s : σ) : l.foldl (scanStep make score) (none, s)
      = ((made make l s).argmax score, stateAfter make s l) := by
  rw [foldl_scanStep_aux, foldl_keepFirst]

variable {l : List α} {s : σ}

/-- **Two scans whose elements and candidates correspond** find the same candidate and end in the
same state. -/
theorem foldl_scanStep_map {α' κ' : Type*} {make' : α' → σ → Option κ' × σ} {score' : κ' → β}
    {g : α → α'} {k : κ → κ'}
    (hmake : ∀ x ∈ l, ∀ s, make' (g x) s = (make x s).map (Option.map k) id)
    (hscore : ∀ c, score' (k c) = score c) (acc : Option κ × σ) :
    (l.map g).foldl (scanStep make' score') (acc.map (Option.map k) id)
      = (l.foldl (scanStep make score) acc).map (Option.map k) id := by
  have hkeep : ∀ best c, keepFirst score' (Option.map k best) (k c)
      = (keepFirst score best c).map k := by
    intro best c
    cases best with
    | none => rfl
    | some b =>
      rw [Option.map_some, keepFirst, keepFirst, Option.any_some, Option.any_some, hscore, hscore]
      split <;> rfl
  induction l generalizing acc with
  | nil => rfl
  | cons x l ih =>
    have hstep : scanStep make' score' (acc.map (Option.map k) id) (g x)
        = (scanStep make score acc x).map (Option.map k) id := by
      rw [scanStep, scanStep, hmake x mem_cons_self]
      show ((Option.map k (make x acc.2).1).elim _ _, _) = (Option.map k (Option.elim _ _ _), _)
      cases (make x acc.2).1 with
      | none => rfl
      | some c => exact congrArg (·, (make x acc.2).2) (hkeep acc.1 c)
    rw [map_cons, foldl_cons, foldl_cons, hstep]
    exact ih (fun y hy => hmake y (mem_cons_of_mem _ hy)) _

variable {make score}

theorem foldl_scanStep_ext {make' : α → σ → Option κ × σ} (h : ∀ x ∈ l, make x = make' x)
    (acc : Option κ × σ) : l.foldl (scanStep make score) acc
        = l.foldl (scanStep make' score) acc := by
  refine foldl_ext _ _ _ fun acc x hx => ?_
  rw [scanStep, scanStep, h x hx]

theorem mem_made {c : κ} (h : c ∈ made make l s) :
    ∃ u x v, l = u ++ x :: v ∧ (make x (stateAfter make s u)).1 = some c := by
  induction l generalizing s with
  | nil => exact (not_mem_nil h).elim
  | cons x l ih =>
    rw [made, mem_append, Option.mem_toList] at h
    rcases h with h | h
    · exact ⟨[], x, l, rfl, h⟩
    · obtain ⟨u, y, v, rfl, hy⟩ := ih h
      exact ⟨x :: u, y, v, rfl, hy⟩

theorem map_made {π : κ → τ} {view : α → Option τ} (h : ∀ x ∈ l, ∀ s, (make x s).1.map π = view x) :
    (made make l s).map π = l.filterMap view := by
  induction l generalizing s with
  | nil => rfl
  | cons x l ih =>
    have hx := h x mem_cons_self s
    rw [made, map_append, ih fun y hy => h y (mem_cons_of_mem _ hy), filterMap_cons, ← hx]
    cases (make x s).1 with
    | none => rfl
    | some c => rfl

/-- **The winner of a scan, by position**: its candidate beats those made before it and is not
beaten by those made after it, whatever the state was. -/
theorem argmax_made_of_split {u v : List α} {x : α} {c : κ} (hl : l = u ++ x :: v)
    (hx : (make x (stateAfter make s u)).1 = some c)
    (hu : ∀ y ∈ u, ∀ s d, (make y s).1 = some d → score d < score c)
    (hv : ∀ y ∈ v, ∀ s d, (make y s).1 = some d → score d ≤ score c) :
    (made make l s).argmax score = some c := by
  subst hl
  rw [made_append, made, hx, argmax_eq_some_iff_split]
  refine ⟨made make u s, made make v (make x (stateAfter make s u)).2, rfl, ?_, ?_⟩
  · intro d hd
    obtain ⟨u', y, v', hu', hy⟩ := mem_made hd
    exact hu y (hu' ▸ mem_append_right _ mem_cons_self) _ _ hy
  · intro d hd
    obtain ⟨u', y, v', hv', hy⟩ := mem_made hd
    exact hv y (hv' ▸ mem_append_right _ mem_cons_self) _ _ hy

end Scan

/-! ## Making a candidate only when it would win -/

section Lazy

variable (score : α → β) (make : α → σ → Option ρ × σ) (acc : Option (α × ρ) × σ) (x : α)

/-- One turn of a loop that skips what cannot beat the incumbent, and passes over a
candidate that cannot be made. -/
def lazyStep : Option (α × ρ) × σ :=
  if acc.1.any (fun c => score x ≤ score c.1) then acc
  else ((make x acc.2).1.elim acc.1 fun r => some (x, r), (make x acc.2).2)

variable {score make}

variable {acc : Option (α × ρ) × σ} {l : List α}

variable (score make)

/-- One turn of a loop that skips what cannot beat the incumbent, and gives up
(`none`) on a candidate that cannot be made. -/
def strictStep (acc : Option (Option (α × ρ)) × σ) (x : α) : Option (Option (α × ρ)) × σ :=
  match acc.1 with
  | none => acc
  | some best =>
    if best.any (fun c => score x ≤ score c.1) then acc
    else ((make x acc.2).1.map fun r => some (x, r), (make x acc.2).2)

theorem strictStep_some (best : Option (α × ρ)) (s : σ) (x : α) :
    strictStep score make (some best, s) x =
      if best.any (fun c => score x ≤ score c.1) then (some best, s)
      else ((make x s).1.map fun r => some (x, r), (make x s).2) := rfl

theorem foldl_strictStep_none (l : List α) (s : σ) :
    l.foldl (strictStep score make) (none, s) = (none, s) := by
  induction l with
  | nil => rfl
  | cons x l ih => exact ih

theorem foldl_strictStep_aux {best b : Option (α × ρ)} {s : σ}
    (h : (l.foldl (strictStep score make) (some best, s)).1 = some b) :
    b.map Prod.fst = l.foldl (keepFirst score) (best.map Prod.fst) ∧
      ∀ c, b = some c → best = some c ∨ c.1 ∈ l ∧ ∃ s', (make c.1 s').1 = some c.2 := by
  induction l generalizing best s with
  | nil =>
    obtain rfl := Option.some.inj h
    exact ⟨rfl, fun c hc => .inl hc⟩
  | cons x l ih =>
    have hany : (best.map Prod.fst).any (fun c => score x ≤ score c)
        = best.any (fun c => score x ≤ score c.1) := by
      cases best <;> rfl
    rw [foldl_cons, strictStep_some] at h
    rw [foldl_cons, keepFirst, hany]
    by_cases hx : best.any (fun c => score x ≤ score c.1) = true
    · rw [if_pos hx] at h
      rw [if_pos hx]
      obtain ⟨hb, hc⟩ := ih h
      exact ⟨hb, fun c hbc => (hc c hbc).imp_right fun hm =>
        ⟨mem_cons_of_mem _ hm.1, hm.2⟩⟩
    · rw [if_neg hx] at h
      rw [if_neg hx]
      cases hm : (make x s).1 with
      | none =>
        simp only [hm, Option.map_none] at h
        rw [foldl_strictStep_none] at h
        cases h
      | some r =>
        simp only [hm, Option.map_some] at h
        obtain ⟨hb, hc⟩ := ih h
        refine ⟨hb, fun c hbc => ?_⟩
        rcases hc c hbc with hc | ⟨hcluster, hcs⟩
        · obtain rfl := Option.some.inj hc
          exact .inr ⟨mem_cons_self, s, hm⟩
        · exact .inr ⟨mem_cons_of_mem _ hcluster, hcs⟩

variable {score make}

/-- **A loop that did not give up found the first maximum of the whole list**, and
made its candidate. -/
theorem foldl_strictStep {b : Option (α × ρ)} {s : σ}
    (h : (l.foldl (strictStep score make) (some none, s)).1 = some b) :
    b.map Prod.fst = l.argmax score ∧
      ∀ c, b = some c → c.1 ∈ l ∧ ∃ s', (make c.1 s').1 = some c.2 := by
  obtain ⟨hb, hc⟩ := foldl_strictStep_aux score make h
  rw [Option.map_none, foldl_keepFirst] at hb
  refine ⟨hb, fun c hbc => ?_⟩
  rcases hc c hbc with hn | hc
  · cases hn
  · exact hc

end Lazy

end NantianGateway.Best
