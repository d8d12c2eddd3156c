import Mathlib.Data.List.Nodup
import Mathlib.Data.String.Basic

/-!
# Finite maps

`Table` is a hash map that is built once and then only looked up: a function from keys to optional
values, with the three ways a program fills one --- overwrite (`insert`), keep the first
(`orInsert`), and append to a list (`push`).

`BTreeMap` is an ordered map that is also iterated: the list of its entries, carrying the proof
that the keys increase.
-/

namespace NantianGateway

open List Option

/-! ## Hash maps -/

/-- A hash map, read as the function that looks a key up. -/
abbrev Table (κ ν : Type*) := κ → Option ν

namespace Table

variable {κ ν : Type*} [DecidableEq κ]

def empty : Table κ ν := fun _ => none

/-- `HashMap::insert`: the new value replaces the old one. -/
def insert (m : Table κ ν) (k : κ) (v : ν) : Table κ ν :=
  fun k' => if k' = k then some v else m k'

/-- `HashMap::remove`. -/
def erase (m : Table κ ν) (k : κ) : Table κ ν := fun k' => if k' = k then none else m k'

/-- `entry(k).or_insert(v)`: the old value, if there is one, stays. -/
def orInsert (m : Table κ ν) (k : κ) (v : ν) : Table κ ν :=
  fun k' => if k' = k then some ((m k).getD v) else m k'

/-- `entry(k).or_default().push(v)`. -/
def push (m : Table κ (List ν)) (k : κ) (v : ν) : Table κ (List ν) :=
  m.insert k ((m k).getD [] ++ [v])

/-- A map collected from an iterator of entries: a later entry replaces an
earlier one. -/
def ofEntries (l : List (κ × ν)) : Table κ ν := l.foldl (fun m e => m.insert e.1 e.2) empty

/-- A map filled by `orInsert`: an earlier entry stays. -/
def ofFirst (l : List (κ × ν)) : Table κ ν := l.foldl (fun m e => m.orInsert e.1 e.2) empty

/-- A map of lists collected by pushing. -/
def pushAll (l : List (κ × ν)) : Table κ (List ν) := l.foldl (fun m e => m.push e.1 e.2) empty

omit [DecidableEq κ] in
@[simp] theorem empty_apply (k : κ) : (empty : Table κ ν) k = none := rfl

variable (m : Table κ ν)

theorem insert_apply (k k' : κ) (v : ν) : m.insert k v k' = if k' = k then some v else m k' := rfl

theorem of_erase_eq_some {m : Table κ ν} {k k' : κ} {v : ν} (h : m.erase k k' = some v) :
    m k' = some v := by
  rw [erase] at h
  split at h
  · cases h
  · exact h

theorem of_insert_eq_some {m : Table κ ν} {k k' : κ} {v v' : ν}
    (h : m.insert k v k' = some v') : (k' = k ∧ v' = v) ∨ m k' = some v' := by
  rw [insert_apply] at h
  split at h
  next hk => exact .inl ⟨hk, (Option.some.inj h).symm⟩
  next => exact .inr h

variable (l : List (κ × ν)) (k : κ)

theorem foldl_insert_apply : (l.foldl (fun m e => m.insert e.1 e.2) m) k
      = ((l.reverse.find? fun e => e.1 = k).map Prod.snd).or (m k) := by
  induction l generalizing m with
  | nil => rfl
  | cons e l ih =>
    rw [foldl_cons, ih, reverse_cons, find?_append]
    cases h : l.reverse.find? fun e => e.1 = k with
    | some e' => simp
    | none =>
      by_cases hk : e.1 = k
      · simp [insert_apply, hk]
      · simp [insert_apply, hk, Ne.symm hk]

theorem ofEntries_apply : ofEntries l k = (l.reverse.find? fun e => e.1 = k).map Prod.snd := by
  rw [ofEntries, foldl_insert_apply, empty_apply, or_none]

/-- Entries of one key that agree can be read off from any of them. -/
theorem ofEntries_of_agree {α : Type*} {l : List α} {key : α → κ} (f : α → Option ν) {a : α}
    (ha : a ∈ l) (hagree : ∀ x ∈ l, key x = key a → f x = f a) :
    ofEntries (l.filterMap fun x => (f x).map fun v => (key x, v)) (key a) = f a := by
  rw [ofEntries_apply]
  cases hfind : (l.filterMap fun x => (f x).map fun v => (key x, v)).reverse.find?
      fun e => e.1 = key a with
  | none =>
    cases hv : f a with
    | none => rfl
    | some v =>
      have hin : (key a, v) ∈ l.filterMap fun x => (f x).map fun v => (key x, v) :=
        mem_filterMap.mpr ⟨a, ha, by rw [hv]; rfl⟩
      exact (find?_eq_none.mp hfind _ (mem_reverse.mpr hin) (by simp)).elim
  | some e =>
    have hkey := find?_some hfind
    obtain ⟨x, hx, hentry⟩ :=
      mem_filterMap.mp (mem_reverse.mp (mem_of_find?_eq_some hfind))
    obtain ⟨v, hv, rfl⟩ := map_eq_some_iff.mp hentry
    rw [← hagree x hx (of_decide_eq_true hkey), hv]
    rfl

theorem foldl_orInsert_apply : (l.foldl (fun m e => m.orInsert e.1 e.2) m) k
      = (m k).or ((l.find? fun e => e.1 = k).map Prod.snd) := by
  induction l generalizing m with
  | nil => simp
  | cons e l ih =>
    rw [foldl_cons, ih]
    by_cases hk : e.1 = k
    · subst hk
      cases hm : m e.1 with
      | none | some v => simp [orInsert, hm]
    · simp [orInsert, hk, Ne.symm hk]

theorem ofFirst_apply : ofFirst l k = (l.find? fun e => e.1 = k).map Prod.snd := by
  rw [ofFirst, foldl_orInsert_apply, empty_apply, none_or]

def valuesAt (k : κ) : List ν := (l.filter fun e => e.1 = k).map Prod.snd

theorem mem_valuesAt {l : List (κ × ν)} {k : κ} {v : ν} : v ∈ valuesAt l k ↔ (k, v) ∈ l := by
  rw [valuesAt, List.mem_map]
  constructor
  · rintro ⟨⟨k', v'⟩, h, rfl⟩
    rw [mem_filter, decide_eq_true_eq] at h
    obtain ⟨h, rfl⟩ := h
    exact h
  · intro h
    exact ⟨(k, v), mem_filter.mpr ⟨h, by simp⟩, rfl⟩

theorem valuesAt_cons (e : κ × ν) (l : List (κ × ν)) (k : κ) :
    valuesAt (e :: l) k = if e.1 = k then e.2 :: valuesAt l k else valuesAt l k := by
  by_cases hk : e.1 = k
  · simp [valuesAt, hk]
  · simp [valuesAt, hk]

theorem foldl_push_apply (m : Table κ (List ν)) (k : κ) : (l.foldl (fun m e => m.push e.1 e.2) m) k
      = if valuesAt l k = [] then m k else some ((m k).getD [] ++ valuesAt l k) := by
  induction l generalizing m with
  | nil => rfl
  | cons e l ih =>
    rw [foldl_cons, ih, push, insert_apply, valuesAt_cons]
    by_cases hk : e.1 = k
    · subst hk
      rw [if_pos rfl, if_pos rfl, if_neg (cons_ne_nil _ _), getD_some]
      by_cases hl : valuesAt l e.1 = []
      · rw [if_pos hl, hl]
      · rw [if_neg hl, append_assoc, singleton_append]
    · rw [if_neg hk, if_neg (Ne.symm hk)]

/-- **A pushed map holds the values of a key, in order**, and nothing for a key
that was never pushed. -/
theorem pushAll_apply : pushAll l k = if valuesAt l k = [] then none else some (valuesAt l k) := by
  rw [pushAll, foldl_push_apply, empty_apply, getD_none, nil_append]

theorem any_mem_pushAll [DecidableEq ν] (v : ν) :
    ((pushAll l k).any fun values => decide (v ∈ values)) = true ↔ (k, v) ∈ l := by
  rw [pushAll_apply, ← mem_valuesAt]
  by_cases h : valuesAt l k = []
  · simp [h]
  · simp [h]

theorem pushAll_getD : (pushAll l k).getD [] = valuesAt l k := by
  rw [pushAll_apply]
  by_cases h : valuesAt l k = []
  · rw [if_pos h, h, getD_none]
  · rw [if_neg h, getD_some]

end Table

/-! ## Ordered maps -/

/-- An ordered map from strings: its entries in key order. -/
structure BTreeMap (ν : Type) where
  /-- The entries, in the order an iterator visits them. -/
  entries : List (String × ν)
  /-- The keys increase, so no key occurs twice. -/
  sorted : entries.Pairwise fun a b => a.1 < b.1
  deriving DecidableEq

namespace BTreeMap

variable {ν : Type}

def empty : BTreeMap ν := ⟨[], List.Pairwise.nil⟩

def get (m : BTreeMap ν) (k : String) : Option ν :=
  (m.entries.find? fun e => e.1 = k).map Prod.snd

def values (m : BTreeMap ν) : List ν := m.entries.map Prod.snd

variable {m : BTreeMap ν} {k : String} {v : ν}

theorem mem_values_of_get (h : m.get k = some v) : v ∈ m.values := by
  obtain ⟨e, he, rfl⟩ := map_eq_some_iff.mp h
  exact mem_map_of_mem (mem_of_find?_eq_some he)

theorem get_eq_some_iff : m.get k = some v ↔ (k, v) ∈ m.entries := by
  obtain ⟨l, hl⟩ := m
  simp only [get]
  induction l with
  | nil => simp
  | cons e l ih =>
    obtain ⟨he, hl'⟩ := pairwise_cons.mp hl
    rw [find?_cons]
    by_cases hk : e.1 = k
    · simp only [hk, decide_true, map_some, Option.some.injEq, mem_cons]
      constructor
      · rintro rfl
        exact Or.inl (by rw [← hk])
      · rintro (h | h)
        · rw [← h]
        · exact absurd (he _ h) (by rw [hk]; exact lt_irrefl k)
    · have hne : ¬ (k, v) = e := fun h => hk (by rw [← h])
      simp only [hk, decide_false, mem_cons, hne, false_or]
      exact ih hl'

def alterList (k : String) (f : Option ν → ν) : List (String × ν) → List (String × ν)
  | [] => [(k, f none)]
  | e :: l =>
    if k < e.1 then (k, f none) :: e :: l
    else if k = e.1 then (k, f (some e.2)) :: l
    else e :: alterList k f l

variable {l : List (String × ν)} {f : Option ν → ν}

theorem lt_of_mem_alterList {b : String} (hb : b < k)
    (hl : ∀ e ∈ l, b < e.1) : ∀ e ∈ alterList k f l, b < e.1 := by
  induction l with
  | nil =>
    intro e he
    rw [alterList, mem_singleton] at he
    rw [he]
    exact hb
  | cons d l ih =>
    intro e he
    rw [alterList] at he
    have hl' : ∀ e ∈ l, b < e.1 := fun e he => hl e (mem_cons_of_mem _ he)
    split_ifs at he with h1 h2
    · rcases mem_cons.mp he with rfl | he
      · exact hb
      · exact hl e he
    · rcases mem_cons.mp he with rfl | he
      · exact hb
      · exact hl' e he
    · rcases mem_cons.mp he with rfl | he
      · exact hl e mem_cons_self
      · exact ih hl' e he

theorem sorted_alterList (h : l.Pairwise fun a b => a.1 < b.1) :
    (alterList k f l).Pairwise fun a b => a.1 < b.1 := by
  induction l with
  | nil => exact pairwise_singleton _ _
  | cons e l ih =>
    obtain ⟨he, hl⟩ := pairwise_cons.mp h
    rw [alterList]
    split_ifs with h1 h2
    · refine pairwise_cons.mpr ⟨fun d hd => ?_, h⟩
      rcases mem_cons.mp hd with rfl | hd
      · exact h1
      · exact lt_trans h1 (he d hd)
    · exact pairwise_cons.mpr ⟨fun d hd => h2 ▸ he d hd, hl⟩
    · have hlt : e.1 < k := lt_of_le_of_ne (not_lt.mp h1) fun hk => h2 hk.symm
      exact pairwise_cons.mpr ⟨lt_of_mem_alterList hlt he, ih hl⟩

variable (m)

def alter (k : String) (f : Option ν → ν) : BTreeMap ν :=
  ⟨alterList k f m.entries, sorted_alterList m.sorted⟩

/-- `entry(k).or_default().push(v)`. -/
def push (m : BTreeMap (List ν)) (k : String) (v : ν) : BTreeMap (List ν) :=
  m.alter k fun old => old.getD [] ++ [v]

def insert (k : String) (v : ν) : BTreeMap ν := m.alter k fun _ => v

def erase (k : String) : BTreeMap ν :=
  ⟨m.entries.filter fun e => e.1 ≠ k, m.sorted.filter _⟩

theorem get_alter (k k' : String) (f : Option ν → ν) :
    (m.alter k f).get k' = if k' = k then some (f (m.get k)) else m.get k' := by
  obtain ⟨l, hl⟩ := m
  simp only [alter, get]
  induction l with
  | nil =>
    rw [alterList]
    by_cases hk : k' = k
    · simp [hk]
    · simp [hk, Ne.symm hk]
  | cons e l ih =>
    obtain ⟨he, hl'⟩ := pairwise_cons.mp hl
    rw [alterList]
    by_cases h1 : k < e.1
    · -- the key comes before all that are there
      have hnone : (e :: l).find? (fun d => decide (d.1 = k)) = none := by
        rw [find?_eq_none]
        intro d hd
        rcases mem_cons.mp hd with rfl | hd
        · simpa using h1.ne'
        · simpa using (lt_trans h1 (he d hd)).ne'
      rw [if_pos h1, hnone, find?_cons]
      by_cases hk : k' = k
      · simp [hk]
      · simp [hk, Ne.symm hk]
    · rw [if_neg h1]
      by_cases h2 : k = e.1
      · rw [if_pos h2, find?_cons, find?_cons, find?_cons]
        by_cases hk : k' = k
        · simp [hk, h2]
        · simp [hk, Ne.symm hk, ← h2]
      · rw [if_neg h2, find?_cons, find?_cons, find?_cons]
        by_cases hk : e.1 = k'
        · have hne : k' ≠ k := fun h => h2 (by rw [← h, hk])
          simp [hk, hne]
        · simp only [hk, Ne.symm h2, decide_false]
          exact ih hl'

theorem get_erase (k k' : String) : (m.erase k).get k' = if k' = k then none else m.get k' := by
  rw [get, erase, get, find?_filter]
  split_ifs with hk
  · rw [map_eq_none_iff, find?_eq_none]
    intro e _
    simp [hk]
  · congr 2
    funext e
    by_cases he : e.1 = k'
    · simp [he, hk]
    · simp [he]

theorem get_insert (k k' : String) (v : ν) :
    (m.insert k v).get k' = if k' = k then some v else m.get k' :=
  m.get_alter k k' fun _ => v

theorem get_foldl_erase (keys : List String) (m : BTreeMap ν) (k : String) :
    (keys.foldl erase m).get k = if k ∈ keys then none else m.get k := by
  induction keys generalizing m with
  | nil => simp
  | cons key keys ih =>
    rw [foldl_cons, ih, get_erase]
    by_cases hkey : k = key <;> by_cases hmem : k ∈ keys <;> simp [hkey, hmem]

def map {μ : Type} (f : ν → μ) (m : BTreeMap ν) : BTreeMap μ :=
  ⟨m.entries.map fun e => (e.1, f e.2), pairwise_map.mpr m.sorted⟩

theorem get_map {μ : Type} (f : ν → μ) (m : BTreeMap ν) (k : String) :
    (m.map f).get k = (m.get k).map f := by
  rw [get, map, find?_map, get, Option.map_map, Option.map_map]
  rfl

theorem nodup_keys : (m.entries.map Prod.fst).Nodup :=
  pairwise_map.mpr (m.sorted.imp fun hlt => ne_of_lt hlt)

variable {m}

theorem mem_keys_iff : k ∈ m.entries.map Prod.fst ↔ (m.get k).isSome = true := by
  rw [List.mem_map, isSome_iff_exists]
  constructor
  · rintro ⟨e, he, rfl⟩
    exact ⟨e.2, get_eq_some_iff.mpr he⟩
  · rintro ⟨v, hv⟩
    exact ⟨(k, v), get_eq_some_iff.mp hv, rfl⟩

theorem mem_values_iff : v ∈ m.values ↔ ∃ k, m.get k = some v := by
  constructor
  · intro h
    obtain ⟨e, he, rfl⟩ := List.mem_map.mp h
    exact ⟨e.1, get_eq_some_iff.mpr he⟩
  · rintro ⟨k, hk⟩
    exact mem_values_of_get hk

end BTreeMap
end NantianGateway
