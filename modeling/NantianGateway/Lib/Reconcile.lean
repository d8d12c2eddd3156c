import NantianGateway.Lib.Table

/-!
# Reconciling what runs with what is desired

Whatever runs under a key is kept, or it is stopped and started again as it is desired; the rest
of the desired values is started.  When something is kept is a parameter.  If no start fails, what
runs is what is desired, kept or new (`settled_of_placed`).
-/

namespace NantianGateway.Reconcile

open List BTreeMap

structure Plan (β : Type) where
  start : List β := []
  stop : List String := []

variable {α β : Type} (keep : String → α → β → Bool)

/-- One running value.  The map holds the desired values that nothing has been compared with. -/
def step (acc : BTreeMap β × Plan β) (running : String × α) : BTreeMap β × Plan β :=
  (acc.1.erase running.1,
    if (acc.1.get running.1).any (keep running.1 running.2) then acc.2
    else ⟨acc.2.start ++ (acc.1.get running.1).toList, acc.2.stop ++ [running.1]⟩)

variable (running : BTreeMap α)

def plan (desired : BTreeMap β) : Plan β :=
  let out := running.entries.foldl (step keep) (desired, {})
  ⟨out.2.start ++ out.1.values, out.2.stop⟩

/-- A value runs under the key and may stay there for the desired one. -/
def Kept (key : String) (next : β) : Prop :=
  ∃ value, running.get key = some value ∧ keep key value next = true

variable {keep}

theorem get_foldl_step (running : List (String × α)) (acc : BTreeMap β × Plan β) (key : String) :
    (running.foldl (step keep) acc).1.get key
      = if key ∈ running.map Prod.fst then none else acc.1.get key := by
  induction running generalizing acc with
  | nil => simp
  | cons first running ih =>
    rw [foldl_cons, ih, step, get_erase, map_cons]
    by_cases hkey : key = first.1 <;> by_cases hmem : key ∈ running.map Prod.fst <;>
      simp [hkey, hmem]

theorem foldl_step {running : List (String × α)} (hnodup : (running.map Prod.fst).Nodup)
    (desired : BTreeMap β) (updates : Plan β) :
    (∀ next, next ∈ (running.foldl (step keep) (desired, updates)).2.start ↔
      next ∈ updates.start ∨
        ∃ r ∈ running, desired.get r.1 = some next ∧ keep r.1 r.2 next = false) ∧
    ∀ key, key ∈ (running.foldl (step keep) (desired, updates)).2.stop ↔ key ∈ updates.stop ∨
        ∃ r ∈ running, r.1 = key ∧ (desired.get r.1).any (keep r.1 r.2) = false := by
  induction running generalizing desired updates with
  | nil => simp
  | cons first running ih =>
    rw [map_cons, nodup_cons] at hnodup
    have hother : ∀ r ∈ running, (desired.erase first.1).get r.1 = desired.get r.1 := by
      intro r hr
      have hne : r.1 ≠ first.1 := fun h => hnodup.1 (h ▸ mem_map_of_mem hr)
      rw [get_erase, if_neg hne]
    obtain ⟨hstart, hstop⟩ := ih hnodup.2 (desired.erase first.1)
      (if (desired.get first.1).any (keep first.1 first.2) then updates
        else ⟨updates.start ++ (desired.get first.1).toList, updates.stop ++ [first.1]⟩)
    rw [foldl_cons, step]
    refine ⟨fun next => ?_, fun key => ?_⟩
    · rw [hstart, exists_mem_cons_iff]
      have hrest : (∃ r ∈ running, (desired.erase first.1).get r.1 = some next ∧
            keep r.1 r.2 next = false) ↔
          ∃ r ∈ running, desired.get r.1 = some next ∧ keep r.1 r.2 next = false :=
        exists_congr fun r => and_congr_right fun hr => by rw [hother r hr]
      rw [hrest, ← or_assoc]
      refine or_congr_left ?_
      cases hget : desired.get first.1 with
      | none => simp
      | some value =>
        cases hkeep : keep first.1 first.2 value with
        | true =>
          simp only [Option.any_some, hkeep, if_true, Option.some.injEq, iff_self_or]
          rintro ⟨rfl, hfalse⟩
          rw [hkeep] at hfalse
          cases hfalse
        | false =>
          simp only [Option.any_some, hkeep, Bool.false_eq_true, if_false, Option.toList_some,
            mem_append, mem_singleton, Option.some.injEq]
          refine or_congr_right ⟨?_, fun h => h.1.symm⟩
          rintro rfl
          exact ⟨rfl, hkeep⟩
    · rw [hstop, exists_mem_cons_iff]
      have hrest : (∃ r ∈ running, r.1 = key ∧
            ((desired.erase first.1).get r.1).any (keep r.1 r.2) = false) ↔
          ∃ r ∈ running, r.1 = key ∧ (desired.get r.1).any (keep r.1 r.2) = false :=
        exists_congr fun r => and_congr_right fun hr => by rw [hother r hr]
      rw [hrest, ← or_assoc]
      refine or_congr_left ?_
      cases (desired.get first.1).any (keep first.1 first.2) <;> simp [eq_comm]

variable {running : BTreeMap α} {desired : BTreeMap β}

theorem mem_start_iff {next : β} :
    next ∈ (plan keep running desired).start ↔
      ∃ key, desired.get key = some next ∧ ¬ Kept keep running key next := by
  rw [plan, mem_append, (foldl_step running.nodup_keys desired {}).1, mem_values_iff]
  simp only [get_foldl_step, mem_keys_iff, not_mem_nil, false_or]
  constructor
  · rintro (⟨⟨key, value⟩, hrun, hget, hkeep⟩ | ⟨key, hkey⟩)
    · refine ⟨key, hget, ?_⟩
      rintro ⟨value', hrun', hkeep'⟩
      obtain rfl := Option.some.inj ((get_eq_some_iff.mpr hrun).symm.trans hrun')
      rw [hkeep] at hkeep'
      cases hkeep'
    · split at hkey
      · cases hkey
      · next hnone =>
        refine ⟨key, hkey, ?_⟩
        rintro ⟨value, hrun, -⟩
        rw [hrun] at hnone
        exact hnone rfl
  · rintro ⟨key, hget, hkept⟩
    cases hrun : running.get key with
    | none => exact .inr ⟨key, by simp [hrun, hget]⟩
    | some value =>
      refine .inl ⟨(key, value), get_eq_some_iff.mp hrun, hget, ?_⟩
      by_contra hkeep
      exact hkept ⟨value, hrun, by simpa using hkeep⟩

theorem mem_stop_iff {key : String} :
    key ∈ (plan keep running desired).stop ↔ ∃ value, running.get key = some value ∧
      ∀ next, desired.get key = some next → keep key value next = false := by
  rw [plan, (foldl_step running.nodup_keys desired {}).2]
  simp only [not_mem_nil, false_or]
  constructor
  · rintro ⟨⟨key', value⟩, hrun, rfl, hany⟩
    refine ⟨value, get_eq_some_iff.mpr hrun, fun next hget => ?_⟩
    rw [hget] at hany
    exact hany
  · rintro ⟨value, hrun, hkeep⟩
    refine ⟨(key, value), get_eq_some_iff.mp hrun, rfl, ?_⟩
    cases hget : desired.get key with
    | none => rfl
    | some next => exact hkeep next hget

/-- Where everything desired is kept and nothing else runs, there is nothing to do. -/
theorem plan_eq_nil (hnone : ∀ key, desired.get key = none → running.get key = none)
    (hkept : ∀ key next, desired.get key = some next → Kept keep running key next) :
    (plan keep running desired).start = [] ∧ (plan keep running desired).stop = [] := by
  simp only [eq_nil_iff_forall_not_mem, mem_start_iff, mem_stop_iff]
  refine ⟨fun next ⟨key, hget, hnot⟩ => hnot (hkept key next hget), ?_⟩
  rintro key ⟨value, hrun, hkeep⟩
  cases hget : desired.get key with
  | none => cases hrun.symm.trans (hnone key hget)
  | some next =>
    obtain ⟨_, hrun', htrue⟩ := hkept key next hget
    obtain rfl := Option.some.inj (hrun.symm.trans hrun')
    cases htrue.symm.trans (hkeep next hget)

/-! ## Carrying a plan out -/

variable {γ : Type} {address : β → String} {New : β → γ → Prop}

/-- The key of one of the values has something new for it, or no value belongs there and the key has
what it had. -/
def Placed (address : β → String) (New : β → γ → Prop) (start : List β) (key : String)
    (before out : Option γ) : Prop :=
  (∃ next ∈ start, address next = key ∧ ∃ server, New next server ∧ out = some server) ∨
    (∀ next ∈ start, address next ≠ key) ∧ out = before

theorem placed_foldl {σ : Type} {begin : σ → β → σ} {tasks : σ → BTreeMap γ} {Fine : σ → Prop}
    {start : List β}
    (hbegin : ∀ st, ∀ next ∈ start, Fine (begin st next) → Fine st ∧ ∃ server, New next server ∧
      tasks (begin st next) = (tasks st).insert (address next) server)
    {st : σ} (h : Fine (start.foldl begin st)) :
    Fine st ∧ ∀ key, Placed address New start key ((tasks st).get key)
      ((tasks (start.foldl begin st)).get key) := by
  induction start generalizing st with
  | nil => exact ⟨h, fun key => .inr ⟨fun _ hmem => absurd hmem not_mem_nil, rfl⟩⟩
  | cons first start ih =>
    rw [foldl_cons] at h ⊢
    obtain ⟨hfirst, hrest⟩ := ih (fun st next hmem => hbegin st next (mem_cons_of_mem _ hmem)) h
    obtain ⟨hst, server, hserver, htasks⟩ := hbegin st first mem_cons_self hfirst
    refine ⟨hst, fun key => ?_⟩
    rcases hrest key with ⟨next, hmem, hnext⟩ | ⟨hother, hget⟩
    · exact .inl ⟨next, mem_cons_of_mem _ hmem, hnext⟩
    · rw [htasks, get_insert] at hget
      by_cases heq : key = address first
      · rw [if_pos heq] at hget
        exact .inl ⟨first, mem_cons_self, heq.symm, server, hserver, hget⟩
      · rw [if_neg heq] at hget
        exact .inr ⟨forall_mem_cons.mpr ⟨Ne.symm heq, hother⟩, hget⟩

/-- **What runs is what is desired**: what was kept, and something new for everything else. -/
structure Settled (keep : String → α → β → Bool) (New : β → γ → Prop) (running : BTreeMap α)
    (desired : BTreeMap β) (tasks out : BTreeMap γ) : Prop where
  undesired : ∀ key, desired.get key = none → out.get key = none
  kept : ∀ key next, desired.get key = some next → Kept keep running key next →
    out.get key = tasks.get key
  started : ∀ key next, desired.get key = some next → ¬ Kept keep running key next →
    ∃ server, out.get key = some server ∧ New next server

theorem settled_of_placed {tasks out : BTreeMap γ}
    (hfiled : ∀ key next, desired.get key = some next → address next = key)
    (hrunning : ∀ key, running.get key = none → tasks.get key = none)
    (h : ∀ key, Placed address New (plan keep running desired).start key
      (if key ∈ (plan keep running desired).stop then none else tasks.get key) (out.get key)) :
    Settled keep New running desired tasks out := by
  -- a value that was to be started is the one that is desired under its key
  have hstart : ∀ next ∈ (plan keep running desired).start,
      desired.get (address next) = some next ∧ ¬ Kept keep running (address next) next := by
    intro next hmem
    obtain ⟨key, hget, hkept⟩ := mem_start_iff.mp hmem
    obtain rfl := hfiled key next hget
    exact ⟨hget, hkept⟩
  refine ⟨fun key hnone => ?_, fun key next hnext hkept => ?_, fun key next hnext hkept => ?_⟩
  · rcases h key with ⟨next, hmem, rfl, -⟩ | ⟨-, hget⟩
    · cases hnone.symm.trans (hstart next hmem).1
    · rw [hget, ite_eq_left_iff]
      intro hstop
      refine hrunning key (Option.eq_none_iff_forall_ne_some.mpr fun value hrun => ?_)
      exact hstop (mem_stop_iff.mpr ⟨value, hrun, fun next hnext =>
        by cases hnone.symm.trans hnext⟩)
  · rcases h key with ⟨other, hmem, rfl, -⟩ | ⟨-, hget⟩
    · obtain rfl := Option.some.inj (hnext.symm.trans (hstart other hmem).1)
      exact absurd hkept (hstart next hmem).2
    · rw [hget, if_neg]
      intro hstop
      obtain ⟨value, hrun, hkeep⟩ := hkept
      obtain ⟨other, hother, hnot⟩ := mem_stop_iff.mp hstop
      obtain rfl := Option.some.inj (hrun.symm.trans hother)
      cases hkeep.symm.trans (hnot next hnext)
  · rcases h key with ⟨other, hmem, rfl, server, hnew, hget⟩ | ⟨hother, -⟩
    · obtain rfl := Option.some.inj (hnext.symm.trans (hstart other hmem).1)
      exact ⟨server, hget, hnew⟩
    · exact absurd (hfiled key next hnext) (hother next (mem_start_iff.mpr ⟨key, hnext, hkept⟩))

/-! ## Values that know their keys -/

/-- A map in which every value is filed under its own key. -/
structure Filed (address : α → String) where
  toMap : BTreeMap α
  filed : ∀ key value, toMap.get key = some value → address value = key

/-- Stop what is to be stopped, then start what is to be started. -/
def carryOut (address : α → String) (running : BTreeMap α) (updates : Plan α) : BTreeMap α :=
  updates.start.foldl (fun out next => out.insert (address next) next)
    (updates.stop.foldl erase running)

/-- **The updates are right**: they lead to what is desired, restart what has ended by itself, touch
nothing that runs as it should, and start nothing beside what still runs. -/
structure Reconciled (address : α → String) (same : α → α → Prop) (finished : List String)
    (force : Bool) (running desired : BTreeMap α) (updates : Plan α) : Prop where
  result : ∀ key, (carryOut address running updates).get key = desired.get key
  restarted : ∀ key ∈ finished, ∀ value next, running.get key = some value →
    desired.get key = some next → key ∈ updates.stop ∧ next ∈ updates.start
  untouched : force = false → ∀ key ∉ finished, ∀ value next, running.get key = some value →
    desired.get key = some next → same value next →
      key ∉ updates.stop ∧ ∀ other ∈ updates.start, address other ≠ key
  started : ∀ next ∈ updates.start, address next ∈ updates.stop ∨ running.get (address next) = none

theorem reconciled_plan {address : α → String} {same : α → α → Prop} {finished : List String}
    {force : Bool} {keep : String → α → α → Bool} (running desired : Filed address)
    (hkeep : ∀ key value next, keep key value next = true ↔
      force = false ∧ key ∉ finished ∧ same value next)
    (hsame : ∀ value next, address value = address next → same value next → value = next) :
    Reconciled address same finished force running.toMap desired.toMap
      (plan keep running.toMap desired.toMap) := by
  have hplaced := (@placed_foldl _ _ address (fun next server => server = next) _
    (fun out next => out.insert (address next) next) id (fun _ => True)
    (plan keep running.toMap desired.toMap).start (fun _ next _ _ => ⟨trivial, next, rfl, rfl⟩)
    ((plan keep running.toMap desired.toMap).stop.foldl erase running.toMap) trivial).2
  simp only [id_eq, get_foldl_erase] at hplaced
  have hsettled := settled_of_placed desired.filed (fun _ hnone => hnone) hplaced
  refine ⟨fun key => ?_, fun key hkey value next hrun hnext => ⟨?_, ?_⟩,
    fun hforce key hkey value next hrun hnext halike => ⟨fun hstop => ?_, ?_⟩, fun next hmem => ?_⟩
  · cases hnext : desired.toMap.get key with
    | none => exact hsettled.undesired key hnext
    | some next =>
      by_cases hkept : Kept keep running.toMap key next
      · obtain ⟨value, hrun, halike⟩ := hkept
        obtain rfl := hsame value next ((running.filed key value hrun).trans
          (desired.filed key next hnext).symm) ((hkeep key value next).mp halike).2.2
        exact (hsettled.kept key value hnext ⟨value, hrun, halike⟩).trans hrun
      · obtain ⟨server, hserver, rfl⟩ := hsettled.started key next hnext hkept
        exact hserver
  · refine mem_stop_iff.mpr ⟨value, hrun, fun other _ => Bool.eq_false_iff.mpr fun htrue => ?_⟩
    exact ((hkeep key value other).mp htrue).2.1 hkey
  · refine mem_start_iff.mpr ⟨key, hnext, ?_⟩
    rintro ⟨other, -, htrue⟩
    exact ((hkeep key other next).mp htrue).2.1 hkey
  · obtain ⟨other, hother, hall⟩ := mem_stop_iff.mp hstop
    obtain rfl := Option.some.inj (hrun.symm.trans hother)
    exact Bool.false_ne_true ((hall next hnext).symm.trans
      ((hkeep key value next).mpr ⟨hforce, hkey, halike⟩))
  · rintro other hmem rfl
    obtain ⟨key, hother, hnot⟩ := mem_start_iff.mp hmem
    obtain rfl := desired.filed key other hother
    obtain rfl := Option.some.inj (hnext.symm.trans hother)
    exact hnot ⟨value, hrun, (hkeep _ value next).mpr ⟨hforce, hkey, halike⟩⟩
  · obtain ⟨key, hnext, hnot⟩ := mem_start_iff.mp hmem
    obtain rfl := desired.filed key next hnext
    cases hrun : running.toMap.get (address next) with
    | none => exact .inr rfl
    | some value =>
      refine .inl (mem_stop_iff.mpr ⟨value, hrun, fun other hother => ?_⟩)
      obtain rfl := Option.some.inj (hnext.symm.trans hother)
      exact Bool.eq_false_iff.mpr fun htrue => hnot ⟨value, hrun, htrue⟩

end NantianGateway.Reconcile
