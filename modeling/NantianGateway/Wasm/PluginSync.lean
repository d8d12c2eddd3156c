import NantianGateway.Wasm.PluginManager

/-!
# What `diff_and_apply` leaves, and what it counts

Whether a plugin was there before is asked when it has been loaded, so **no plugin is ever counted
as loaded**.  And since a digest says nothing about configuration, hooks and limits, a plugin may be
left as it is though it is desired otherwise.
-/

namespace NantianGateway.Wasm

open List Option

variable {Json : Type} {engine : Engine} {origin : String → List UInt8} {disks : ℕ → Disk}
  {manager : PluginManager Json} {specs : List (WasmPluginSpec Json)} {spec : WasmPluginSpec Json}

def sameContents [DecidableEq Json] (manager : PluginManager Json) (spec : WasmPluginSpec Json) :
    Bool :=
  (manager.plugins.get spec.name).any fun existing => existing.contents = spec.contents

/-- **The plugins are the desired ones**, and the counts are of the names that are new, of those
that are loaded otherwise and as before, and of those that are gone. -/
structure Reconciled [DecidableEq Json] (before : PluginManager Json)
    (specs : List (WasmPluginSpec Json)) (out : SyncCounts × PluginManager Json) : Prop where
  undesired : ∀ name ∉ specs.map (·.name), out.2.plugins.get name = none
  desired : ∀ spec ∈ specs, (out.2.plugins.get spec.name).map (·.contents) = some spec.contents
  counts : out.1 = ⟨specs.countP fun spec => (before.plugins.get spec.name).isNone,
      specs.countP fun spec => (before.plugins.get spec.name).isSome && !sameContents before spec,
      specs.countP (sameContents before),
      ((before.plugins.entries.map Prod.fst).filter fun name => name ∉ specs.map (·.name)).length⟩

/-- The modules on disk are kept under the digests of what they were compiled from.  A digest is of
one sequence of bytes only, its `origin`. -/
def Digested (origin : String → List UInt8) (cache : Table String (List UInt8)) : Prop :=
  ∀ sha bytes, cache sha = some bytes → bytes = origin sha

/-- The plugin can be loaded, and its digest, if it is given, is that of its bytes. -/
structure Loads (engine : Engine) (origin : String → List UInt8) (spec : WasmPluginSpec Json) :
    Prop where
  size : spec.contents.wasmBytes.length ≤ maxWasmModuleBytes
  compiled : engine.fromBinary spec.contents.wasmBytes = .ok ()
  linked : engine.instantiatePre spec.contents.wasmBytes = .ok ()
  digest : ∀ sha, spec.sha256 = some sha → spec.contents.wasmBytes = origin sha

def synced (manager : PluginManager Json) (spec : WasmPluginSpec Json) :
    Option (LoadedPlugin Json) :=
  if unchanged manager spec then manager.plugins.get spec.name
  else some ⟨spec.contents, spec.sha256⟩

theorem loadModule_of_loads (h : Loads engine origin spec) {cache : Table String (List UInt8)}
    (hcache : Digested origin cache) (disk : Disk) :
    ∃ after, loadModule engine disk cache spec = (.ok spec.contents.wasmBytes, after) ∧
      Digested origin after := by
  rw [loadModule]
  split
  · next cached hcached =>
    obtain ⟨sha, hsha, hread⟩ := bind_eq_some_iff.mp hcached
    rw [ite_none_right_eq_some] at hread
    have hbytes : cached = spec.contents.wasmBytes :=
      (hcache sha cached hread.2).trans (h.digest sha hsha).symm
    exact ⟨cache, by rw [hbytes], hcache⟩
  · rw [h.compiled]
    refine ⟨_, rfl, ?_⟩
    split
    · next sha hsha =>
      split
      · intro sha' bytes hbytes
        rcases Table.of_insert_eq_some hbytes with ⟨rfl, rfl⟩ | hbytes
        · exact h.digest _ hsha
        · exact hcache sha' bytes hbytes
      · exact hcache
    · exact hcache

theorem syncStep_of_loads (h : Loads engine origin spec) {acc : SyncCounts × PluginManager Json}
    (hcache : Digested origin acc.2.cache) (i : ℕ) :
    (syncStep engine disks acc (spec, i)).1 =
        ⟨acc.1.loaded, acc.1.updated + [spec].countP (!unchanged acc.2 ·),
          acc.1.skipped + [spec].countP (unchanged acc.2), acc.1.unloaded⟩ ∧
      (∀ name, (syncStep engine disks acc (spec, i)).2.plugins.get name =
        if name = spec.name then synced acc.2 spec else acc.2.plugins.get name) ∧
      Digested origin (syncStep engine disks acc (spec, i)).2.cache := by
  have hsize := Nat.not_lt.mpr h.size
  cases hsame : unchanged acc.2 spec with
  | true =>
    rw [syncStep, loadOrUpdate, if_neg hsize, hsame, if_pos rfl, synced, if_pos hsame]
    refine ⟨by simp [hsame], fun name => ?_, hcache⟩
    split_ifs with hname
    · rw [hname]
    · rfl
  | false =>
    obtain ⟨after, hmodule, hafter⟩ := loadModule_of_loads h hcache (disks i)
    have hget := (acc.2.plugins.get_insert spec.name · ⟨spec.contents, spec.sha256⟩)
    have hmem := BTreeMap.get_eq_some_iff.mp ((hget spec.name).trans (if_pos rfl))
    have hstep : syncStep engine disks acc (spec, i) = ({ acc.1 with updated := acc.1.updated + 1 },
          ⟨acc.2.plugins.insert spec.name ⟨spec.contents, spec.sha256⟩, after,
            acc.2.loadCount + 1⟩) := by
      rw [syncStep, loadOrUpdate, if_neg hsize, hsame, if_neg Bool.false_ne_true, hmodule]
      simp [h.linked, hget, ne_nil_of_mem hmem]
    rw [hstep, synced, hsame]
    exact ⟨by simp [hsame], hget, hafter⟩

theorem foldl_syncStep {acc : SyncCounts × PluginManager Json}
    (hcache : Digested origin acc.2.cache) (hnames : (specs.map (·.name)).Nodup)
    (hloads : ∀ spec ∈ specs, Loads engine origin spec)
    (hfound : ∀ spec ∈ specs, acc.2.plugins.get spec.name = manager.plugins.get spec.name) (i : ℕ) :
    ((specs.zipIdx i).foldl (syncStep engine disks) acc).1 =
        ⟨acc.1.loaded, acc.1.updated + specs.countP (!unchanged manager ·),
          acc.1.skipped + specs.countP (unchanged manager), acc.1.unloaded⟩ ∧
      (∀ name ∉ specs.map (·.name),
        ((specs.zipIdx i).foldl (syncStep engine disks) acc).2.plugins.get
        name = acc.2.plugins.get name) ∧
      ∀ spec ∈ specs, ((specs.zipIdx i).foldl (syncStep engine disks) acc).2.plugins.get spec.name =
        synced manager spec := by
  induction specs generalizing acc i with
  | nil => exact ⟨rfl, fun _ _ => rfl, nofun⟩
  | cons first specs ih =>
    rw [map_cons, nodup_cons] at hnames
    rw [forall_mem_cons] at hloads hfound
    obtain ⟨hcounts, hget, hstep⟩ := @syncStep_of_loads _ _ _ disks _ hloads.1 _ hcache i
    have hfirst : unchanged acc.2 first = unchanged manager first := by
      rw [unchanged, unchanged, hfound.1]
    rw [zipIdx_cons, foldl_cons]
    obtain ⟨ihcounts, ihother, ihspecs⟩ := ih hstep hnames.2 hloads.2 (fun spec hspec => by
      have hne : spec.name ≠ first.name := fun h => hnames.1 (h ▸ List.mem_map_of_mem hspec)
      rw [hget, if_neg hne, hfound.2 spec hspec]) (i + 1)
    refine ⟨?_, fun name hname => ?_, forall_mem_cons.mpr ⟨?_, ihspecs⟩⟩
    · rw [ihcounts, hcounts]
      simp only [countP_cons, countP_nil, hfirst, zero_add, add_assoc, add_comm, add_left_comm]
    · rw [map_cons, mem_cons, not_or] at hname
      rw [ihother name hname.2, hget, if_neg hname.1]
    · rw [ihother _ hnames.1, hget, if_pos rfl, synced, synced, hfirst, hfound.1]

variable (hcache : Digested origin manager.cache) (hnames : (specs.map (·.name)).Nodup)
  (hloads : ∀ spec ∈ specs, Loads engine origin spec)
include hcache hnames hloads

theorem diffAndApply_of_loads : (diffAndApply engine disks manager specs).1 =
        ⟨0, specs.countP (!unchanged manager ·), specs.countP (unchanged manager),
          ((manager.plugins.entries.map Prod.fst).filter fun name =>
            name ∉ specs.map (·.name)).length⟩ ∧
      (∀ name ∉ specs.map (·.name),
        (diffAndApply engine disks manager specs).2.plugins.get name = none) ∧
      ∀ spec ∈ specs, (diffAndApply engine disks manager specs).2.plugins.get spec.name =
        synced manager spec := by
  have hplugins (keys : List String) (manager : PluginManager Json) :
      keys.foldl unloadPlugin manager =
        { manager with plugins := keys.foldl BTreeMap.erase manager.plugins } := by
    induction keys generalizing manager with
    | nil => rfl
    | cons key keys ih => exact ih _
  rw [diffAndApply, hplugins]
  set plugins := List.foldl BTreeMap.erase manager.plugins _ with hunloaded
  have hget (name : String) : plugins.get name =
      if name ∈ specs.map (·.name) then manager.plugins.get name else none := by
    simp only [hunloaded, BTreeMap.get_foldl_erase, mem_filter, BTreeMap.mem_keys_iff]
    cases manager.plugins.get name <;> by_cases hname : name ∈ specs.map (·.name) <;> simp [hname]
  obtain ⟨hcounts, hother, hspecs⟩ := @foldl_syncStep _ _ _ disks manager specs
    (⟨0, 0, 0, _⟩, ⟨plugins, manager.cache, manager.loadCount⟩) hcache hnames hloads
    (fun spec hspec => (hget spec.name).trans (if_pos (List.mem_map_of_mem hspec))) 0
  simp only [zero_add] at hcounts
  refine ⟨hcounts, fun name hname => ?_, hspecs⟩
  exact (hother name hname).trans ((hget name).trans (if_neg hname))

/-- **The plugins are the desired ones and the counts are right exactly if** every desired plugin
was loaded before, and its digest was the one that is given for it just if it was made of the same.
-/
theorem diffAndApply_reconciled_iff [DecidableEq Json] :
    Reconciled manager specs (diffAndApply engine disks manager specs) ↔
      ∀ spec ∈ specs, (manager.plugins.get spec.name).isSome = true ∧
        unchanged manager spec = sameContents manager spec := by
  obtain ⟨hcounts, hundesired, hdesired⟩ :=
    @diffAndApply_of_loads _ _ _ disks _ _ hcache hnames hloads
  constructor
  · intro h
    have hcounts := hcounts.symm.trans h.counts
    rw [SyncCounts.mk.injEq] at hcounts
    obtain ⟨hloaded, -, hskip, -⟩ := hcounts
    have hkept : ∀ spec ∈ specs, unchanged manager spec = true → sameContents manager spec := by
      intro spec hspec hunchanged
      have hline := h.desired spec hspec
      rw [hdesired spec hspec, synced, if_pos hunchanged] at hline
      obtain ⟨existing, hget, heq⟩ := map_eq_some_iff.mp hline
      rw [sameContents, Option.any_eq_true]
      exact ⟨existing, hget, decide_eq_true heq⟩
    -- as many are skipped as are made of the same, so all of these are skipped
    have hall : (specs.filter (sameContents manager)).countP (unchanged manager) =
        (specs.filter (sameContents manager)).length := by
      rw [countP_filter, ← countP_eq_length_filter, ← hskip]
      refine countP_congr fun spec hspec => ?_
      rw [Bool.and_eq_true, and_iff_left_iff_imp]
      exact hkept spec hspec
    intro spec hspec
    refine ⟨?_, Bool.eq_iff_iff.mpr ⟨hkept spec hspec, fun hsame => ?_⟩⟩
    · simpa [isSome_iff_ne_none] using countP_eq_zero.mp hloaded.symm spec hspec
    · exact countP_eq_length.mp hall spec (mem_filter.mpr ⟨hspec, hsame⟩)
  · intro h
    refine ⟨hundesired, fun spec hspec => ?_, hcounts.trans (SyncCounts.mk.injEq .. ▸ ?_)⟩
    · rw [hdesired spec hspec, synced]
      split_ifs with hunchanged
      · rw [(h spec hspec).2, sameContents, Option.any_eq_true] at hunchanged
        obtain ⟨existing, hget, heq⟩ := hunchanged
        rw [hget, map_some, of_decide_eq_true heq]
      · rfl
    · refine ⟨?_, ?_, ?_, rfl⟩
      · exact (countP_eq_zero.mpr fun spec hspec => by
          simpa [isSome_iff_ne_none] using (h spec hspec).1).symm
      · exact countP_congr fun spec hspec => by
          rw [(h spec hspec).1, (h spec hspec).2, Bool.true_and]
      · exact countP_congr fun spec hspec => by rw [(h spec hspec).2]

omit hcache hnames hloads

private def freeEngine : Engine := ⟨fun _ => .ok (), fun _ => .ok ()⟩

private def headers (byte : UInt8) (config : ℕ) : WasmPluginSpec ℕ :=
  ⟨"headers", ⟨[byte], config, [.onRequest], {}⟩, some (if byte = 0 then "sha" else "sha'")⟩

private def headersLoaded : PluginManager ℕ :=
  { plugins := (BTreeMap.empty.insert "headers" ⟨(headers 0 1).contents, some "sha"⟩).insert "audit"
      ⟨(headers 0 3).contents, some "sha"⟩ }

/-- A plugin that is loaded for the first time is counted as updated.  One keeps its configuration
when another is desired with the same module. -/
theorem headers_not_reconciled :
    ¬ Reconciled {} [headers 0 1] (diffAndApply freeEngine (fun _ => {}) {} [headers 0 1]) ∧
      ¬ Reconciled headersLoaded [headers 0 2]
        (diffAndApply freeEngine (fun _ => {}) headersLoaded [headers 0 2]) := by
  refine ⟨fun h => absurd h.counts ?_, fun h => absurd (h.desired _ mem_cons_self) ?_⟩
  · decide +kernel
  · decide +kernel

/-- One plugin gets another module and configuration, and one is gone. -/
theorem headers_reconciled :
    (diffAndApply freeEngine (fun _ => {}) headersLoaded [headers 1 2]).1 = ⟨0, 1, 0, 1⟩ ∧
      Reconciled headersLoaded [headers 1 2]
        (diffAndApply freeEngine (fun _ => {}) headersLoaded [headers 1 2]) :=
  ⟨by decide +kernel,
    (@diffAndApply_reconciled_iff _ _ (fun sha => if sha = "sha" then [0] else [1]) _ _ _
      (fun _ _ h => by cases h) (by decide)
      (fun spec hspec => by
        obtain rfl := mem_singleton.mp hspec
        exact ⟨by decide, rfl, rfl, fun sha hsha => by cases hsha; decide⟩) _).mpr
      (by decide +kernel)⟩

end NantianGateway.Wasm
