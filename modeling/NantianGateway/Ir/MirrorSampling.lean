import NantianGateway.Ir.BackendResolution
import NantianGateway.Lib.Residues

/-!
# Sampling mirrored requests

Every filter that samples takes its ticket from the one mirror cursor.  Among `m` of them a filter
sees every `m`-th ticket, and these meet the residues below `n` in proportion **if and only if
`gcd m d` divides `n`**.
-/

namespace NantianGateway

open List
open scoped Finset

def SelectionState.nextMirrorTicket (st : SelectionState) : UInt64 × SelectionState :=
  (st.mirrorCursor, { st with mirrorCursor := st.mirrorCursor + 1 })

namespace RequestMirrorFilter

variable (filter : RequestMirrorFilter)

def share : UInt32 × UInt32 :=
  match filter.fraction with
  | some fraction => (fraction.numerator, max fraction.denominator 1)
  | none => (filter.percent.getD 100, 100)

def shouldMirror (st : SelectionState) : Bool × SelectionState :=
  let (numerator, denominator) := filter.share
  if numerator = 0 then (false, st)
  else if denominator ≤ numerator then (true, st)
  else
    let (ticket, st) := st.nextMirrorTicket
    (decide (ticket % denominator.toUInt64 < numerator.toUInt64), st)

abbrev Samples : Prop :=
  0 < filter.share.1.toNat ∧ filter.share.1.toNat < filter.share.2.toNat

def hits (ticket : UInt64) : Bool :=
  decide (ticket.toNat % filter.share.2.toNat < filter.share.1.toNat)

theorem shouldMirror_of_samples {filter : RequestMirrorFilter} (h : filter.Samples)
    (st : SelectionState) : filter.shouldMirror st
      = (filter.hits st.mirrorCursor, { st with mirrorCursor := st.mirrorCursor + 1 }) := by
  have hne : filter.share.1 ≠ 0 := fun hzero => by simp [Samples, hzero] at h
  simp only [shouldMirror, if_neg hne, UInt32.le_iff_toNat_le, if_neg (Nat.not_le.mpr h.2),
    SelectionState.nextMirrorTicket, UInt64.lt_iff_toNat_lt, UInt64.toNat_mod,
    UInt32.toNat_toUInt64, hits]

end RequestMirrorFilter

section

variable (s : Snapshot) (now : Instant)

/-- Whether each filter mirrors, and the backend it then gets. -/
def visitMirrors : List RequestMirrorFilter → SelectionState →
    List (Bool × Option (BackendEndpoint × String)) × SelectionState
  | [], st => ([], st)
  | filter :: filters, st =>
    let (mirrors, st) := filter.shouldMirror st
    let (backend, st) :=
      if mirrors then s.selectBackendRef filter.backendRef now st else (none, st)
    let (visits, st) := visitMirrors filters st
    ((mirrors, backend) :: visits, st)

def visitRequestMirrors (filters : List Filter) :=
  visitMirrors s now (filters.filterMap Filter.requestMirror)

theorem mirrorCursor_selectBackendRef (backendRef : BackendTarget) (st : SelectionState) :
    (s.selectBackendRef backendRef now st).2.mirrorCursor = st.mirrorCursor := by
  rw [Snapshot.selectBackendRef]
  split
  · rfl
  · split
    · rfl
    · simp only [Snapshot.selectClusterEndpoint]
      split <;> rfl

/-- **Filters that all sample take one ticket each.** -/
theorem visitMirrors_spec {filters : List RequestMirrorFilter}
    (h : ∀ filter ∈ filters, filter.Samples) (st : SelectionState) :
    (visitMirrors s now filters st).2.mirrorCursor
        = st.mirrorCursor + UInt64.ofNat filters.length ∧
      (visitMirrors s now filters st).1.map Prod.fst
        = filters.mapIdx fun i filter => filter.hits (st.mirrorCursor + UInt64.ofNat i) := by
  induction filters generalizing st with
  | nil => exact ⟨(UInt64.add_zero _).symm, rfl⟩
  | cons filter filters ih =>
    have hnext : ∀ i : ℕ, st.mirrorCursor + 1 + UInt64.ofNat i
        = st.mirrorCursor + UInt64.ofNat (i + 1) := fun i => by
      rw [UInt64.ofNat_add, UInt64.add_assoc, UInt64.add_comm 1]
      rfl
    have hcursor (mirrors : Bool) (st : SelectionState) : (if mirrors then
        s.selectBackendRef filter.backendRef now st else (none, st)).2.mirrorCursor
          = st.mirrorCursor := by
      split
      · exact mirrorCursor_selectBackendRef ..
      · rfl
    simp only [visitMirrors, RequestMirrorFilter.shouldMirror_of_samples (h filter mem_cons_self),
      map_cons, mapIdx_cons, (ih (fun f hf => h f (mem_cons_of_mem _ hf)) _).1,
      (ih (fun f hf => h f (mem_cons_of_mem _ hf)) _).2, hcursor, hnext, length_cons]
    exact ⟨trivial, by simp⟩

end

/-- **Requests to one rule whose mirror filters all sample.** -/
structure MirrorTraffic where
  filters : List Filter
  samples : ∀ filter ∈ filters.filterMap Filter.requestMirror, filter.Samples
  snapshot : ℕ → Snapshot
  clock : ℕ → Instant
  start : SelectionState

namespace MirrorTraffic

variable (traffic : MirrorTraffic)

def mirrors : List RequestMirrorFilter := traffic.filters.filterMap Filter.requestMirror

def visit (j : ℕ) := visitRequestMirrors (traffic.snapshot j) (traffic.clock j) traffic.filters

def stateAt : ℕ → SelectionState
  | 0 => traffic.start
  | j + 1 => (traffic.visit j (stateAt j)).2

/-- The filter at `i` mirrors request `j`. -/
abbrev Mirrored (i j : ℕ) : Prop :=
  ((traffic.visit j (traffic.stateAt j)).1.map Prod.fst)[i]? = some true

theorem mirrorCursor_stateAt (j : ℕ) : (traffic.stateAt j).mirrorCursor
    = traffic.start.mirrorCursor + UInt64.ofNat (traffic.mirrors.length * j) := by
  induction j with
  | zero => exact (UInt64.add_zero _).symm
  | succ j ih =>
    rw [stateAt, visit, visitRequestMirrors, (visitMirrors_spec _ _ traffic.samples _).1, ih,
      Nat.mul_succ, UInt64.ofNat_add, UInt64.add_assoc, mirrors]

variable {traffic} {i : ℕ} {filter : RequestMirrorFilter}

theorem mirrored_iff (hi : traffic.mirrors[i]? = some filter) {j requests : ℕ} (hj : j < requests)
    (hwrap : traffic.start.mirrorCursor.toNat + traffic.mirrors.length * requests ≤ 2 ^ 64) :
    traffic.Mirrored i j ↔ (traffic.start.mirrorCursor.toNat + i + traffic.mirrors.length * j)
      % filter.share.2.toNat < filter.share.1.toNat := by
  have hlt : i < traffic.mirrors.length := (List.getElem?_eq_some_iff.mp hi).1
  have hmul := Nat.mul_le_mul_left traffic.mirrors.length (Nat.succ_le_of_lt hj)
  rw [Nat.mul_succ] at hmul
  have hticket : ((traffic.stateAt j).mirrorCursor + UInt64.ofNat i).toNat
      = traffic.start.mirrorCursor.toNat + i + traffic.mirrors.length * j := by
    rw [mirrorCursor_stateAt, UInt64.toNat_add, UInt64.toNat_add, UInt64.toNat_ofNat',
      UInt64.toNat_ofNat']
    omega
  rw [Mirrored, visit, visitRequestMirrors, (visitMirrors_spec _ _ traffic.samples _).2,
    getElem?_mapIdx, ← mirrors, hi, Option.map_some, RequestMirrorFilter.hits, hticket,
    Option.some.injEq, decide_eq_true_eq]

/-- **A filter gets its share of the requests exactly if `gcd m d` divides `n`.** -/
theorem mirror_share_iff (hi : traffic.mirrors[i]? = some filter) {k : ℕ} (hk : 0 < k)
    (hwrap : traffic.start.mirrorCursor.toNat + traffic.mirrors.length
      * (k * traffic.mirrors.length * filter.share.2.toNat) ≤ 2 ^ 64) :
    #{j ∈ Finset.range (k * traffic.mirrors.length * filter.share.2.toNat) | traffic.Mirrored i j}
        = k * traffic.mirrors.length * filter.share.1.toNat ↔
      traffic.mirrors.length.gcd filter.share.2.toNat ∣ filter.share.1.toNat := by
  have hmem := mem_of_getElem? hi
  obtain ⟨hpos, hlt⟩ := traffic.samples filter hmem
  have hvisits := @Residues.card_visits_eq_iff _ traffic.mirrors.length
    (traffic.start.mirrorCursor.toNat + i) 0 _ (hpos.trans hlt) ((Nat.zero_add _).trans_le hlt.le)
  simp only [Nat.zero_le, true_and, Nat.zero_add] at hvisits
  rw [Finset.filter_congr fun j hj => mirrored_iff hi (Finset.mem_range.mp hj) hwrap,
    Residues.card_visits_mul, Nat.mul_right_inj (Nat.mul_pos hk (length_pos_of_mem hmem)).ne',
    hvisits]

/-- Filters that each take one half. -/
private def halves (n : ℕ) : MirrorTraffic where
  filters := replicate n { requestMirror := some { fraction := some ⟨1, 2⟩ } }
  samples := by
    intro filter hmem
    rw [filterMap_replicate] at hmem
    cases eq_of_mem_replicate hmem
    decide
  snapshot := fun _ => {}
  clock := fun _ => 0
  start := {}

theorem mirror_share_three : #{j ∈ Finset.range (1 * 3 * 2) | (halves 3).Mirrored 0 j}
    = 1 * 3 * 1 :=
  (@mirror_share_iff (halves 3) 0 _ rfl 1 (by decide) (by decide)).mpr (by decide)

/-- Of two filters the first mirrors everything. -/
theorem mirror_share_two : #{j ∈ Finset.range (1 * 2 * 2) | (halves 2).Mirrored 0 j} = 4 := by
  decide +kernel

end MirrorTraffic

end NantianGateway
