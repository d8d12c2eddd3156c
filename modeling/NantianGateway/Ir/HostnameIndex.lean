import NantianGateway.Ir.Matching
import NantianGateway.Lib.Ascend

/-!
# Routes by hostname

Every hostname of a route is filed under its lower-cased normal form, a wildcard under what follows
its `*.`; a host is looked up under its own lower-cased form and under each of its suffixes after a
dot.  The enumeration is ascending and leaves out no route whose hostnames score the host.
-/

namespace NantianGateway

open Text List

/-- Three families of route indices.  Every list ascends, which is what the search for
the next index relies on. -/
@[ext]
structure HostnameRouteIndex where
  catchAll : List ℕ := []
  exact : Table String (List ℕ) := .empty
  /-- The routes of a wildcard, by what follows its `*.`. -/
  wildcardSuffix : Table String (List ℕ) := .empty
  ascending_catchAll : catchAll.Pairwise (· ≤ ·) := by exact .nil
  ascending_exact : ∀ name indices, exact name = some indices → indices.Pairwise (· ≤ ·) := by
    simp
  ascending_wildcardSuffix :
    ∀ suffix indices, wildcardSuffix suffix = some indices → indices.Pairwise (· ≤ ·) := by
    simp

def HostnameRouteIndex.empty : HostnameRouteIndex := {}

def wildcardHostnameSuffixes (host : String) : List String :=
  (dotSuffixes host.toList).map String.ofList

/-- The first index after `last`; the slice is ascending, and `partition_point` counts
the entries up to `last`. -/
def firstIndexAfter (indices : List ℕ) (last : Option ℕ) : Option ℕ :=
  let start := last.elim 0 fun last => (indices.takeWhile fun index => index ≤ last).length
  indices[start]?

def minCandidateIndex (current candidate : Option ℕ) : Option ℕ :=
  Ascend.minOption current candidate

def minFoundIndex (next : Option ℕ) (found : Option (List ℕ)) (last : Option ℕ) : Option ℕ :=
  match found with
  | some indices => minCandidateIndex next (firstIndexAfter indices last)
  | none => next

namespace HostnameRouteIndex

variable (index : HostnameRouteIndex)

def lookupHost (host : String) : String :=
  if hasAsciiUppercase host then asciiLower host else host

variable (requestHost : Option String)

def nextCandidateIndexAfterNormalized (last : Option ℕ) : Option ℕ :=
  let next := firstIndexAfter index.catchAll last
  match requestHost with
  | none => next
  | some host =>
    let hostRef := lookupHost host
    let next := minFoundIndex next (index.exact hostRef) last
    (wildcardHostnameSuffixes hostRef).foldl
      (fun next suffix => minFoundIndex next (index.wildcardSuffix suffix) last) next

/-- The lists a host is looked up in. -/
def lists : List ℕ :=
  index.catchAll ++ (requestHost.elim [] fun host =>
    (index.exact (lookupHost host)).getD [] ++
      (wildcardHostnameSuffixes (lookupHost host)).flatMap fun suffix =>
        (index.wildcardSuffix suffix).getD [])

/-- The indices `visit_candidate_indices` visits when the visitor never stops it: the
next one after the last, until there is none. -/
def candidateIndices : List ℕ :=
  let requestHost := requestHost.map normalizeHostRef
  Ascend.walk (index.nextCandidateIndexAfterNormalized requestHost)
    (index.lists requestHost).length none

end HostnameRouteIndex

variable (hostname : String)

/-- The form in which a hostname of a route is filed. -/
def indexedHostname : String := asciiLower (normalizeHostRef hostname)

/-- The suffix under which a wildcard is filed. -/
def wildcardKey : Option String := stripFront "*." (indexedHostname hostname)

/-- The name under which any other hostname is filed. -/
def exactKey : Option String :=
  if (wildcardKey hostname).isSome then none else some (indexedHostname hostname)

variable (routeHostnames : List (List String))

def hostnameEntries : List (String × ℕ) :=
  routeHostnames.zipIdx.flatMap fun entry => entry.1.map fun hostname => (hostname, entry.2)

def keyedEntries (key : String → Option String) (routeHostnames : List (List String)) :
    List (String × ℕ) :=
  (hostnameEntries routeHostnames).filterMap fun entry =>
    (key entry.1).map fun name => (name, entry.2)

theorem pairwise_snd_hostnameEntries :
    ((hostnameEntries routeHostnames).map Prod.snd).Pairwise (· ≤ ·) := by
  rw [hostnameEntries, map_flatMap]
  refine pairwise_flatMap.mpr ⟨fun entry _ => ?_, ?_⟩
  · rw [map_map]
    exact pairwise_map.mpr (pairwise_of_forall fun _ _ => le_rfl)
  · have hidx : (routeHostnames.zipIdx.map Prod.snd).Pairwise (· < ·) := by
      rw [zipIdx_map_snd]
      exact pairwise_lt_range'
    refine (pairwise_map.mp hidx).imp fun {a b} hab x hx y hy => ?_
    rw [map_map, mem_map] at hx hy
    obtain ⟨-, -, rfl⟩ := hx
    obtain ⟨-, -, rfl⟩ := hy
    exact hab.le

variable {routeHostnames : List (List String)} {host hostname : String}
  {key : String → Option String} {indices : List ℕ} {name : String}

theorem ascending_pushAll
    (h : Table.pushAll (keyedEntries key routeHostnames) name = some indices) :
    indices.Pairwise (· ≤ ·) := by
  rw [Table.pushAll_apply] at h
  split_ifs at h
  obtain rfl := Option.some.inj h
  refine List.Pairwise.sublist ?_ (pairwise_snd_hostnameEntries routeHostnames)
  refine (filter_sublist.map Prod.snd).trans ?_
  rw [keyedEntries]
  induction hostnameEntries routeHostnames with
  | nil => exact .slnil
  | cons entry entries ih =>
    rw [filterMap_cons, map_cons]
    cases key entry.1 with
    | none => exact ih.cons _
    | some name => exact ih.cons_cons _

/-- `build_hostname_route_index`, one pass for each field. -/
def buildHostnameRouteIndex (routeHostnames : List (List String)) : HostnameRouteIndex where
  catchAll := (routeHostnames.zipIdx.filter fun entry => entry.1 = []).map Prod.snd
  exact := .pushAll (keyedEntries exactKey routeHostnames)
  wildcardSuffix := .pushAll (keyedEntries wildcardKey routeHostnames)
  ascending_catchAll := by
    have hidx : (routeHostnames.zipIdx.map Prod.snd).Pairwise (· < ·) := by
      rw [List.zipIdx_map_snd]
      exact List.pairwise_lt_range'
    exact (hidx.sublist (List.filter_sublist.map Prod.snd)).imp le_of_lt
  ascending_exact := fun _ _ h => ascending_pushAll h
  ascending_wildcardSuffix := fun _ _ h => ascending_pushAll h

/-! ## What the enumeration lists -/

theorem lookupHost_eq (host : String) : HostnameRouteIndex.lookupHost host = asciiLower host := by
  rw [HostnameRouteIndex.lookupHost]
  by_cases h : hasAsciiUppercase host = true
  · rw [if_pos h]
  · rw [if_neg h, asciiLower_eq_self (Bool.not_eq_true _ ▸ h)]

theorem firstIndexAfter_eq (indices : List ℕ) (last : Option ℕ) : firstIndexAfter indices last
      = (indices.dropWhile fun index => last.any fun last => index ≤ last).head? := by
  cases last with
  | none =>
    rw [firstIndexAfter]
    cases indices with
    | nil => rfl
    | cons index indices => rfl
  | some last =>
    rw [firstIndexAfter, Option.elim_some]
    have happ := takeWhile_append_dropWhile (p := fun index => decide (index ≤ last))
      (l := indices)
    conv_lhs => rw [← happ]
    rw [List.getElem?_append_right (by rw [happ]), happ, Nat.sub_self, List.head?_eq_getElem?]
    rfl

theorem isNext_firstIndexAfter (h : indices.Pairwise (· ≤ ·))
    (last : Option ℕ) : Ascend.IsNext {i | i ∈ indices} last (firstIndexAfter indices last) := by
  rw [firstIndexAfter_eq]
  exact Ascend.isNext_head_dropWhile h last

namespace HostnameRouteIndex

variable (index : HostnameRouteIndex) {last next : Option ℕ} {S : Set ℕ}

theorem isNext_lookup (h : Ascend.IsNext S last next)
    (found : Option (List ℕ))
    (hfound : ∀ indices, found = some indices → indices.Pairwise (· ≤ ·)) :
    Ascend.IsNext (S ∪ {i | i ∈ found.getD []}) last (minFoundIndex next found last) := by
  cases found with
  | none =>
    have hS : S ∪ {i | i ∈ (none : Option (List ℕ)).getD []} = S := by simp
    rw [hS]
    exact h
  | some indices => exact h.union (isNext_firstIndexAfter (hfound indices rfl) last)

theorem isNext_foldl_suffixes (h : Ascend.IsNext S last next) (suffixes : List String) :
    Ascend.IsNext
      (S ∪ {i | i ∈ suffixes.flatMap fun suffix => (index.wildcardSuffix suffix).getD []}) last
      (suffixes.foldl
        (fun next suffix => minFoundIndex next (index.wildcardSuffix suffix) last) next) := by
  induction suffixes generalizing S next with
  | nil =>
    have hS : S ∪ {i | i ∈ ([] : List String).flatMap fun suffix =>
        (index.wildcardSuffix suffix).getD []} = S := by simp
    rw [hS]
    exact h
  | cons suffix suffixes ih =>
    have hstep := ih (isNext_lookup h (index.wildcardSuffix suffix)
      (index.ascending_wildcardSuffix suffix))
    have hS : S ∪ {i | i ∈ (suffix :: suffixes).flatMap fun suffix =>
          (index.wildcardSuffix suffix).getD []}
        = S ∪ {i | i ∈ (index.wildcardSuffix suffix).getD []} ∪
          {i | i ∈ suffixes.flatMap fun suffix => (index.wildcardSuffix suffix).getD []} := by
      ext i
      simp only [Set.mem_union, Set.mem_ofPred_eq, flatMap_cons, mem_append, or_assoc]
    rw [hS, foldl_cons]
    exact hstep

theorem isNext_nextCandidateIndex (requestHost last) :
    Ascend.IsNext {i | i ∈ index.lists requestHost} last
      (index.nextCandidateIndexAfterNormalized requestHost last) := by
  have hcatch := isNext_firstIndexAfter index.ascending_catchAll last
  cases requestHost with
  | none =>
    rw [lists, Option.elim_none, append_nil]
    exact hcatch
  | some host =>
    have hexact := isNext_lookup hcatch (index.exact (lookupHost host))
      (index.ascending_exact (lookupHost host))
    have hall := index.isNext_foldl_suffixes hexact (wildcardHostnameSuffixes (lookupHost host))
    have hS : {i | i ∈ index.lists (some host)}
        = {i | i ∈ index.catchAll} ∪ {i | i ∈ (index.exact (lookupHost host)).getD []} ∪
          {i | i ∈ (wildcardHostnameSuffixes (lookupHost host)).flatMap fun suffix =>
            (index.wildcardSuffix suffix).getD []} := by
      ext i
      simp only [lists, Option.elim_some, Set.mem_union, Set.mem_ofPred_eq, mem_append, or_assoc]
    rw [hS]
    exact hall

theorem pairwise_candidates (requestHost : Option String) :
    (index.candidateIndices requestHost).Pairwise (· < ·) :=
  Ascend.pairwise_walk (index.isNext_nextCandidateIndex _) _ _

theorem mem_candidates {requestHost : Option String} {i : ℕ} :
    i ∈ index.candidateIndices requestHost ↔ i ∈ index.lists (requestHost.map normalizeHostRef) :=
  Ascend.mem_walk_iff (index.isNext_nextCandidateIndex _) le_rfl

end HostnameRouteIndex

/-! ## The built index leaves out no match -/

theorem mem_wildcardHostnameSuffixes {suffix : String} : suffix ∈ wildcardHostnameSuffixes host ↔
      ∃ u, host.toList = u ++ '.' :: suffix.toList := by
  rw [wildcardHostnameSuffixes, mem_map]
  constructor
  · rintro ⟨t, ht, rfl⟩
    rw [String.toList_ofList]
    exact mem_dotSuffixes_iff.mp ht
  · intro h
    exact ⟨suffix.toList, mem_dotSuffixes_iff.mpr h, String.ofList_toList⟩

theorem wildcardKey_of_hostnameMatches {suffix : String}
    (hstrip : stripFront "*." (normalizeHostRef hostname) = some suffix)
    (hm : hostnameMatches hostname host = true) :
    wildcardKey hostname = some (asciiLower suffix) ∧
      asciiLower suffix ∈ wildcardHostnameSuffixes (asciiLower host) := by
  constructor
  · have hn := stripFront_eq_some_iff.mp hstrip
    rw [wildcardKey, indexedHostname, stripFront_eq_some_iff, toList_asciiLower,
      toList_asciiLower, hn, map_append]
    rfl
  · obtain ⟨u, t, hu, ht⟩ := (hostnameMatches_wildcard_iff hstrip).mp hm
    rw [mem_wildcardHostnameSuffixes]
    refine ⟨u.map Char.toLower, ?_⟩
    rw [toList_asciiLower, toList_asciiLower, hu, map_append, map_cons, ht]
    rfl

theorem key_of_hostnameMatchScore (h : hostnameMatchScore hostname host ≠ none) :
    (∃ suffix, wildcardKey hostname = some suffix ∧
        suffix ∈ wildcardHostnameSuffixes (asciiLower (normalizeHostRef host))) ∨
      exactKey hostname = some (asciiLower (normalizeHostRef host)) := by
  rw [hostnameMatchScore] at h
  cases hs : stripFront "*." hostname with
  | some suffix =>
    simp only [hs] at h
    have hm : hostnameMatches hostname (normalizeHostRef host) = true := by
      by_contra hm
      rw [if_neg hm] at h
      exact h rfl
    exact .inl ⟨_, wildcardKey_of_hostnameMatches (stripFront_star_normalize hs) hm⟩
  | none =>
    simp only [hs] at h
    have heq : normalizeHostRef hostname = normalizeHostRef host := by
      by_contra heq
      rw [if_neg heq] at h
      exact h rfl
    -- a bracketed `[*.suffix]` is filed as a wildcard but scored as an exact name
    cases hk : wildcardKey hostname with
    | none =>
      right
      rw [exactKey, hk, Option.isSome_none, if_neg Bool.false_ne_true, indexedHostname, heq]
    | some suffix =>
      left
      refine ⟨suffix, rfl, mem_wildcardHostnameSuffixes.mpr ⟨['*'], ?_⟩⟩
      rw [wildcardKey, indexedHostname, heq, stripFront_eq_some_iff] at hk
      exact hk

variable {hostnames : List String}

theorem mem_valuesAt_keyedEntries {i : ℕ} (hi : routeHostnames[i]? = some hostnames)
    (hmem : hostname ∈ hostnames)
    (hkey : key hostname = some name) :
    i ∈ Table.valuesAt (keyedEntries key routeHostnames) name := by
  rw [Table.mem_valuesAt, keyedEntries, mem_filterMap]
  refine ⟨(hostname, i), ?_, by rw [hkey]; rfl⟩
  rw [hostnameEntries, mem_flatMap]
  exact ⟨(hostnames, i), mem_zipIdx_iff_getElem?.mpr hi, mem_map_of_mem hmem⟩

theorem mem_candidates_build {requestHost : Option String} {i : ℕ}
    (hi : routeHostnames[i]? = some hostnames)
    (hs : bestHostnameScore hostnames requestHost ≠ none) :
    i ∈ (buildHostnameRouteIndex routeHostnames).candidateIndices requestHost := by
  rw [HostnameRouteIndex.mem_candidates, HostnameRouteIndex.lists, mem_append]
  rcases bestHostnameScore_ne_none.mp hs with rfl | ⟨host, rfl, hostname, hmem, hscore⟩
  · left
    rw [buildHostnameRouteIndex, mem_map]
    exact ⟨([], i), mem_filter.mpr ⟨mem_zipIdx_iff_getElem?.mpr hi, by simp⟩, rfl⟩
  · right
    rw [Option.map_some, Option.elim_some, mem_append, lookupHost_eq]
    rcases key_of_hostnameMatchScore hscore with ⟨suffix, hkey, hsuffix⟩ | hkey
    · right
      refine mem_flatMap.mpr ⟨suffix, hsuffix, ?_⟩
      rw [buildHostnameRouteIndex, Table.pushAll_getD]
      exact mem_valuesAt_keyedEntries hi hmem hkey
    · left
      rw [buildHostnameRouteIndex, Table.pushAll_getD]
      exact mem_valuesAt_keyedEntries hi hmem hkey

end NantianGateway
