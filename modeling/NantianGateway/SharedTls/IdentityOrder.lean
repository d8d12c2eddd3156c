import NantianGateway.SharedTls.ListenerPlan

/-!
# Which certificate is tried first

`ordered_tls_identity_candidates` sorts the identities of a listener for the server name of a
connection: those with the name itself, then those with a wildcard for it, then the others.
-/

namespace NantianGateway.SharedTls

open Text List

/-! ## Ranks -/

def wildcardHostnameMatches (pattern host : String) : Bool :=
  match stripFront "*." pattern with
  | none => false
  | some suffix =>
    if host = suffix || !endsWith host suffix then false
    else
      match (stripBack suffix host).bind (stripBack ".") with
      | none => false
      | some label => decide (label ≠ "" ∧ '.' ∉ label.toList)

theorem wildcardHostnameMatches_iff {suffix host : String} :
    wildcardHostnameMatches ("*." ++ suffix) host = true ↔
      ∃ label, label ≠ "" ∧ '.' ∉ label.toList ∧ host = label ++ "." ++ suffix := by
  have hstrip : stripFront "*." ("*." ++ suffix) = some suffix :=
    stripFront_eq_some_iff.mpr String.toList_append
  simp only [wildcardHostnameMatches, hstrip]
  constructor
  · intro h
    split at h
    · cases h
    split at h
    · cases h
    next label hlabel =>
    obtain ⟨front, hfront, hlabel⟩ := Option.bind_eq_some_iff.mp hlabel
    obtain ⟨hne, hdot⟩ := of_decide_eq_true h
    refine ⟨label, hne, hdot, String.toList_inj.mp ?_⟩
    rw [stripBack_eq_some_iff.mp hfront, stripBack_eq_some_iff.mp hlabel, String.toList_append,
      String.toList_append]
  · rintro ⟨label, hne, hdot, rfl⟩
    have hlonger : label ++ "." ++ suffix ≠ suffix := by
      intro h
      have hlength := congrArg (fun s => s.toList.length) h
      simp only [String.toList_append, length_append] at hlength
      have hdot : ".".toList.length = 1 := rfl
      omega
    have hends : endsWith (label ++ "." ++ suffix) suffix = true := by
      rw [endsWith, String.toList_append]
      exact isSuffixOf_iff_suffix.mpr (suffix_append _ _)
    have hfront : stripBack suffix (label ++ "." ++ suffix) = some (label ++ ".") :=
      stripBack_eq_some_iff.mpr String.toList_append
    have hlabel : stripBack "." (label ++ ".") = some label :=
      stripBack_eq_some_iff.mpr String.toList_append
    simp [hlonger, hends, hfront, hlabel, hne, hdot]

def matchRankLoop (normalized : String) : Option ℕ → List String → Option ℕ
  | best, [] => best
  | best, pattern :: patterns =>
    if pattern = normalized then some 2
    else
      matchRankLoop normalized
        (if wildcardHostnameMatches pattern normalized then some (best.getD 1) else best) patterns

def tlsIdentityMatchRank (identity : SharedTlsIdentity) (serverName : String) : Option ℕ :=
  matchRankLoop (normalizeTlsServerName serverName) none identity.matchNames

section

variable (serverName : Option String) (identity : SharedTlsIdentity)

def hasName : Bool :=
  serverName.any fun name => decide (normalizeTlsServerName name ∈ identity.matchNames)

def hasWildcard : Bool :=
  serverName.any fun name =>
    identity.matchNames.any (wildcardHostnameMatches · (normalizeTlsServerName name))

theorem matchRankLoop_eq (normalized : String) (best : Option ℕ) (patterns : List String) :
    matchRankLoop normalized best patterns = if normalized ∈ patterns then some 2
        else if patterns.any (wildcardHostnameMatches · normalized) then some (best.getD 1)
        else best := by
  induction patterns generalizing best with
  | nil => rfl
  | cons pattern patterns ih =>
    rw [matchRankLoop]
    by_cases heq : pattern = normalized
    · simp [heq]
    · rw [if_neg heq, ih]
      cases hwild : wildcardHostnameMatches pattern normalized <;> simp [Ne.symm heq, hwild]

theorem bind_tlsIdentityMatchRank : serverName.bind (tlsIdentityMatchRank identity)
      = if hasName serverName identity then some 2
        else if hasWildcard serverName identity then some 1 else none := by
  cases serverName with
  | none => rfl
  | some name =>
    rw [Option.bind_some, tlsIdentityMatchRank, matchRankLoop_eq]
    simp [hasName, hasWildcard]

end

/-! ## The order -/

def sortsBefore (left right : ℕ × ℕ × SharedTlsIdentity) : Bool :=
  decide (right.1 < left.1 ∨ left.1 = right.1 ∧ left.2.1 ≤ right.2.1)

def scored (serverName : Option String) (entries : List (SharedTlsIdentity × ℕ)) :
    List (ℕ × ℕ × SharedTlsIdentity) :=
  entries.filterMap fun entry =>
    (serverName.bind (tlsIdentityMatchRank entry.1)).map fun rank => (rank, entry.2, entry.1)

def orderedTlsIdentityCandidates (identities : List SharedTlsIdentity)
    (serverName : Option String) : List SharedTlsIdentity :=
  ((scored serverName identities.zipIdx).mergeSort sortsBefore).map (fun entry => entry.2.2)
    ++ identities.filter fun identity => (serverName.bind (tlsIdentityMatchRank identity)).isNone

variable (serverName : Option String)

theorem map_filter_scored (p : ℕ → Bool) (identities : List SharedTlsIdentity) (first : ℕ) :
    ((scored serverName (identities.zipIdx first)).filter fun entry => p entry.1).map
        (fun entry => entry.2.2)
      = identities.filter fun identity =>
        (serverName.bind (tlsIdentityMatchRank identity)).any p := by
  induction identities generalizing first with
  | nil => rfl
  | cons identity identities ih =>
    simp only [scored] at ih ⊢
    rw [zipIdx_cons, filterMap_cons, filter_cons, ← ih (first + 1)]
    cases serverName.bind (tlsIdentityMatchRank identity) with
    | none => simp
    | some rank => cases hp : p rank <;> simp [hp]

theorem pairwise_scored (identities : List SharedTlsIdentity) :
    (scored serverName identities.zipIdx).Pairwise fun left right => left.2.1 < right.2.1 := by
  have hindices : identities.zipIdx.Pairwise fun left right => left.2 < right.2 := by
    rw [← pairwise_map (f := Prod.snd), zipIdx_map_snd]
    exact pairwise_lt_range'
  refine Pairwise.filterMap _ (fun left right hlt entry hentry entry' hentry' => ?_) hindices
  obtain ⟨-, -, rfl⟩ := Option.map_eq_some_iff.mp hentry
  obtain ⟨-, -, rfl⟩ := Option.map_eq_some_iff.mp hentry'
  exact hlt

theorem mergeSort_scored (identities : List SharedTlsIdentity) :
    (scored serverName identities.zipIdx).mergeSort sortsBefore
      = ((scored serverName identities.zipIdx).filter fun entry => entry.1 == 2)
        ++ (scored serverName identities.zipIdx).filter fun entry => !(entry.1 == 2) := by
  have hrank : ∀ entry ∈ scored serverName identities.zipIdx, entry.1 = 2 ∨ entry.1 = 1 := by
    intro entry hentry
    obtain ⟨source, -, hsource⟩ := mem_filterMap.mp hentry
    obtain ⟨rank, hrank, rfl⟩ := Option.map_eq_some_iff.mp hsource
    rw [bind_tlsIdentityMatchRank] at hrank
    split_ifs at hrank
    · exact .inl (Option.some.inj hrank).symm
    · exact .inr (Option.some.inj hrank).symm
  have hordered := pairwise_scored serverName identities
  generalize scored serverName identities.zipIdx = entries at hrank hordered ⊢
  have hperm := (mergeSort_perm entries sortsBefore).trans
    (filter_append_perm (fun entry => entry.1 == 2) entries).symm
  refine hperm.eq_of_pairwise (fun left right hleft hright hle hge => ?_)
    (pairwise_mergeSort (fun a b c => ?_) (fun a b => ?_) entries)
      (pairwise_append.mpr ⟨?_, ?_, ?_⟩)
  · -- no two entries have the same index
    have hindex : left.2.1 = right.2.1 := by
      simp only [sortsBefore, decide_eq_true_eq] at hle hge
      omega
    have hnodup : (entries.map fun entry => entry.2.1).Nodup :=
      pairwise_map.mpr (hordered.imp Nat.ne_of_lt)
    exact inj_on_of_nodup_map hnodup ((mergeSort_perm _ _).mem_iff.mp hleft)
      ((filter_append_perm _ _).mem_iff.mp hright) hindex
  · simp only [sortsBefore, decide_eq_true_eq]
    omega
  · simp only [sortsBefore, Bool.or_eq_true, decide_eq_true_eq]
    omega
  · refine (hordered.filter _).imp_of_mem fun {left right} hleft hright hlt => ?_
    have hleft := of_mem_filter hleft
    have hright := of_mem_filter hright
    simp only [sortsBefore, beq_iff_eq, decide_eq_true_eq] at *
    omega
  · refine (hordered.filter _).imp_of_mem fun {left right} hleft hright hlt => ?_
    obtain ⟨hleft, hone⟩ := mem_filter.mp hleft
    obtain ⟨hright, hone'⟩ := mem_filter.mp hright
    have hleft := hrank left hleft
    have hright := hrank right hright
    simp only [sortsBefore, Bool.not_eq_true', beq_eq_false_iff_ne, decide_eq_true_eq] at *
    omega
  · intro left hleft right hright
    obtain ⟨hright, hone⟩ := mem_filter.mp hright
    have hleft := of_mem_filter hleft
    have hright := hrank right hright
    simp only [sortsBefore, Bool.not_eq_true', beq_eq_false_iff_ne, beq_iff_eq,
      decide_eq_true_eq] at *
    omega

/-- **The identities with the name, then those with a wildcard for it, then the others**, each
group in the order of the list.  What a wildcard accepts is one label in front of its suffix. -/
theorem ordered_tls_identity_candidates (identities : List SharedTlsIdentity) :
    orderedTlsIdentityCandidates identities serverName = identities.filter (hasName serverName)
        ++ identities.filter (fun identity =>
          hasWildcard serverName identity && !hasName serverName identity)
        ++ identities.filter (fun identity =>
          !hasWildcard serverName identity && !hasName serverName identity) ∧
    (orderedTlsIdentityCandidates identities serverName).Perm identities ∧
    ∀ suffix host, wildcardHostnameMatches ("*." ++ suffix) host = true ↔
      ∃ label, label ≠ "" ∧ '.' ∉ label.toList ∧ host = label ++ "." ++ suffix := by
  have heq : orderedTlsIdentityCandidates identities serverName
      = identities.filter (hasName serverName) ++ identities.filter (fun identity =>
          hasWildcard serverName identity && !hasName serverName identity)
        ++ identities.filter (fun identity =>
          !hasWildcard serverName identity && !hasName serverName identity) := by
    rw [orderedTlsIdentityCandidates, mergeSort_scored, map_append,
      map_filter_scored serverName (· == 2),
      map_filter_scored serverName (fun rank => !(rank == 2))]
    congr 1
    congr 1
    all_goals
      refine filter_congr fun identity _ => ?_
      rw [bind_tlsIdentityMatchRank]
      cases hasName serverName identity <;> cases hasWildcard serverName identity <;> rfl
  refine ⟨heq, ?_, fun _ _ => wildcardHostnameMatches_iff⟩
  rw [heq, append_assoc]
  refine (Perm.append_left _ ?_).trans (filter_append_perm (hasName serverName) identities)
  simpa [filter_filter] using
    filter_append_perm (hasWildcard serverName) (identities.filter fun i => !hasName serverName i)

end NantianGateway.SharedTls
