import NantianGateway.Ir.Matching

/-!
# Hosts that are normalised twice

A request is described by its normalised host, and matching normalises that host once more.  The
second time, the literal in a pair of brackets is an ordinary text: it is cut at its first colon.
-/

namespace NantianGateway

open Text List

theorem takeWhile_ne_eq_self_iff {c : Char} {l : List Char} : l.takeWhile (· ≠ c) = l ↔ c ∉ l := by
  rw [takeWhile_eq_self_iff]
  simp only [decide_eq_true_eq]
  exact ⟨fun h hmem => h c hmem rfl, fun h d hd heq => h (heq ▸ hd)⟩

theorem normalize_of_bracket {host : String} {inner : List Char}
    (h : host.toList = '[' :: inner) :
    (normalizeHostRef host).toList = inner.takeWhile (· ≠ ']') := by
  have hstrip : stripFront "[" host = some (String.ofList inner) := by
    exact stripFront_eq_some_iff.mpr (h.trans (congrArg _ String.toList_ofList.symm))
  simp only [normalizeHostRef, hstrip]
  cases hcut : splitOnce ']' (String.ofList inner) with
  | none =>
    rw [splitOnce, Option.map_eq_none_iff, cutFirst_eq_none_iff, String.toList_ofList] at hcut
    rw [takeWhile_ne_eq_self_iff.mpr hcut]
    exact String.toList_ofList
  | some parts =>
    obtain ⟨hinner, hvalue⟩ := splitOnce_eq_some_iff.mp hcut
    rw [String.toList_ofList] at hinner
    rw [hinner, takeWhile_append, takeWhile_ne_eq_self_iff.mpr hvalue, if_pos rfl]
    simp

/-- An authority that does not begin with a bracket, or whose text between the bracket and the first
closing one neither begins with a bracket nor has a colon in it. -/
def SettledHost (host : String) : Prop :=
  ∀ inner, host.toList = '[' :: inner →
    (inner.takeWhile (· ≠ ']')).head? ≠ some '[' ∧ ':' ∉ inner.takeWhile (· ≠ ']')

theorem settledHost_of_not_bracket {host : String} (h : host.toList.head? ≠ some '[') :
    SettledHost host := by
  intro inner hinner
  rw [hinner] at h
  exact absurd rfl h

/-- A host is settled if nothing is left in what normalisation makes of it that normalisation
looks for. -/
theorem settledHost_iff (host : String) : SettledHost host ↔
      (normalizeHostRef host).toList.head? ≠ some '[' ∧ ':' ∉ (normalizeHostRef host).toList := by
  by_cases hhead : host.toList.head? = some '['
  · obtain ⟨inner, hinner⟩ := head?_eq_some_iff.mp hhead
    rw [normalize_of_bracket hinner, SettledHost, hinner]
    exact ⟨fun h => h inner rfl, fun h rest hrest => (cons_inj_right _).mp hrest ▸ h⟩
  · refine iff_of_true (settledHost_of_not_bracket hhead) ?_
    rw [normalize_of_not_bracket hhead]
    refine ⟨fun hcut => hhead ?_, fun hmem => by simpa using mem_takeWhile_imp hmem⟩
    cases hlist : host.toList with
    | nil =>
      rw [hlist] at hcut
      cases hcut
    | cons c rest =>
      rw [hlist, takeWhile_cons] at hcut
      split at hcut
      · exact hcut
      · cases hcut

theorem normalize_twice_iff (host : String) :
    normalizeHostRef (normalizeHostRef host) = normalizeHostRef host ↔ SettledHost host := by
  rw [settledHost_iff, ← String.toList_inj]
  generalize normalizeHostRef host = once
  by_cases hhead : once.toList.head? = some '['
  · -- the bracket is taken off, so the text gets shorter
    obtain ⟨inner, hinner⟩ := head?_eq_some_iff.mp hhead
    refine iff_of_false (fun heq => ?_) fun h => h.1 hhead
    have hlength := congrArg length heq
    rw [normalize_of_bracket hinner, hinner, length_cons] at hlength
    have hle := (takeWhile_sublist (l := inner) (· ≠ ']')).length_le
    omega
  · rw [normalize_of_not_bracket hhead, takeWhile_ne_eq_self_iff]
    exact (and_iff_right hhead).symm

theorem hostnameMatchScore_ne_none_iff {hostname : String} (h : stripFront "*." hostname = none)
    (host : String) :
    hostnameMatchScore hostname host ≠ none ↔
      normalizeHostRef hostname = normalizeHostRef host := by
  rw [hostnameMatchScore]
  simp [h]

/-- **Normalising twice is normalising once for a settled host, and only for such a host**, which
every host without brackets is.  A hostname spelled like the authority accepts it exactly then. -/
theorem normalizeHostRef_idempotent_iff (host : String) :
    (normalizeHostRef (normalizeHostRef host) = normalizeHostRef host ↔ SettledHost host) ∧
    (host.toList.head? ≠ some '[' → SettledHost host) ∧
    ∀ hostname, stripFront "*." hostname = none → (hostname = host →
        (hostnameMatchScore hostname (normalizeHostRef host) ≠ none ↔ SettledHost host)) ∧
      (SettledHost host → hostnameMatchScore hostname (normalizeHostRef host) ≠ none →
        normalizeHostRef hostname = normalizeHostRef host) := by
  refine ⟨normalize_twice_iff host, settledHost_of_not_bracket, fun hostname hexact => ?_⟩
  rw [hostnameMatchScore_ne_none_iff hexact]
  refine ⟨?_, fun hsettled hscore => hscore.trans ((normalize_twice_iff host).mpr hsettled)⟩
  rintro rfl
  rw [eq_comm, normalize_twice_iff]

/-- **A literal is not accepted by its own hostname**, and a hostname without the brackets accepts
the literals that begin with the same digits. -/
theorem ipv6_literals_cut :
    let hostOf (authority : String) :=
      (RequestMeta.withPort inertCrates (some authority) 0 "/" "GET" .empty).host
    hostOf "[2001:db8::1]:443" = some "2001:db8::1" ∧ normalizeHostRef "2001:db8::1" = "2001" ∧
      bestHostnameScore ["[2001:db8::1]"] (hostOf "[2001:db8::1]:443") = none ∧
      bestHostnameScore ["2001:db8::1"] (hostOf "[2001:db8::2]:443") ≠ none := by
  decide +kernel

end NantianGateway
