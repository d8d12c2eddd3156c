import NantianGateway.Http.ResponseHeaders
import NantianGateway.Ir.Matching

/-!
# What lies behind the prefix of a rule

A rewrite replaces the prefix that a rule has matched, and the cookie of a session is meant for the
requests under it.  Both drop the slashes at the end of the prefix; what is left of a path from the
root is then nothing, or begins with a slash.
-/

namespace NantianGateway.Http

open Text Option

theorem startsWith_slash_iff {s : String} : startsWith s "/" = true ↔ ∃ l, s.toList = '/' :: l := by
  rw [startsWith, List.isPrefixOf_iff_prefix]
  exact ⟨fun ⟨l, hl⟩ => ⟨l, hl.symm⟩, fun ⟨l, hl⟩ => ⟨l, hl.symm⟩⟩

theorem startsWith_slash_append {s : String} (h : startsWith s "/" = true) (t : String) :
    startsWith (s ++ t) "/" = true := by
  obtain ⟨l, hl⟩ := startsWith_slash_iff.mp h
  exact startsWith_slash_iff.mpr ⟨l ++ t.toList, by rw [String.toList_append, hl, List.cons_append]⟩

theorem startsWith_slash_of_append {s t : String} (h : startsWith (s ++ t) "/" = true)
    (hs : s ≠ "") : startsWith s "/" = true := by
  obtain ⟨l, hl⟩ := startsWith_slash_iff.mp h
  rw [String.toList_append] at hl
  cases hlist : s.toList with
  | nil => exact absurd (String.toList_eq_nil_iff.mp hlist) hs
  | cons c r =>
    rw [hlist, List.cons_append, List.cons.injEq] at hl
    exact startsWith_slash_iff.mpr ⟨r, by rw [hlist, hl.1]⟩

theorem rtakeWhile_slash (l : List Char) :
    l.rtakeWhile (· = '/') = [] ∨ ∃ r, l.rtakeWhile (· = '/') = '/' :: r := by
  cases h : l.rtakeWhile (· = '/') with
  | nil => exact .inl rfl
  | cons c r =>
    have hc : c ∈ l.rtakeWhile (· = '/') := h ▸ List.mem_cons_self
    obtain rfl : c = '/' := by simpa using List.mem_rtakeWhile_imp hc
    exact .inr ⟨r, rfl⟩

theorem trimEndMatches_append (s : String) :
    trimEndMatches '/' s ++ .ofList (s.toList.rtakeWhile (· = '/')) = s := by
  rw [← String.toList_inj, String.toList_append, String.toList_ofList, trimEndMatches,
    String.toList_ofList, List.rdropWhile_append_rtakeWhile]

theorem exists_rest {front path : String} (h : matchesPathPrefix front path = true)
    (hpath : startsWith path "/" = true) :
    ∃ rest, path = trimEndMatches '/' front ++ rest ∧ (rest = "" ∨ startsWith rest "/" = true) := by
  by_cases hroot : front = "/"
  · exact ⟨path, by rw [hroot]; exact (String.empty_append).symm, .inr hpath⟩
  have htail : ∃ t, path.toList = front.toList ++ t ∧
      (t = [] ∨ front.toList.getLast? = some '/' ∨ ∃ l, t = '/' :: l) := by
    rw [matchesPathPrefix, if_neg hroot] at h
    split_ifs at h with hsame hends
    · exact ⟨[], by rw [hsame, List.append_nil], .inl rfl⟩
    · obtain ⟨t, ht⟩ := List.isPrefixOf_iff_prefix.mp h
      exact ⟨t, ht.symm, .inr (.inl (beq_iff_eq.mp hends))⟩
    · obtain ⟨-, h⟩ := Bool.and_eq_true_iff.mp h
      obtain ⟨rest, hrest, hslash⟩ := (any_eq_true _ _).mp h
      exact ⟨_, stripFront_eq_some_iff.mp hrest, .inr (.inr (startsWith_slash_iff.mp hslash))⟩
  obtain ⟨t, ht, hcases⟩ := htail
  refine ⟨.ofList (front.toList.rtakeWhile (· = '/') ++ t), ?_, ?_⟩
  · rw [String.ofList_append, ← String.append_assoc, trimEndMatches_append, ← String.toList_inj, ht,
      String.toList_append, String.toList_ofList]
  · -- the slashes that were dropped come first, if there are any
    rw [startsWith_slash_iff, String.toList_ofList]
    rcases rtakeWhile_slash front.toList with hslashes | ⟨r, hslashes⟩
    · rw [hslashes, List.nil_append]
      rcases hcases with rfl | hlast | ⟨l, rfl⟩
      · exact .inl rfl
      · have hne : front.toList ≠ [] := by
          rintro heq
          rw [heq] at hlast
          cases hlast
        rw [List.getLast?_eq_some_getLast hne] at hlast
        exact (List.rtakeWhile_eq_nil_iff.mp hslashes hne (decide_eq_true (some.inj hlast))).elim
      · exact .inr ⟨l, rfl⟩
    · exact .inr ⟨r ++ t, by rw [hslashes, List.cons_append]⟩

/-! ## Rewriting -/

def normalizePrefix (front : String) : String :=
  if front = "/" then front else trimEndMatches '/' front

def pathAfterPrefix (path front : String) : Option String :=
  if front = "/" then some path else if path = front then some "" else stripFront front path

def ifEmpty (s fallback : String) : String := if s = "" then fallback else s

variable (replacement : String)

def normalizeReplacement : String :=
  if replacement = "" then "/"
  else if startsWith replacement "/" then ifEmpty (trimEndMatches '/' replacement) "/"
  else ifEmpty ("/" ++ trimEndMatches '/' replacement) "/"

def rewritePrefixPath (path matchedPrefix replacement : String) : String :=
  match pathAfterPrefix path (normalizePrefix matchedPrefix) with
  | none => path
  | some remainder =>
    if replacement = "" then
      if remainder = "" then "/"
      else if startsWith remainder "/" then remainder
      else "/" ++ remainder
    else if remainder = "" then normalizeReplacement replacement
    else if normalizeReplacement replacement = "/" then remainder
    else if remainder = "/" then normalizeReplacement replacement ++ "/"
    else normalizeReplacement replacement ++ remainder

def rewritePathAndQuery (path : String) (query : Option String) (modifier : PathModifier)
    (matchedHttpPath : Option MatchedHttpPath) : String :=
  let rewrittenPath :=
    if modifier.modifierType = "ReplaceFullPath" ∧ modifier.replaceFullPath ≠ "" then
      modifier.replaceFullPath
    else if modifier.modifierType = "ReplacePrefixMatch" then
      rewritePrefixPath path ((matchedHttpPath.map MatchedHttpPath.path).getD "/")
        modifier.replacePrefixMatch
    else path
  match query.filter fun query => query ≠ "" with
  | some query => rewrittenPath ++ "?" ++ query
  | none => rewrittenPath

theorem trimEndMatches_ne_slash (s : String) : trimEndMatches '/' s ≠ "/" := by
  intro h
  have hlist : s.toList.rdropWhile (· = '/') = ['/'] := by
    rw [← String.toList_ofList (l := s.toList.rdropWhile (· = '/'))]
    exact congrArg String.toList h
  have hne : s.toList.rdropWhile (· = '/') ≠ [] := by
    rw [hlist]
    exact List.cons_ne_nil _ _
  refine List.rdropWhile_last_not _ _ hne ?_
  simp [hlist]

theorem pathAfterPrefix_eq {front path rest : String}
    (h : path = trimEndMatches '/' front ++ rest) :
    pathAfterPrefix path (normalizePrefix front) = some rest := by
  rw [normalizePrefix]
  split_ifs with hroot
  · rw [pathAfterPrefix, if_pos hroot, h, hroot]
    exact congrArg some String.empty_append
  · rw [pathAfterPrefix, if_neg (trimEndMatches_ne_slash front)]
    split_ifs with hsame
    · rw [String.append_eq_left_iff.mp (h.symm.trans hsame)]
    · rw [stripFront_eq_some_iff, h, String.toList_append]

def replacementBase : String :=
  if replacement = "" ∨ startsWith replacement "/" then trimEndMatches '/' replacement
  else "/" ++ trimEndMatches '/' replacement

theorem replacementBase_spec :
    normalizeReplacement replacement = ifEmpty (replacementBase replacement) "/" ∧
    replacementBase replacement ≠ "/" ∧
    (replacementBase replacement = "" ∨ startsWith (replacementBase replacement) "/" = true) := by
  rw [normalizeReplacement, replacementBase]
  by_cases hne : replacement = ""
  · rw [hne]
    decide
  simp only [hne, if_false, false_or]
  split_ifs with hslash
  · refine ⟨rfl, trimEndMatches_ne_slash _, or_iff_not_imp_left.mpr fun htrim => ?_⟩
    rw [← trimEndMatches_append replacement] at hslash
    exact startsWith_slash_of_append hslash htrim
  · refine ⟨(if_neg fun h => ?_).symm, fun h => ?_, .inr (startsWith_slash_append rfl _)⟩
    · exact absurd (String.append_eq_empty_iff.mp h).1 (by decide)
    · -- only slashes, of which the first would be in front
      have hsame := trimEndMatches_append replacement
      rw [String.append_eq_left_iff.mp h, String.empty_append] at hsame
      rcases rtakeWhile_slash replacement.toList with hslashes | ⟨r, hslashes⟩
      · exact hne (hsame.symm.trans (congrArg String.ofList hslashes))
      · refine hslash (startsWith_slash_iff.mpr ⟨r, ?_⟩)
        rw [← hsame, String.toList_ofList, hslashes]

theorem ifEmpty_of_startsWith {s : String} (h : startsWith s "/" = true) (fallback : String) :
    ifEmpty s fallback = s := by
  refine if_neg fun hnil => ?_
  rw [hnil] at h
  cases h

/-- **A rewritten path**: the replacement and the rest of the path, or a slash if both are empty. -/
theorem prefix_rewritten {front path : String} {modifier : PathModifier}
    (haccepts : matchesPathPrefix front path = true) (hpath : startsWith path "/" = true)
    (htype : modifier.modifierType = "ReplacePrefixMatch") (query : Option String) :
    ∃ rest rewritten, path = trimEndMatches '/' front ++ rest ∧
      (rest = "" ∨ startsWith rest "/" = true) ∧
      rewritten = ifEmpty (replacementBase modifier.replacePrefixMatch ++ rest) "/" ∧
      startsWith rewritten "/" = true ∧
      rewritePathAndQuery path query modifier (some ⟨front, "PathPrefix"⟩)
        = rewritten ++ ((query.filter (· ≠ "")).map ("?" ++ ·)).getD "" := by
  obtain ⟨rest, hrest, hcases⟩ := exists_rest haccepts hpath
  obtain ⟨hnormal, hne, hbase⟩ := replacementBase_spec modifier.replacePrefixMatch
  have hpart : startsWith (ifEmpty (replacementBase modifier.replacePrefixMatch ++ rest) "/") "/"
      = true := by
    rcases hbase with hbase | hbase
    · rw [hbase, String.empty_append]
      rcases hcases with rfl | hslash
      · rfl
      · rwa [ifEmpty_of_startsWith hslash]
    · have hboth := startsWith_slash_append hbase rest
      rwa [ifEmpty_of_startsWith hboth]
  have hpath : rewritePrefixPath path front modifier.replacePrefixMatch
      = ifEmpty (replacementBase modifier.replacePrefixMatch ++ rest) "/" := by
    rw [rewritePrefixPath, pathAfterPrefix_eq hrest]
    simp only [hnormal]
    rcases hcases with rfl | hslash
    · simp only [if_true, String.append_empty]
      split_ifs with hnil
      · rw [hnil]
        rfl
      · rfl
    · have hrest : rest ≠ "" := fun h => by rw [h] at hslash; cases hslash
      rw [if_neg hrest, if_neg hrest, if_pos hslash]
      rcases hbase with hbase | hbase
      · rw [hbase, String.empty_append, ifEmpty_of_startsWith hslash]
        split_ifs <;> first | rfl | contradiction
      · rw [ifEmpty_of_startsWith hbase, if_neg hne,
          ifEmpty_of_startsWith (startsWith_slash_append hbase rest)]
        split_ifs with hnil hroot
        · rw [hnil] at hbase
          cases hbase
        · rw [hroot]
        · rfl
  refine ⟨rest, _, hrest, hcases, rfl, hpart, ?_⟩
  rw [rewritePathAndQuery, htype, if_neg (by simp), if_pos rfl]
  cases query.filter (· ≠ "") with
  | none => exact hpath.trans (String.append_empty).symm
  | some query => exact (congrArg (· ++ "?" ++ query) hpath).trans String.append_assoc

def replaceBy : PathModifier :=
  { modifierType := "ReplacePrefixMatch", replacePrefixMatch := replacement }

theorem prefix_rewritten_users : rewritePathAndQuery "/v1/users" (some "a=b") (replaceBy "/v2/")
    (some ⟨"/v1/", "PathPrefix"⟩) = "/v2/users?a=b" ∧ ∃ rest rewritten,
    "/v1/users" = trimEndMatches '/' "/v1/" ++ rest ∧ (rest = "" ∨ startsWith rest "/" = true) ∧
    rewritten = ifEmpty (replacementBase "/v2/" ++ rest) "/" ∧ startsWith rewritten "/" = true ∧
    rewritePathAndQuery "/v1/users" (some "a=b") (replaceBy "/v2/") (some ⟨"/v1/", "PathPrefix"⟩)
      = rewritten ++ (((some "a=b").filter (· ≠ "")).map ("?" ++ ·)).getD "" :=
  ⟨by decide +kernel, @prefix_rewritten "/v1/" "/v1/users" (replaceBy "/v2/") (by decide +kernel)
    (by decide) rfl _⟩

/-- The target of `OPTIONS *` has no slash in front, a replacement may have none, and the mark of an
empty query is dropped. -/
theorem prefix_rewritten_otherwise :
    rewritePathAndQuery "*" none (replaceBy "/") (some ⟨"/", "PathPrefix"⟩) = "*" ∧
    rewritePathAndQuery "/v1/a" (some "") (replaceBy "v2") (some ⟨"/v1", "PathPrefix"⟩)
      = "/v2/a" := by
  decide +kernel

/-! ## The path of a session cookie -/

/-- RFC 6265, 5.1.4: a path is the cookie's, or lies below it. -/
def PathMatches (cookie path : String) : Prop :=
  ∃ rest, path = cookie ++ rest ∧
    (rest = "" ∨ endsWithChar cookie '/' = true ∨ startsWith rest "/" = true)

theorem startsWith_normalizeCookiePath (path : String) :
    startsWith (normalizeCookiePath path) "/" = true := by
  rw [normalizeCookiePath]
  simp only
  split_ifs with hroot hnil hslash
  · rfl
  · rfl
  · exact hslash
  · exact startsWith_slash_append rfl _

theorem startsWith_of_pathMatches {cookie path : String} (hcookie : startsWith cookie "/" = true)
    (h : PathMatches cookie path) : startsWith path "/" = true := by
  obtain ⟨rest, rfl, -⟩ := h
  exact startsWith_slash_append hcookie rest

theorem pathMatches_root {path : String} (h : startsWith path "/" = true) :
    PathMatches "/" path := by
  obtain ⟨l, hl⟩ := startsWith_slash_iff.mp h
  refine ⟨.ofList l, ?_, .inr (.inl rfl)⟩
  rw [← String.toList_inj, hl, String.toList_append]
  exact congrArg ('/' :: ·) String.toList_ofList.symm

/-- **The cookie of a prefix is sent with every path from the root that the prefix accepts.** -/
theorem pathMatches_normalizeCookiePath {front path : String}
    (h : matchesPathPrefix front path = true) (hpath : startsWith path "/" = true) :
    PathMatches (normalizeCookiePath front) path := by
  obtain ⟨rest, hrest, hcases⟩ := exists_rest h hpath
  rw [normalizeCookiePath]
  simp only
  split_ifs with hroot hnil hslash
  · exact pathMatches_root hpath
  · exact pathMatches_root hpath
  · exact ⟨rest, hrest, hcases.imp_right .inr⟩
  · exact absurd (startsWith_slash_of_append (hrest ▸ hpath) hnil) hslash

/-- A search meets a match wherever it stands, if the pattern says nothing about what is before. -/
def Searches (cr : Crates) : Prop :=
  ∀ pattern u t : String, (∀ c ∈ pattern.toList, c ≠ '^' ∧ c ≠ '\\') →
    cr.regexIsMatch pattern t = true → cr.regexIsMatch pattern (u ++ t) = true

/-- The cookie is sent with every path that the rule accepts. -/
def CoversRule (cr : Crates) (matcher : HttpMatch) (request : RequestMeta)
    (selected : SelectedBackend) : Prop :=
  ∀ path, matchesHttpPath cr matcher { request with path := path } = true →
    PathMatches (cookiePath selected) path

/-- The character that follows these of a pattern is escaped. -/
def escapedAfter (before : List Char) : Bool :=
  before.foldl (fun escaped c => !escaped && c = '\\') false

/-- The characters mean themselves: none that is special stands there without an escape. -/
def Literally (before : List Char) : Prop :=
  ∀ a c b, before = a ++ c :: b → escapedAfter a = false → c ∉ ".*+?([\x7b|^$".toList

/-- A slash in the literal beginning of a pattern stands behind slashes only, if at all. -/
def Rootward (pattern : String) : Prop :=
  ∀ before after, pattern.toList = before ++ '/' :: after → escapedAfter before = false →
    Literally before → ∀ c ∈ before, c = '/'

variable {request : RequestMeta} {matcher : HttpMatch} {cr : Crates}

theorem matchesPathPrefix_of_accepts (htype : matcher.pathType ≠ "RegularExpression")
    (h : matchesHttpPath cr matcher request = true) :
    matchesPathPrefix (normalizeHttpPathMatch matcher).path request.path = true := by
  rw [matchesHttpPath] at h
  rw [normalizeHttpPathMatch]
  split_ifs at h ⊢ with hnil
  · rfl
  · split at h
    · rw [beq_iff_eq.mp h, matchesPathPrefix, if_pos rfl, ite_self]
    · contradiction
    · exact h

theorem accepts_append (hcr : Searches cr) (htype : matcher.pathType = "RegularExpression")
    (hplain : ∀ c ∈ ((matcher.compiledPathRegex.map Regex.pattern).getD matcher.path).toList,
      c ≠ '^' ∧ c ≠ '\\') {path : String} (u : String)
    (h : matchesHttpPath cr matcher { request with path := path } = true) :
    matchesHttpPath cr matcher { request with path := u ++ path } = true := by
  rw [matchesHttpPath] at h ⊢
  split_ifs at h ⊢ with hnil
  · rfl
  · simp only [htype, regexMatches] at h ⊢
    cases hregex : matcher.compiledPathRegex with
    | none =>
      rw [hregex] at h hplain
      obtain ⟨hvalid, h⟩ := Bool.and_eq_true_iff.mp h
      exact Bool.and_eq_true_iff.mpr ⟨hvalid, hcr _ u _ hplain h⟩
    | some regex =>
      rw [hregex] at h hplain
      exact hcr _ u _ hplain h

theorem startsWith_cookiePath (selected : SelectedBackend) :
    startsWith (cookiePath selected) "/" = true := by
  rw [cookiePath]
  split
  · rfl
  · rw [longestLiteralCookiePath]
    split_ifs
    · rfl
    · exact startsWith_normalizeCookiePath _
    · exact startsWith_normalizeCookiePath _

/-- By induction on what is left to read; so far, only slashes stand before the last slash. -/
theorem literalLoop_slashes {pattern : String} (h : Rootward pattern) {before last rest : List Char}
    (hsplit : pattern.toList = before ++ rest) (hliteral : Literally before)
    (hlast : ∀ c ∈ last, c = '/') :
    ∀ c ∈ literalLoop before last (escapedAfter before) rest, c = '/' := by
  induction rest generalizing before last with
  | nil => exact hlast
  | cons c rest ih =>
    have hread : pattern.toList = (before ++ [c]) ++ rest := by
      rw [hsplit, List.append_assoc, List.singleton_append]
    have hescaped : escapedAfter (before ++ [c]) = (!escapedAfter before && c = '\\') :=
      List.foldl_concat ..
    have hnext (hc : escapedAfter before = false → c ∉ ".*+?([\x7b|^$".toList) :
        Literally (before ++ [c]) := by
      intro a d b hsplit' ha
      rcases List.eq_nil_or_concat b with rfl | ⟨b, e, rfl⟩
      · obtain ⟨rfl, hd⟩ := List.append_inj' hsplit' rfl
        obtain rfl := List.singleton_inj.mp hd
        exact hc ha
      · rw [List.concat_eq_append, ← List.cons_append, ← List.append_assoc] at hsplit'
        exact hliteral a d b (List.append_inj' hsplit' rfl).1 ha
    rw [literalLoop]
    split_ifs with hpending hback hspecial hslash
    · have hgo := ih hread (hnext fun hnot => absurd hpending (by simp [hnot])) hlast
      rwa [hescaped, hpending] at hgo
    · have hgo := ih hread (hnext fun _ => hback ▸ by decide) hlast
      rwa [hescaped, Bool.eq_false_iff.mpr hpending, decide_eq_true hback] at hgo
    · exact hlast
    · have hbefore := h before rest (hslash.1 ▸ hsplit) (Bool.eq_false_iff.mpr hpending) hliteral
      have hgo := ih hread (hnext fun _ => hspecial) hbefore
      rwa [hescaped, decide_eq_false hback, Bool.and_false] at hgo
    · have hgo := ih hread (hnext fun _ => hspecial) hlast
      rwa [hescaped, decide_eq_false hback, Bool.and_false] at hgo

theorem longestLiteralCookiePath_of_rootward {pattern : String} (h : Rootward pattern) :
    longestLiteralCookiePath pattern = "/" := by
  have hslashes : ∀ c ∈ literalLoop [] [] false pattern.toList, c = '/' :=
    literalLoop_slashes h rfl (fun a c b hnil => absurd hnil (by simp)) (by simp)
  rw [longestLiteralCookiePath]
  split
  · rfl
  · have htrim :
        trimEndMatches '/' (String.ofList (literalLoop [] [] false pattern.toList)) = "" := by
      rw [trimEndMatches, String.toList_ofList]
      exact congrArg String.ofList (List.rdropWhile_eq_nil_iff.mpr (by simpa using hslashes))
    rw [normalizeCookiePath]
    simp only [htrim]
    split_ifs <;> rfl

def literalCrates : Crates :=
  { inertCrates with regexIsMatch := fun _ text => contains text "/api/v1/" }

theorem searches_literalCrates : Searches literalCrates := by
  intro pattern u t _ h
  refine decide_eq_true ((of_decide_eq_true h).trans ?_)
  rw [String.toList_append]
  exact (List.suffix_append _ _).isInfix

def apiMatch : HttpMatch :=
  { path := "/api/v1/.*", pathType := "RegularExpression"
    compiledPathRegex := some ⟨"/api/v1/.*"⟩ }

def apiSelected : SelectedBackend :=
  { routeKind := .http, routeName := "api", routeNamespace := "shop", ruleIndex := some 0,
    routeAnnotations := .empty, listenerName := "web", listenerProtocol := "HTTP",
    backend := {}, backendName := "shop/api:80", filters := [],
    matchedHttpPath := some (normalizeHttpPathMatch apiMatch), timeouts := none, retry := none,
    sessionPersistence := none, backendTls := none }

end NantianGateway.Http
