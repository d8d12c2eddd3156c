import Mathlib.Data.Prod.Lex
import NantianGateway.Ir.Types
import NantianGateway.Lib.Best
import NantianGateway.Lib.Text

/-!
# Matching a request against a rule, and scoring the match

`matching.rs` and `http_selection/scoring.rs`.  Regular expressions and form decoding come from
other crates; `Crates` holds them as parameters.  A `Regex` is its pattern, so a compiled expression
and one compiled on the fly agree on what they match.
-/

namespace NantianGateway

open Text

/-- The crates the gateway calls: `regex` and `form_urlencoded`. -/
structure Crates where
  /-- `Regex::new` accepts the pattern. -/
  regexValid : String → Bool
  /-- `Regex::is_match`, for the expression compiled from the first argument. -/
  regexIsMatch : String → String → Bool
  formParse : String → List (String × String)

/-- Crates that accept no regular expression and decode no form. -/
def inertCrates : Crates := ⟨fun _ => false, fun _ _ => false, fun _ => []⟩

variable (cr : Crates)

/-! ## Host names -/

/-- The host without its port, and without the brackets of an IPv6 literal. -/
def normalizeHostRef (host : String) : String :=
  match stripFront "[" host with
  | some host =>
    match splitOnce ']' host with
    | some (value, _) => value
    | none => host
  | none => splitHead ':' host

/-- Does a hostname pattern of a route or listener accept a host? -/
def hostnameMatches (pattern host : String) : Bool :=
  match stripFront "*." (normalizeHostRef pattern) with
  | some suffix =>
    match afterDot (len suffix) host.toList with
    | some tail => eqIgnoreAsciiCase (String.ofList tail) suffix
    | none => false
  | none => eqIgnoreAsciiCase (normalizeHostRef pattern) host

def parseAuthorityPort (host : String) : Option UInt32 :=
  match stripFront "[" host with
  | some host => (splitOnceText "]:" host).bind fun parts => parseU32 parts.2
  | none =>
    (rsplitOnce ':' host).bind fun parts =>
      if ':' ∈ parts.1.toList then none else parseU32 parts.2

/-! ## Paths, methods, headers, query parameters -/

def regexMatches (compiledRegex : Option Regex) (pattern candidate : String) : Bool :=
  match compiledRegex with
  | some regex => cr.regexIsMatch regex.pattern candidate
  | none => cr.regexValid pattern && cr.regexIsMatch pattern candidate

def compileRegex (pattern : String) (enabled : Bool) : Option Regex :=
  if enabled && cr.regexValid pattern then some ⟨pattern⟩ else none

def hasAsciiUppercase (value : String) : Bool := value.toList.any Char.isUpper

def lookupMatchName (name : String) : String :=
  if hasAsciiUppercase name then asciiLower name else name

/-- `front` is a path prefix of `path`: equal to it, or followed by a slash. -/
def matchesPathPrefix (front path : String) : Bool :=
  if front = "/" then true
  else if path = front then true
  else if endsWithChar front '/' then startsWith path front
  else startsWith path front && ((stripFront front path).any fun rest => startsWith rest "/")

variable (matcher : HttpMatch) (request : RequestMeta)

def matchesHttpPath : Bool :=
  if matcher.path = "" then true
  else
    match matcher.pathType with
    | "Exact" => request.path == matcher.path
    | "RegularExpression" => regexMatches cr matcher.compiledPathRegex matcher.path request.path
    | _ => matchesPathPrefix matcher.path request.path

def matchesMethod (expected actual : String) : Bool :=
  expected == "" || eqIgnoreAsciiCase expected actual

def matchesValues (expected matchType : String) (actual : Option (List String))
    (compiledRegex : Option Regex) : Bool :=
  match actual with
  | none => false
  | some values =>
    match matchType with
    | "RegularExpression" => values.any fun value => regexMatches cr compiledRegex expected value
    | _ => values.any fun value => value == expected

def matchesHeaders (expected : List HeaderMatch) (actual : BTreeMap (List String)) : Bool :=
  expected.all fun item =>
    matchesValues cr item.value item.matchType (actual.get (lookupMatchName item.name))
      item.compiledRegex

def matchesQueryParams (expected : List QueryMatch) (actual : BTreeMap (List String)) : Bool :=
  expected.all fun item =>
    matchesValues cr item.value item.matchType (actual.get (lookupMatchName item.name))
      item.compiledRegex

def matchesHttpRule : Bool :=
  matchesHttpPath cr matcher request && matchesMethod matcher.method request.method
    && matchesHeaders cr matcher.headers request.headers
    && matchesQueryParams cr matcher.queryParams request.queryParams

/-- The path a match reports: an empty one stands for the prefix `/`. -/
def defaultHttpPathMatch : MatchedHttpPath := { path := "/", pathType := "PathPrefix" }

def normalizeHttpPathMatch : MatchedHttpPath :=
  if matcher.path = "" then defaultHttpPathMatch
  else { path := matcher.path, pathType := matcher.pathType }

/-! ## gRPC -/

structure GrpcPath where
  service : String
  method : String
  deriving DecidableEq

def parseGrpcPath (path : String) : Option GrpcPath :=
  (stripFront "/" path).bind fun path =>
    (splitOnce '/' path).bind fun parts =>
      if parts.1 = "" ∨ parts.2 = "" then none else some ⟨parts.1, parts.2⟩

def matchesGrpcValue (expected actual matchType : String) (compiledRegex : Option Regex) : Bool :=
  if expected = "" then true
  else
    match matchType with
    | "RegularExpression" => regexMatches cr compiledRegex expected actual
    | _ => expected == actual

def matchesGrpcRule (matcher : GrpcMatch) (request : RequestMeta) (grpc : Option GrpcPath) : Bool :=
  if matchesHeaders cr matcher.headers request.headers then
    match grpc with
    | none => matcher.service == "" && matcher.method == ""
    | some grpc =>
      matchesGrpcValue cr matcher.service grpc.service matcher.matchType
          matcher.compiledServiceRegex
        && matchesGrpcValue cr matcher.method grpc.method matcher.matchType
          matcher.compiledMethodRegex
  else false

def isGrpcRequest : Bool :=
  (request.headers.get "content-type").any fun values =>
    values.any fun value => startsWith value "application/grpc"

/-! ## Filters that make a rule useful without a backend -/

def hasNonBackendHttpFilter (filters : List Filter) : Bool :=
  filters.any fun filter =>
    filter.requestRedirect.isSome || filter.urlRewrite.isSome || filter.headerModifier.isSome
      || filter.extensionRef.isSome

/-! ## Request metadata -/

/-- The path before the first question mark, and the decoded query parameters. -/
def splitPathAndQuery (raw : String) : String × BTreeMap (List String) :=
  let parts := (splitOnce '?' raw).getD (raw, "")
  (parts.1, (cr.formParse parts.2).foldl
    (fun params entry => params.push (asciiLower entry.1) entry.2) .empty)

def RequestMeta.withPort (host : Option String) (port : UInt32) (pathAndQuery method : String)
    (headers : BTreeMap (List String)) : RequestMeta :=
  let parts := splitPathAndQuery cr pathAndQuery
  { host := host.map normalizeHostRef
    port := if port ≠ 0 then port else (host.bind parseAuthorityPort).getD 0
    path := parts.1
    method := asciiUpper method
    sourceIp := none
    headers := headers
    queryParams := parts.2 }

/-! ## Scores

Each score is compared field by field, in the order the fields are declared. -/

structure HostnameScore where
  rank : ℕ := 0
  length : ℕ := 0
  deriving DecidableEq

structure HttpRuleScore where
  pathRank : ℕ := 0
  pathLength : ℕ := 0
  methodSpecified : Bool := false
  headerCount : ℕ := 0
  queryCount : ℕ := 0
  deriving DecidableEq

structure GrpcRuleScore where
  serviceSpecified : Bool := false
  methodSpecified : Bool := false
  headerCount : ℕ := 0
  deriving DecidableEq

structure StreamMatchScore where
  hostnameRank : ℕ := 0
  hostnameLength : ℕ := 0
  deriving DecidableEq

instance : LinearOrder HostnameScore :=
  LinearOrder.lift' (fun s => toLex (s.rank, s.length)) fun s t h => by
    cases s; cases t; cases h; rfl

instance : LinearOrder HttpRuleScore :=
  LinearOrder.lift' (fun s => toLex (s.pathRank, toLex (s.pathLength, toLex (s.methodSpecified,
      toLex (s.headerCount, s.queryCount))))) fun s t h => by
    cases s; cases t; cases h; rfl

instance : LinearOrder GrpcRuleScore :=
  LinearOrder.lift' (fun s => toLex (s.serviceSpecified, toLex (s.methodSpecified, s.headerCount)))
    fun s t h => by
    cases s; cases t; cases h; rfl

instance : LinearOrder StreamMatchScore :=
  LinearOrder.lift' (fun s => toLex (s.hostnameRank, s.hostnameLength)) fun s t h => by
    cases s; cases t; cases h; rfl

/-- The score of a rule within a route behind a listener. -/
structure CandidateScore (ρ : Type) where
  listenerHost : HostnameScore
  routeHost : HostnameScore
  rule : ρ

instance {ρ : Type} [LinearOrder ρ] : LinearOrder (CandidateScore ρ) :=
  LinearOrder.lift' (fun s => toLex (s.listenerHost, toLex (s.routeHost, s.rule)))
    fun s t h => by
    cases s; cases t; cases h; rfl

theorem CandidateScore.mk_le_mk {ρ : Type} [LinearOrder ρ] {listenerHost routeHost : HostnameScore}
    {rule rule' : ρ} (h : rule ≤ rule') :
    (⟨listenerHost, routeHost, rule⟩ : CandidateScore ρ) ≤ ⟨listenerHost, routeHost, rule'⟩ := by
  show toLex (listenerHost, toLex (routeHost, rule))
    ≤ toLex (listenerHost, toLex (routeHost, rule'))
  exact Prod.Lex.toLex_le_toLex.mpr (.inr ⟨rfl, Prod.Lex.toLex_le_toLex.mpr (.inr ⟨rfl, h⟩)⟩)

abbrev HttpCandidateScore := CandidateScore HttpRuleScore

abbrev GrpcCandidateScore := CandidateScore GrpcRuleScore

def httpPathRank (pathType : String) : ℕ :=
  match pathType with
  | "Exact" => 3
  | "RegularExpression" => 2
  | _ => 1

def httpMatchScore (matcher : HttpMatch) : HttpRuleScore :=
  { pathRank := httpPathRank (normalizeHttpPathMatch matcher).pathType
    pathLength := len (normalizeHttpPathMatch matcher).path
    methodSpecified := matcher.method ≠ ""
    headerCount := matcher.headers.length
    queryCount := matcher.queryParams.length }

def bestHttpRuleMatch (rule : HttpRule) (request : RequestMeta) :
    Option (MatchedHttpPath × HttpRuleScore) :=
  if rule.matches = [] then some (defaultHttpPathMatch, {})
  else
    Best.maxBy Prod.snd
      ((rule.matches.filter fun matcher => matchesHttpRule cr matcher request).map fun matcher =>
        (normalizeHttpPathMatch matcher, httpMatchScore matcher))

def grpcMatchScore (matcher : GrpcMatch) : GrpcRuleScore :=
  { serviceSpecified := matcher.service ≠ ""
    methodSpecified := matcher.method ≠ ""
    headerCount := matcher.headers.length }

def bestGrpcRuleMatch (rule : GrpcRule) (request : RequestMeta) (grpc : Option GrpcPath) :
    Option GrpcRuleScore :=
  if rule.matches = [] then some {}
  else
    Best.maxBy id ((rule.matches.filter fun matcher => matchesGrpcRule cr matcher request grpc).map
        grpcMatchScore)

def hostnameMatchScore (pattern requestHost : String) : Option HostnameScore :=
  let requestHost := normalizeHostRef requestHost
  match stripFront "*." pattern with
  | some suffix =>
    if hostnameMatches pattern requestHost then
      some { rank := 1, length := len (normalizeHostRef suffix) }
    else none
  | none =>
    if normalizeHostRef pattern = requestHost then
      some { rank := 2, length := len (normalizeHostRef pattern) }
    else none

def bestHostnameScore (hostnames : List String) (requestHost : Option String) :
    Option HostnameScore :=
  if hostnames = [] then some {}
  else
    requestHost.bind fun requestHost =>
      Best.maxBy id (hostnames.filterMap fun hostname => hostnameMatchScore hostname requestHost)

def listenerHostnameScore (listener : Listener) (requestHost : Option String) :
    Option HostnameScore :=
  if listener.hostnames = [] then some {} else bestHostnameScore listener.hostnames requestHost

/-! ## Stream matches -/

def matchesStreamRule (matcher : StreamMatch) (port : UInt32) (serverName : Option String) : Bool :=
  if matcher.port ≠ 0 ∧ matcher.port ≠ port then false
  else if matcher.sniHostname = "" then true
  else serverName.any fun serverName =>
    hostnameMatches matcher.sniHostname (normalizeHostRef serverName)

def streamMatchScore (matcher : StreamMatch) : StreamMatchScore :=
  if matcher.sniHostname = "" then {}
  else
    match stripFront "*." (normalizeHostRef matcher.sniHostname) with
    | some suffix => { hostnameRank := 1, hostnameLength := len suffix }
    | none => { hostnameRank := 2, hostnameLength := len (normalizeHostRef matcher.sniHostname) }

def bestStreamRuleMatchWithTlsMode («matches» : List StreamMatch) (port : UInt32)
    (serverName : Option String) (tlsMode : Option TlsRouteMode) : Option StreamMatchScore :=
  if «matches» = [] then
    match tlsMode with
    | some .terminate => none
    | _ => some {}
  else
    Best.maxBy id
      ((((«matches».filter fun matcher => tlsMode.all fun mode => matcher.mode = mode).filter
        fun matcher => matchesStreamRule matcher port serverName)).map streamMatchScore)

def streamHostnameMatchScore (pattern serverName : String) : Option StreamMatchScore :=
  match stripFront "*." (normalizeHostRef pattern) with
  | some suffix =>
    if hostnameMatches (normalizeHostRef pattern) serverName then
      some { hostnameRank := 1, hostnameLength := len suffix }
    else none
  | none =>
    if normalizeHostRef pattern = serverName then
      some { hostnameRank := 2, hostnameLength := len (normalizeHostRef pattern) }
    else none

variable {pattern suffix host : String}

theorem streamHostScore_of_wildcard {serverName : String}
    (h : stripFront "*." (normalizeHostRef pattern) = some suffix) :
    streamHostnameMatchScore pattern serverName =
      if hostnameMatches (normalizeHostRef pattern) serverName then
        some { hostnameRank := 1, hostnameLength := len suffix }
      else none := by
  delta streamHostnameMatchScore
  rw [h]

theorem streamHostScore_of_exact {serverName : String}
    (h : stripFront "*." (normalizeHostRef pattern) = none) :
    streamHostnameMatchScore pattern serverName =
      if normalizeHostRef pattern = serverName then
        some { hostnameRank := 2, hostnameLength := len (normalizeHostRef pattern) }
      else none := by
  delta streamHostnameMatchScore
  rw [h]

def streamListenerServerNameScore (listener : Listener) (serverName : Option String) :
    Option StreamMatchScore :=
  if listener.hostnames = [] then some {}
  else
    (serverName.map normalizeHostRef).bind fun serverName =>
      Best.maxBy id
        (listener.hostnames.filterMap fun hostname => streamHostnameMatchScore hostname serverName)

/-! ## What hostnames accept -/

theorem lookupMatchName_eq (name : String) : lookupMatchName name = asciiLower name := by
  rw [lookupMatchName]
  by_cases h : hasAsciiUppercase name = true
  · rw [if_pos h]
  · rw [if_neg h, asciiLower_eq_self (Bool.not_eq_true _ ▸ h)]

theorem normalize_of_not_bracket (h : host.toList.head? ≠ some '[') :
    (normalizeHostRef host).toList = host.toList.takeWhile (· ≠ ':') := by
  have hstrip : stripFront "[" host = none := by
    rw [← Option.not_isSome_iff_eq_none]
    intro hs
    obtain ⟨t, ht⟩ := Option.isSome_iff_exists.mp hs
    rw [stripFront_eq_some_iff] at ht
    rw [ht] at h
    exact h rfl
  rw [normalizeHostRef, hstrip, splitHead, String.toList_ofList]

theorem stripFront_star_normalize (h : stripFront "*." pattern = some suffix) :
    stripFront "*." (normalizeHostRef pattern)
      = some (String.ofList (suffix.toList.takeWhile (· ≠ ':'))) := by
  have hp : pattern.toList = '*' :: '.' :: suffix.toList := stripFront_eq_some_iff.mp h
  have hhead : pattern.toList.head? ≠ some '[' := by
    rw [hp]
    simp
  rw [stripFront_eq_some_iff, normalize_of_not_bracket hhead, hp]
  simp

theorem hostnameMatches_of_exact (h : stripFront "*." (normalizeHostRef pattern) = none) :
    hostnameMatches pattern host = eqIgnoreAsciiCase (normalizeHostRef pattern) host := by
  delta hostnameMatches
  rw [h]

theorem hostnameMatches_wildcard_iff
    (h : stripFront "*." (normalizeHostRef pattern) = some suffix) :
    hostnameMatches pattern host = true ↔
      ∃ u t, host.toList = u ++ '.' :: t ∧ t.map Char.toLower = suffix.toList.map Char.toLower := by
  delta hostnameMatches
  rw [h]
  constructor
  · intro hm
    cases ht : afterDot (len suffix) host.toList with
    | none => simp [ht] at hm
    | some t =>
      obtain ⟨-, u, hu⟩ := afterDot_eq_some_iff.mp ht
      simp only [ht] at hm
      rw [eqIgnoreAsciiCase_iff, ← String.toList_inj] at hm
      exact ⟨u, t, hu, by simpa using hm⟩
  · rintro ⟨u, t, hu, ht⟩
    have hlen : byteLen t = len suffix := by
      rw [← byteLen_map_toLower t, ht, byteLen_map_toLower, len]
    have hafter : afterDot (len suffix) host.toList = some t :=
      afterDot_eq_some_iff.mpr ⟨hlen, u, hu⟩
    simp only [hafter]
    rw [eqIgnoreAsciiCase_iff, ← String.toList_inj]
    simpa using ht

theorem bestHostnameScore_ne_none {hostnames : List String} {requestHost : Option String} :
    bestHostnameScore hostnames requestHost ≠ none ↔
      hostnames = [] ∨ ∃ host, requestHost = some host ∧
        ∃ hostname ∈ hostnames, hostnameMatchScore hostname host ≠ none := by
  rw [bestHostnameScore]
  by_cases h : hostnames = []
  · simp [h]
  · rw [if_neg h]
    cases requestHost with
    | none => simp [h]
    | some host =>
      rw [Option.bind_some, ne_eq, Best.maxBy_eq_none, List.filterMap_eq_nil_iff]
      simp [h]

end NantianGateway
