import NantianGateway.Ai.WasmHooks
import NantianGateway.Http.Headers
import NantianGateway.Http.SessionToken

/-!
# The header of a response

Four writers edit the header that the upstream sent: the filters of the rule, the session, the
plugins of the request and the plugins of the response.  Each edit can fail, for a name or a value
that is none, and then the response is not delivered.
-/

namespace NantianGateway.Http

open Text

/-! ## Modifiers -/

def applyHeaderModifier (headers : HeaderMap) (modifier : HeaderModifier) : Option HeaderMap := do
  let headers := modifier.remove.foldl HeaderMap.remove headers
  let headers ← modifier.set.foldlM (fun headers op => insertHeader headers op.name op.value)
    headers
  modifier.add.foldlM (fun headers op => appendHeader headers op.name op.value) headers

/-! ## CORS -/

structure ParsedOrigin where
  scheme : String
  host : String
  port : UInt16

def defaultPort (scheme : String) : Option UInt16 :=
  if eqIgnoreAsciiCase scheme "http" then some 80
  else if eqIgnoreAsciiCase scheme "https" then some 443
  else none

/-- `str::parse::<u16>`, of digits. -/
def parseU16 (digits : String) : Option UInt16 :=
  ((parseU32 digits).filter fun port => port.toNat < 65536).map UInt32.toUInt16

def splitHostPort (authority : String) (default : UInt16) : Option (String × UInt16) :=
  match rsplitOnce ':' authority with
  | none => some (authority, default)
  | some (host, port) =>
    if host = "" ∨ port = "" ∨ ¬ port.toList.all Char.isDigit then some (authority, default)
    else (parseU16 port).map fun port => (host, port)

def ParsedOrigin.parse (value : String) : Option ParsedOrigin := do
  let (scheme, authority) ← splitOnceText "://" value
  if !eqIgnoreAsciiCase scheme "http" && !eqIgnoreAsciiCase scheme "https" then none
  else if authority = "" || contains authority "/" || contains authority "?" then none
  else
    let (host, port) ← splitHostPort authority (← defaultPort scheme)
    if host = "" then none else some ⟨scheme, host, port⟩

def hostPatternMatches (pattern host : String) : Bool :=
  if pattern = "*" then true
  else if !contains pattern "*" then eqIgnoreAsciiCase pattern host
  else
    match splitOnce '*' (asciiLower pattern) with
    | none => false
    | some (before, after) =>
      let host := asciiLower host
      startsWith host before && endsWith host after && len before + len after < len host

def originMatches (allowed origin : String) : Bool :=
  eqIgnoreAsciiCase allowed origin ||
    match ParsedOrigin.parse allowed, ParsedOrigin.parse origin with
    | some allowed, some origin =>
      eqIgnoreAsciiCase allowed.scheme origin.scheme && allowed.port == origin.port &&
        hostPatternMatches allowed.host origin.host
    | _, _ => false

def corsRequestHeader (headers : BTreeMap (List String)) (name : String) : Option String :=
  ((headers.get name).bind List.head?).filter fun value => value ≠ ""

def requestHasCredentials (headers : BTreeMap (List String)) : Bool :=
  ["cookie", "authorization", "proxy-authorization"].any fun name =>
    (corsRequestHeader headers name).isSome

variable (cors : CorsFilter)

def corsAllowOrigin (origin : String) (headers : BTreeMap (List String)) : Option String :=
  if cors.allowOrigins.any fun allowed => allowed == "*" then
    if cors.allowCredentials || requestHasCredentials headers then some origin else some "*"
  else if cors.allowOrigins.any fun allowed => originMatches allowed origin then some origin
  else none

def joinHeaderValues (values : List String) : String := String.intercalate ", " values

/-- The methods or headers of a preflight response: those that are configured, or those that are
asked for where anything is allowed with credentials. -/
def corsAllowList (configured : List String)
    (headers : BTreeMap (List String)) (asked : String) : Option String :=
  if configured = [] then none
  else if cors.allowCredentials && configured.any fun value => value == "*" then
    corsRequestHeader headers asked
  else some (joinHeaderValues configured)

def corsAllowMethods (headers : BTreeMap (List String)) : Option String :=
  corsAllowList cors cors.allowMethods headers "access-control-request-method"

def corsAllowHeaders (headers : BTreeMap (List String)) : Option String :=
  corsAllowList cors cors.allowHeaders headers "access-control-request-headers"

def isCorsPreflightRequest (method : Option String) (headers : BTreeMap (List String)) : Bool :=
  (method.any fun method => eqIgnoreAsciiCase method "OPTIONS") &&
    (corsRequestHeader headers "access-control-request-method").isSome

variable (response : HeaderMap)

def setOrRemove (name : String) : Option String → Option HeaderMap
  | some value => insertHeader response name value
  | none => some (response.remove name)

def applyCorsFilter (cors : CorsFilter) (method : Option String)
    (requestHeaders : Option (BTreeMap (List String))) : Option HeaderMap :=
  match requestHeaders with
  | none => some response
  | some headers =>
    match (headers.get "origin").bind List.head? with
    | none => some response
    | some origin =>
      match corsAllowOrigin cors origin headers with
      | none => some response
      | some allowOrigin => do
          let response ← insertHeader response "access-control-allow-origin" allowOrigin
          let response ←
            if allowOrigin ≠ "*" then appendHeader response "vary" "Origin" else some response
          let response ← setOrRemove response "access-control-allow-credentials"
            (if cors.allowCredentials then some "true" else none)
          let response ← setOrRemove response "access-control-expose-headers"
            (if cors.exposeHeaders ≠ [] then some (joinHeaderValues cors.exposeHeaders)
              else none)
          let preflight := isCorsPreflightRequest method headers
          let response ← setOrRemove response "access-control-allow-methods"
            (if preflight then corsAllowMethods cors headers else none)
          let response ← setOrRemove response "access-control-allow-headers"
            (if preflight then corsAllowHeaders cors headers else none)
          setOrRemove response "access-control-max-age"
            (if preflight then cors.maxAge.map fun seconds => toString seconds.toNat else none)

/-! ## The filters of a rule -/

def defaultSecurityHeaders : List (String × String) :=
  [("x-content-type-options", "nosniff"), ("x-frame-options", "DENY"),
    ("referrer-policy", "strict-origin-when-cross-origin"),
    ("x-permitted-cross-domain-policies", "none"), ("cross-origin-opener-policy", "same-origin")]

def applyDefaultSecurityHeaders : Option HeaderMap :=
  defaultSecurityHeaders.foldlM (fun response field =>
    if (response.get field.1).isNone then insertHeader response field.1 field.2
    else some response) response

def applyResponseFilter (method : Option String)
    (requestHeaders : Option (BTreeMap (List String))) (response : HeaderMap) (filter : Filter) :
    Option HeaderMap :=
  if filter.filterType = "ResponseHeaderModifier" then
    match filter.headerModifier with
    | some modifier => applyHeaderModifier response modifier
    | none => some response
  else if filter.filterType = "CORS" then
    match filter.cors with
    | some cors => applyCorsFilter response cors method requestHeaders
    | none => some response
  else some response

def applyResponseFilters (filters : List Filter) (method : Option String)
    (requestHeaders : Option (BTreeMap (List String))) : Option HeaderMap :=
  (filters.foldlM (applyResponseFilter method requestHeaders) response).bind
    applyDefaultSecurityHeaders

def EffectiveCors (filter : Filter) : Prop :=
  filter.filterType = "CORS" ∧ ∃ cors, filter.cors = some cors ∧ cors.allowOrigins ≠ []

theorem applyCorsFilter_of_nil {response : HeaderMap} {cors : CorsFilter}
    (h : cors.allowOrigins = []) (method : Option String)
    (requestHeaders : Option (BTreeMap (List String))) :
    applyCorsFilter response cors method requestHeaders = some response := by
  have hnone (origin : String) (headers : BTreeMap (List String)) :
      corsAllowOrigin cors origin headers = none := by
    rw [corsAllowOrigin, h]
    rfl
  unfold applyCorsFilter
  split
  · rfl
  · split
    · rfl
    · rw [hnone]

theorem applyResponseFilter_eq_plain {filter : Filter} (h : ¬ EffectiveCors filter)
    (method : Option String) (requestHeaders : Option (BTreeMap (List String)))
    (response : HeaderMap) :
    applyResponseFilter method requestHeaders response filter
      = applyResponseFilter none none response filter := by
  rw [applyResponseFilter, applyResponseFilter]
  split
  · rfl
  · split
    next hcors =>
      cases hfilter : filter.cors with
      | none => rfl
      | some cors =>
        have hnil : cors.allowOrigins = [] := by
          by_contra hne
          exact h ⟨hcors, cors, hfilter, hne⟩
        exact applyCorsFilter_of_nil hnil method requestHeaders
    next => rfl

theorem applyResponseFilters_eq_plain {filters : List Filter}
    (h : ∀ filter ∈ filters, ¬ EffectiveCors filter) (response : HeaderMap)
    (method : Option String) (requestHeaders : Option (BTreeMap (List String))) :
    applyResponseFilters response filters method requestHeaders
      = applyResponseFilters response filters none none := by
  rw [applyResponseFilters, applyResponseFilters]
  congr 1
  induction filters generalizing response with
  | nil => rfl
  | cons filter filters ih =>
    obtain ⟨hfilter, hfilters⟩ := List.forall_mem_cons.mp h
    rw [List.foldlM_cons, List.foldlM_cons, applyResponseFilter_eq_plain hfilter]
    congr 1
    funext response'
    exact ih hfilters response'

/-! ## The session -/

structure SessionManager where
  mac : List UInt8 → List UInt8 → List UInt8
  json : SignedText.Codec SessionToken
  secret : List UInt8

def normalizeCookiePath (path : String) : String :=
  if path = "" ∨ path = "/" then "/"
  else
    let trimmed := trimEndMatches '/' path
    if trimmed = "" then "/" else if startsWith trimmed "/" then trimmed else "/" ++ trimmed

/-- What stands before the last slash of the literal beginning of a pattern; `before` is what has
been read, and a slash at the very beginning does not count. -/
def literalLoop (before last : List Char) (escaped : Bool) : List Char → List Char
  | [] => last
  | c :: rest =>
    if escaped then literalLoop (before ++ [c]) last false rest
    else if c = '\\' then literalLoop (before ++ [c]) last true rest
    else if c ∈ ".*+?([\x7b|^$".toList then last
    else if c = '/' ∧ before ≠ [] then literalLoop (before ++ [c]) before false rest
    else literalLoop (before ++ [c]) last false rest

def longestLiteralCookiePath (pattern : String) : String :=
  let literal := literalLoop [] [] false pattern.toList
  if literal = [] then "/" else normalizeCookiePath (String.ofList literal)

def cookiePath (selected : SelectedBackend) : String :=
  match selected.matchedHttpPath with
  | none => "/"
  | some matched =>
    if matched.pathType = "RegularExpression" then longestLiteralCookiePath matched.path
    else normalizeCookiePath matched.path

def cookieLifetimeType (policy : SessionPersistence) : String :=
  ((policy.cookie.map CookieConfig.lifetimeType).filter fun value => value ≠ "").getD "Session"

def maxAge (now : ℕ) (absoluteExpiresAt : Option UInt64) : Option ℕ :=
  absoluteExpiresAt.map fun expiry => max (expiry.toNat - now) 1

def buildSetCookie (now : ℕ) (policy : SessionPersistence) (selected : SelectedBackend)
    (token : String) (absoluteExpiresAt : Option UInt64) : String :=
  policy.sessionName ++ "=" ++ token ++ "; Path=" ++ cookiePath selected ++ "; HttpOnly" ++
    if cookieLifetimeType policy = "Permanent" then
      match maxAge now absoluteExpiresAt with
      | some seconds => "; Max-Age=" ++ toString seconds
      | none => ""
    else ""

/-- The clock is read for the token, and once more for the cookie. -/
def writeResponseSession (sessions : SessionManager) (now now' : ℕ) (response : HeaderMap)
    (policy : SessionPersistence) (selected : SelectedBackend)
    (previous : Option ResolvedSession) : Option HeaderMap :=
  let payload := buildTokenPayload now policy selected previous
  let token := encodePayload sessions.mac sessions.json sessions.secret payload
  if policy.isCookie then
    appendHeader response "set-cookie" (buildSetCookie now' policy selected token payload.ax)
  else insertHeader response policy.sessionName token

/-! ## Plugins -/

/-- The order in which a `HashMap` hands out its entries, which is any. -/
structure HashOrder where
  visit : List (String × String) → List (String × String)
  perm : ∀ entries, (visit entries).Perm entries

def HashOrder.asKept : HashOrder := ⟨id, fun _ => .rfl⟩

/-- The fields that a plugin wants in the response.  Names that differ only by case are one field,
so that the one that is visited last stays. -/
def applyPluginHeaders (order : HashOrder) (response : HeaderMap) (fields : BTreeMap String) :
    Option HeaderMap :=
  (order.visit fields.entries).foldlM (fun response field =>
    if isHeaderName field.1 then insertHeader response field.1 field.2 else some response) response

end NantianGateway.Http
