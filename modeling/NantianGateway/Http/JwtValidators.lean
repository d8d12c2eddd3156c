import Mathlib.Algebra.Ring.Int.Defs
import NantianGateway.Ir.Types

/-!
# The cache of token validators

`get_or_create_validator` keeps the validators of the process in one map, for good, **keyed by the
URL of the key set alone**.  A run is any sequence of lookups and validations; the key set behind a
URL does not change.
-/

namespace NantianGateway.Http

open List Option

structure JwkKey where
  kid : String
  kty : String
  n : String
  e : String
  deriving DecidableEq

inductive JwtError where
  | missingToken
  | invalidToken (msg : String)
  | noMatchingKey (kid : String)
  | expired
  | jwksFetchFailed (msg : String)
  deriving DecidableEq

def JwtError.text : JwtError → String
  | .missingToken => "missing JWT token"
  | .invalidToken msg => "invalid JWT token: " ++ msg
  | .noMatchingKey kid => "no matching JWK for kid: " ++ kid
  | .expired => "JWT token expired"
  | .jwksFetchFailed msg => "JWKS fetch failed: " ++ msg

structure Validation where
  issuer : Option String
  audience : Option String
  deriving DecidableEq

inductive DecodeFailure where
  | expiredSignature
  | other (msg : String)
  deriving DecidableEq

/-- The outside: the key sets, the RSA keys and the decoder of tokens.  Decoded claims are
the header texts of the claims by name. -/
structure JwtWorld where
  Key : Type
  jwks : String → Except String (List JwkKey)
  fromRsaComponents : String → String → Option Key
  decodeHeader : String → Except String (Option String)
  decode : ℕ → String → Key → Validation → Except DecodeFailure (String → Option String)

variable (w : JwtWorld)

structure JwtValidator where
  jwksUrl : String
  issuer : Option String
  audience : Option String
  cacheTtl : ℕ
  keys : List (String × w.Key)
  fetchedAt : ℤ

inductive Lookup where
  | validator (v : JwtValidator w)
  | error (message : String)
  | panicked

def filterTtl (filter : JwtAuthFilter) : ℕ := (filter.cacheTtlSecs.map UInt64.toNat).getD 3600

/-- `JwtValidator::new` at a time. The first fetch is forced by dating the cache back, which panics
below the least instant. -/
def JwtValidator.new (filter : JwtAuthFilter) (now : ℕ) (client : Except String Unit) : Lookup w :=
  match client with
  | .error msg =>
    .error (JwtError.jwksFetchFailed ("failed to build HTTP client: " ++ msg)).text
  | .ok _ =>
    if (now : ℤ) - filterTtl filter < -2 ^ 63 then .panicked
    else .validator {
      jwksUrl := filter.jwksUrl
      issuer := filter.issuer
      audience := filter.audience
      cacheTtl := filterTtl filter
      keys := []
      fetchedAt := now - filterTtl filter }

variable {w} (v : JwtValidator w)

def JwtValidator.needsRefresh (now : ℕ) : Bool :=
  decide ((v.cacheTtl : ℤ) ≤ now - v.fetchedAt)

variable (w) in
def rsaKeys (keys : List JwkKey) : List (String × w.Key) :=
  (keys.filterMap fun key =>
    if key.kty ≠ "RSA" then none
    else (w.fromRsaComponents key.n key.e).map fun decodingKey => (key.kid, decodingKey)).reverse

def JwtValidator.fetchAndCacheJwks (now : ℕ) : Except JwtError (JwtValidator w) :=
  match w.jwks v.jwksUrl with
  | .error msg => .error (.jwksFetchFailed msg)
  | .ok keys =>
    if rsaKeys w keys = [] then
      .error (.jwksFetchFailed "no valid RSA keys in JWKS response")
    else .ok { v with keys := rsaKeys w keys, fetchedAt := now }

def JwtValidator.getKeyWithRefresh (now : ℕ) (kid : String) :
    Except JwtError w.Key × JwtValidator w :=
  match v.keys.lookup kid with
  | some key => (.ok key, v)
  | none =>
    match v.fetchAndCacheJwks now with
    | .error err => (.error err, v)
    | .ok v =>
      match v.keys.lookup kid with
      | some key => (.ok key, v)
      | none => (.error (.noMatchingKey kid), v)

def claimHeaders (claims : String → Option String) (claimsToHeaders : List ClaimToHeader) :
    List (String × String) :=
  claimsToHeaders.filterMap fun mapping =>
    (claims mapping.claim).map fun value => (mapping.header, value)

/-- `validate`, from the point where the key set has been refreshed if it had to be. -/
def JwtValidator.validateWithKeys (now : ℕ) (token : String)
    (claimsToHeaders : List ClaimToHeader) :
    Except JwtError (List (String × String)) × JwtValidator w :=
  match w.decodeHeader token with
  | .error msg => (.error (.invalidToken ("failed to decode header: " ++ msg)), v)
  | .ok none => (.error (.invalidToken "token header missing 'kid' claim"), v)
  | .ok (some kid) =>
    match v.getKeyWithRefresh now kid with
    | (.error err, v) => (.error err, v)
    | (.ok key, v) =>
      match w.decode now token key ⟨v.issuer, v.audience⟩ with
      | .error .expiredSignature => (.error .expired, v)
      | .error (.other msg) => (.error (.invalidToken msg), v)
      | .ok claims => (.ok (claimHeaders claims claimsToHeaders), v)

def JwtValidator.validate (now : ℕ) (token : String) (claimsToHeaders : List ClaimToHeader) :
    Except JwtError (List (String × String)) × JwtValidator w :=
  if token = "" then (.error .missingToken, v)
  else if v.needsRefresh now then
    match v.fetchAndCacheJwks now with
    | .error err => (.error err, v)
    | .ok v => v.validateWithKeys now token claimsToHeaders
  else v.validateWithKeys now token claimsToHeaders

/-! ## The map of validators -/

variable (w) in
structure JwtValidators where
  poisoned : Bool := false
  validators : List (String × JwtValidator w) := []

def getOrCreateValidator (st : JwtValidators w) (filter : JwtAuthFilter) (now : ℕ)
    (client : Except String Unit) : JwtValidators w × Lookup w :=
  if st.poisoned then (st, .error "JWT_VALIDATORS lock poisoned")
  else
    match st.validators.lookup filter.jwksUrl with
    | some v => (st, .validator v)
    | none =>
      match JwtValidator.new w filter now client with
      | .validator v =>
        ({ st with validators := (filter.jwksUrl, v) :: st.validators }, .validator v)
      | .error msg => (st, .error ("failed to create JWT validator: " ++ msg))
      | .panicked => ({ st with poisoned := true }, .panicked)

/-- What may happen: a lookup for a filter, or a validation by the validator of a URL, which
whoever holds it can ask for at any time. -/
inductive JwtAction where
  | lookup (filter : JwtAuthFilter) (now : ℕ) (client : Except String Unit)
  | validate (url : String) (now : ℕ) (token : String) (claimsToHeaders : List ClaimToHeader)

variable (w) in
structure JwtTrace where
  state : JwtValidators w := {}
  returned : List (JwtAuthFilter × JwtValidator w) := []

def JwtTrace.step (trace : JwtTrace w) : JwtAction → JwtTrace w
  | .lookup filter now client =>
    match getOrCreateValidator trace.state filter now client with
    | (st, .validator v) => ⟨st, (filter, v) :: trace.returned⟩
    | (st, _) => ⟨st, trace.returned⟩
  | .validate url now token claimsToHeaders =>
    { trace with
      state.validators := trace.state.validators.map fun entry =>
        (entry.1,
          if entry.1 = url then (entry.2.validate now token claimsToHeaders).2 else entry.2) }

variable (w) in
def jwtRun (actions : List JwtAction) : JwtTrace w := actions.foldl JwtTrace.step {}

/-! ## What a validator accepts -/

variable (w) in
def servedKeys (url : String) : Option (List (String × w.Key)) :=
  match w.jwks url with
  | .error _ => none
  | .ok keys => if rsaKeys w keys = [] then none else some (rsaKeys w keys)

/-- A validator holds no keys or those its URL serves. -/
def JwtValidator.Coherent : Prop :=
  v.keys = [] ∨ servedKeys w v.jwksUrl = some v.keys

def JwtValidator.config : String × Option String × Option String × ℕ :=
  (v.jwksUrl, v.issuer, v.audience, v.cacheTtl)

variable (w) in
def acceptedHeaders (url : String) (validation : Validation) (now : ℕ) (token : String)
    (claimsToHeaders : List ClaimToHeader) : Option (List (String × String)) :=
  if token = "" then none
  else do
    let keys ← servedKeys w url
    let kid ← (w.decodeHeader token).toOption.join
    let key ← keys.lookup kid
    let claims ← (w.decode now token key validation).toOption
    return claimHeaders claims claimsToHeaders

theorem fetchAndCacheJwks_cases (now : ℕ) :
    (∃ err, v.fetchAndCacheJwks now = .error err ∧ servedKeys w v.jwksUrl = none) ∨
      ∃ keys, servedKeys w v.jwksUrl = some keys ∧
        v.fetchAndCacheJwks now = .ok { v with keys := keys, fetchedAt := now } := by
  rw [JwtValidator.fetchAndCacheJwks, servedKeys]
  cases w.jwks v.jwksUrl with
  | error msg => exact .inl ⟨_, rfl, rfl⟩
  | ok keys =>
    by_cases hnil : rsaKeys w keys = []
    · simp only [if_pos hnil]
      exact .inl ⟨_, rfl, trivial⟩
    · simp only [if_neg hnil]
      exact .inr ⟨_, rfl, rfl⟩

theorem getKeyWithRefresh_spec {v : JwtValidator w} (hv : v.Coherent) (now : ℕ) (kid : String) :
    (v.getKeyWithRefresh now kid).1.toOption
        = (servedKeys w v.jwksUrl).bind (fun keys => keys.lookup kid) ∧
      (v.getKeyWithRefresh now kid).2.Coherent ∧
      (v.getKeyWithRefresh now kid).2.config = v.config := by
  rw [JwtValidator.getKeyWithRefresh]
  cases hkey : v.keys.lookup kid with
  | some key =>
    -- keys that hold one are the served ones
    rcases hv with hnil | hserved
    · rw [hnil] at hkey
      cases hkey
    · refine ⟨?_, .inr hserved, rfl⟩
      rw [hserved, bind_some, hkey]
      rfl
  | none =>
    rcases fetchAndCacheJwks_cases v now with ⟨err, hfetch, hserved⟩ | ⟨keys, hserved, hfetch⟩
    · simp only [hfetch, hserved]
      exact ⟨rfl, hv, trivial⟩
    · simp only [hfetch, hserved]
      cases hkid : keys.lookup kid with
      | some key | none => exact ⟨by rw [bind_some, hkid]; rfl, .inr hserved, rfl⟩

theorem validateWithKeys_spec {v : JwtValidator w} (hv : v.Coherent) (now : ℕ) {token : String}
    (htoken : token ≠ "") (claims : List ClaimToHeader) :
    (v.validateWithKeys now token claims).1.toOption
        = acceptedHeaders w v.jwksUrl ⟨v.issuer, v.audience⟩ now token claims ∧
      (v.validateWithKeys now token claims).2.Coherent ∧
      (v.validateWithKeys now token claims).2.config = v.config := by
  rw [JwtValidator.validateWithKeys, acceptedHeaders, if_neg htoken]
  cases w.decodeHeader token with
  | error msg => exact ⟨(bind_fun_none _).symm, hv, rfl⟩
  | ok kid =>
    cases kid with
    | none => exact ⟨(bind_fun_none _).symm, hv, rfl⟩
    | some kid =>
      obtain ⟨hkey, hcoherent, hconfig⟩ := getKeyWithRefresh_spec hv now kid
      have haccept : ((servedKeys w v.jwksUrl).bind fun keys => (keys.lookup kid).bind fun key =>
            (w.decode now token key ⟨v.issuer, v.audience⟩).toOption.bind fun decoded =>
              some (claimHeaders decoded claims))
          = (v.getKeyWithRefresh now kid).1.toOption.bind fun key =>
            (w.decode now token key ⟨v.issuer, v.audience⟩).toOption.bind fun decoded =>
              some (claimHeaders decoded claims) := by
        rw [hkey, bind_assoc]
      simp only [Except.toOption, join_some, bind_eq_bind, bind_some, Option.pure_def] at haccept ⊢
      rw [haccept]
      generalize v.getKeyWithRefresh now kid = out at hcoherent hconfig ⊢
      obtain ⟨found, v'⟩ := out
      have hfields : v'.issuer = v.issuer ∧ v'.audience = v.audience :=
        ⟨congrArg (·.2.1) hconfig, congrArg (·.2.2.1) hconfig⟩
      cases found with
      | error err => exact ⟨rfl, hcoherent, hconfig⟩
      | ok key =>
        simp only [hfields.1, hfields.2, bind_some]
        cases w.decode now token key ⟨v.issuer, v.audience⟩ with
        | ok decoded => exact ⟨rfl, hcoherent, hconfig⟩
        | error failure => cases failure <;> exact ⟨rfl, hcoherent, hconfig⟩

/-- **Acceptance** is a function of the URL, the issuer and the audience, and a validation
leaves a coherent validator with the same fields. -/
theorem validate_accepts {v : JwtValidator w} (hv : v.Coherent) (now : ℕ) (token : String)
    (claims : List ClaimToHeader) :
    (v.validate now token claims).1.toOption
        = acceptedHeaders w v.jwksUrl ⟨v.issuer, v.audience⟩ now token claims ∧
      (v.validate now token claims).2.Coherent ∧
      (v.validate now token claims).2.config = v.config := by
  rw [JwtValidator.validate]
  by_cases htoken : token = ""
  · rw [if_pos htoken, acceptedHeaders, if_pos htoken]
    exact ⟨rfl, hv, rfl⟩
  · rw [if_neg htoken]
    by_cases hrefresh : v.needsRefresh now = true
    · rw [if_pos hrefresh]
      rcases fetchAndCacheJwks_cases v now with ⟨err, hfetch, hserved⟩ | ⟨keys, hserved, hfetch⟩
      · rw [hfetch, acceptedHeaders, if_neg htoken, hserved]
        exact ⟨rfl, hv, rfl⟩
      · rw [hfetch]
        have hfetched : JwtValidator.Coherent { v with keys := keys, fetchedAt := now } :=
          .inr hserved
        exact validateWithKeys_spec hfetched now htoken claims
    · rw [if_neg hrefresh]
      exact validateWithKeys_spec hv now htoken claims

/-! ## Along a run -/

def Enforces (filter : JwtAuthFilter) : Prop :=
  v.issuer = filter.issuer ∧ v.audience = filter.audience ∧ v.cacheTtl = filterTtl filter

def SameChecks (filter filter' : JwtAuthFilter) : Prop :=
  filter.issuer = filter'.issuer ∧ filter.audience = filter'.audience ∧
    filterTtl filter = filterTtl filter'

def filterConfig (filter : JwtAuthFilter) : String × Option String × Option String × ℕ :=
  (filter.jwksUrl, filter.issuer, filter.audience, filterTtl filter)

theorem new_spec {filter : JwtAuthFilter} {now : ℕ} {client : Except String Unit}
    {v : JwtValidator w} (h : JwtValidator.new w filter now client = .validator v) :
    v.Coherent ∧ v.config = filterConfig filter := by
  cases client with
  | error msg => cases h
  | ok _ =>
    simp only [JwtValidator.new] at h
    split_ifs at h
    obtain rfl := Lookup.validator.inj h
    exact ⟨.inl rfl, rfl⟩

/-- Every validator of the map is coherent, stands under its URL and was made for a filter that was
looked up; every validator returned still stands in the map. -/
structure JwtTrace.Inv (trace : JwtTrace w) : Prop where
  origin : ∀ entry ∈ trace.state.validators, entry.2.Coherent ∧ entry.2.jwksUrl = entry.1 ∧
    ∃ made ∈ trace.returned, entry.2.config = filterConfig made.1
  kept : ∀ entry ∈ trace.returned, entry.2.Coherent ∧
    ∃ v, trace.state.validators.lookup entry.1.jwksUrl = some v ∧ v.config = entry.2.config

theorem lookup_map_snd {α : Type} (f : String → α → α) (l : List (String × α)) (key : String) :
    (l.map fun entry => (entry.1, f entry.1 entry.2)).lookup key = (l.lookup key).map (f key) := by
  induction l with
  | nil => rfl
  | cons entry l ih =>
    obtain ⟨k, a⟩ := entry
    rw [map_cons, lookup_cons, lookup_cons, ih]
    by_cases hkey : key = k
    · subst hkey
      simp
    · rw [beq_false_of_ne hkey]

theorem mem_of_lookup {α : Type} {l : List (String × α)} {key : String} {a : α}
    (h : l.lookup key = some a) : (key, a) ∈ l := by
  obtain ⟨front, back, rfl, -⟩ := lookup_eq_some_iff.mp h
  exact mem_append_right _ mem_cons_self

theorem JwtTrace.Inv.lookup {trace : JwtTrace w} (hinv : trace.Inv) (filter : JwtAuthFilter)
    (now : ℕ) (client : Except String Unit) : (trace.step (.lookup filter now client)).Inv := by
  rw [JwtTrace.step, getOrCreateValidator]
  split_ifs with hpoisoned
  · exact hinv
  · cases hfound : trace.state.validators.lookup filter.jwksUrl with
    | some v =>
      obtain ⟨hcoherent, -, made, hmade, hconfig⟩ := hinv.origin _ (mem_of_lookup hfound)
      refine ⟨fun entry hentry => ?_, fun entry hentry => ?_⟩
      · obtain ⟨hc, hurl, made, hmade, hconfig⟩ := hinv.origin entry hentry
        exact ⟨hc, hurl, made, mem_cons_of_mem _ hmade, hconfig⟩
      · rcases mem_cons.mp hentry with rfl | hentry
        · exact ⟨hcoherent, v, hfound, rfl⟩
        · exact hinv.kept entry hentry
    | none =>
      cases hnew : JwtValidator.new w filter now client with
      | error msg => simpa only [hfound, hnew] using hinv
      | panicked => simpa only [hfound, hnew] using ⟨hinv.origin, hinv.kept⟩
      | validator v =>
        obtain ⟨hcoherent, hconfig⟩ := new_spec hnew
        simp only
        refine ⟨fun entry hentry => ?_, fun entry hentry => ?_⟩
        · rcases mem_cons.mp hentry with rfl | hentry
          · exact ⟨hcoherent, congrArg Prod.fst hconfig, _, mem_cons_self, hconfig⟩
          · obtain ⟨hc, hurl, made, hmade, hconfig⟩ := hinv.origin entry hentry
            exact ⟨hc, hurl, made, mem_cons_of_mem _ hmade, hconfig⟩
        · rcases mem_cons.mp hentry with rfl | hentry
          · exact ⟨hcoherent, v, lookup_cons_self, rfl⟩
          · obtain ⟨hc, v', hv', hconfig'⟩ := hinv.kept entry hentry
            refine ⟨hc, v', ?_, hconfig'⟩
            have hne : entry.1.jwksUrl ≠ filter.jwksUrl := by
              intro heq
              rw [heq, hfound] at hv'
              cases hv'
            rw [lookup_cons, beq_false_of_ne hne]
            exact hv'

theorem JwtTrace.Inv.validate {trace : JwtTrace w} (hinv : trace.Inv) (url : String) (now : ℕ)
    (token : String) (claims : List ClaimToHeader) :
    (trace.step (.validate url now token claims)).Inv := by
  have hkeeps : ∀ key (v : JwtValidator w), v.Coherent →
      (if key = url then (v.validate now token claims).2 else v).Coherent ∧
        (if key = url then (v.validate now token claims).2 else v).config = v.config := by
    intro key v hv
    split_ifs
    · exact (validate_accepts hv now token claims).2
    · exact ⟨hv, rfl⟩
  refine ⟨fun entry hentry => ?_, fun entry hentry => ?_⟩
  · obtain ⟨old, hold, rfl⟩ := List.mem_map.mp hentry
    obtain ⟨hc, hurl, made, hmade, hconfig⟩ := hinv.origin old hold
    obtain ⟨hc', hconfig'⟩ := hkeeps old.1 old.2 hc
    exact ⟨hc', (congrArg Prod.fst hconfig').trans hurl, made, hmade, hconfig'.trans hconfig⟩
  · obtain ⟨hc, v, hv, hconfig⟩ := hinv.kept entry hentry
    obtain ⟨hc', hconfig'⟩ := hkeeps entry.1.jwksUrl v (hinv.origin _ (mem_of_lookup hv)).1
    refine ⟨hc, _, ?_, hconfig'.trans hconfig⟩
    exact (lookup_map_snd (fun key (v : JwtValidator w) =>
      if key = url then (v.validate now token claims).2 else v) _ _).trans
        (by rw [hv, map_some])

theorem jwtRun_inv (actions : List JwtAction) : (jwtRun w actions).Inv := by
  have hrun : ∀ (actions : List JwtAction) (trace : JwtTrace w), trace.Inv →
      (actions.foldl JwtTrace.step trace).Inv := by
    intro actions
    induction actions with
    | nil => exact fun trace hinv => hinv
    | cons action actions ih =>
      intro trace hinv
      refine ih _ ?_
      cases action with
      | lookup filter now client => exact hinv.lookup filter now client
      | validate url now token claims => exact hinv.validate url now token claims
  exact hrun actions {} ⟨fun entry h => absurd h not_mem_nil,
    fun entry h => absurd h not_mem_nil⟩

/-- **The validators of a run** enforce the filters they were returned for if and only if filters
with one URL check the same; one that does accepts what a new validator for the filter accepts. -/
theorem jwt_validators_faithful_iff (w : JwtWorld) (actions : List JwtAction) :
    ((∀ entry ∈ (jwtRun w actions).returned, Enforces entry.2 entry.1) ↔
      ∀ entry ∈ (jwtRun w actions).returned, ∀ entry' ∈ (jwtRun w actions).returned,
        entry.1.jwksUrl = entry'.1.jwksUrl → SameChecks entry.1 entry'.1) ∧
    ∀ entry ∈ (jwtRun w actions).returned, Enforces entry.2 entry.1 →
      ∀ created client fresh, JwtValidator.new w entry.1 created client = .validator fresh →
        ∀ now token claims, (entry.2.validate now token claims).1.toOption
          = (fresh.validate now token claims).1.toOption := by
  obtain ⟨horigin, hkept⟩ := jwtRun_inv (w := w) actions
  generalize jwtRun w actions = trace at horigin hkept
  have hsource : ∀ entry ∈ trace.returned, entry.2.jwksUrl = entry.1.jwksUrl ∧
      ∃ made ∈ trace.returned, entry.2.config = filterConfig made.1 := by
    intro entry hentry
    obtain ⟨-, v, hv, hconfig⟩ := hkept entry hentry
    obtain ⟨-, hurl, made, hmade, hmadeConfig⟩ := horigin _ (mem_of_lookup hv)
    exact ⟨(congrArg Prod.fst hconfig).symm.trans hurl, made, hmade, hconfig.symm.trans hmadeConfig⟩
  refine ⟨⟨fun henforces entry hentry entry' hentry' hurl => ?_, fun hsame entry hentry => ?_⟩,
    fun entry hentry henforces created client fresh hfresh now token claims => ?_⟩
  · obtain ⟨-, v, hv, hconfig⟩ := hkept entry hentry
    obtain ⟨-, v', hv', hconfig'⟩ := hkept entry' hentry'
    rw [hurl, hv'] at hv
    obtain rfl := Option.some.inj hv
    have hfields := hconfig.symm.trans hconfig'
    obtain ⟨hissuer, haudience, httl⟩ := henforces entry hentry
    obtain ⟨hissuer', haudience', httl'⟩ := henforces entry' hentry'
    refine ⟨?_, ?_, ?_⟩
    · rw [← hissuer, ← hissuer']
      exact congrArg (·.2.1) hfields
    · rw [← haudience, ← haudience']
      exact congrArg (·.2.2.1) hfields
    · rw [← httl, ← httl']
      exact congrArg (·.2.2.2) hfields
  · obtain ⟨hurl, made, hmade, hconfig⟩ := hsource entry hentry
    have hmadeUrl : made.1.jwksUrl = entry.1.jwksUrl :=
      (congrArg Prod.fst hconfig).symm.trans hurl
    obtain ⟨hissuer, haudience, httl⟩ := hsame made hmade entry hentry hmadeUrl
    exact ⟨(congrArg (·.2.1) hconfig).trans hissuer, (congrArg (·.2.2.1) hconfig).trans haudience,
      (congrArg (·.2.2.2) hconfig).trans httl⟩
  · obtain ⟨hcoherent, hfields⟩ := new_spec hfresh
    obtain ⟨hissuer, haudience, -⟩ := henforces
    have hurl' : fresh.jwksUrl = entry.1.jwksUrl := congrArg Prod.fst hfields
    have hissuer' : fresh.issuer = entry.1.issuer := congrArg (·.2.1) hfields
    have haudience' : fresh.audience = entry.1.audience := congrArg (·.2.2.1) hfields
    rw [(validate_accepts (hkept entry hentry).1 now token claims).1,
      (validate_accepts hcoherent now token claims).1, (hsource entry hentry).1, hissuer, haudience,
      hurl', hissuer', haudience']

/-! ## Two filters behind one identity provider -/

def oneProvider : JwtWorld where
  Key := Unit
  jwks _ := .ok [⟨"k1", "RSA", "n", "e"⟩]
  fromRsaComponents _ _ := some ()
  decodeHeader _ := .ok (some "k1")
  decode _ _ _ validation :=
    if validation.issuer.all (· = "a") then .ok fun _ => none else .error (.other "InvalidIssuer")

def issuerFilter (issuer : String) : JwtAuthFilter :=
  { jwksUrl := "https://idp.example/jwks", issuer := some issuer }

/-- **The second filter gets the validator of the first**: a token of the issuer `a` is accepted for
the filter that asks for `b`. -/
theorem jwt_validator_shared : ((jwtRun oneProvider [.lookup (issuerFilter "a") 0 (.ok ()),
        .lookup (issuerFilter "b") 0 (.ok ())]).returned.map fun entry =>
      (entry.1.issuer, entry.2.issuer, (entry.2.validate 0 "token" []).1.toOption))
      = [(some "b", some "a", some []), (some "a", some "a", some [])] ∧
    (match JwtValidator.new oneProvider (issuerFilter "b") 0 (.ok ()) with
      | .validator v => (v.validate 0 "token" []).1
      | _ => .ok []) = .error (.invalidToken "InvalidIssuer") := by
  decide +kernel

end NantianGateway.Http
