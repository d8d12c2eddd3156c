import NantianGateway.Http.ResponseHeaders

/-!
# Which origin a response allows

A CORS filter that grants the request an origin writes the two fields that matter.  **One that
grants none leaves the response as it is**, with whatever the upstream has put there.  A header
modifier may write the two fields too.  So the last writer decides, and if there is none, the
upstream does.
-/

namespace NantianGateway.Http

open Text Option List

def HeaderMap.values (headers : HeaderMap) (name : String) : List (List UInt8) :=
  (headers.filter fun field => sameName field.1 name).map Prod.snd

section Values

open HeaderMap

variable {headers headers' : HeaderMap} {name other : String}

theorem values_append (value : List UInt8) : (headers.append name value).values other
      = headers.values other ++ if sameName name other then [value] else [] := by
  have hlower : sameName (asciiLower name) other = sameName name other := by
    rw [sameName, sameName, asciiLower_asciiLower]
  rw [values, HeaderMap.append, filter_append, map_append, filter_singleton, hlower]
  cases sameName name other <;> rfl

theorem values_remove : (headers.remove name).values other
      = if sameName name other then [] else headers.values other := by
  rw [values, values, remove, List.filter_filter]
  split_ifs with hsame
  · rw [List.filter_eq_nil_iff.mpr, List.map_nil]
    simp only [sameName, beq_iff_eq] at hsame ⊢
    simp [hsame]
  · refine congrArg (List.map Prod.snd) (filter_congr fun field _ => ?_)
    simp only [sameName, beq_iff_eq] at hsame ⊢
    grind

theorem values_setOrRemove {value : Option String}
    (h : setOrRemove headers name value = some headers') :
    headers'.values other
      = if sameName name other then (value.map valueBytes).toList else headers.values other := by
  cases value with
  | none =>
    obtain rfl := some.inj h
    exact values_remove
  | some value =>
    obtain ⟨-, rfl⟩ := (ite_some_none_eq_some.mp h).imp_right Eq.symm
    rw [HeaderMap.insert, values_append, values_remove]
    split_ifs <;> simp

theorem values_foldlM {α : Type} {step : HeaderMap → α → Option HeaderMap} {items : List α}
    (hstep : ∀ item ∈ items, ∀ headers headers', step headers item = some headers' →
      headers'.values other = headers.values other)
    (h : items.foldlM step headers = some headers') :
    headers'.values other = headers.values other := by
  induction items generalizing headers with
  | nil => rw [some.inj h]
  | cons item items ih =>
    obtain ⟨hitem, hitems⟩ := forall_mem_cons.mp hstep
    obtain ⟨middle, hmiddle, hrest⟩ := bind_eq_some_iff.mp h
    rw [ih hitems hrest, hitem _ _ hmiddle]

end Values

def allowOriginField : String := "access-control-allow-origin"

def allowCredentialsField : String := "access-control-allow-credentials"

section Filters

variable (requestHeaders : Option (BTreeMap (List String)))

def requestOrigin : Option String :=
  requestHeaders.bind fun headers => (headers.get "origin").bind head?

def grantedOrigin (cors : CorsFilter) : Option String :=
  requestHeaders.bind fun headers =>
    (requestOrigin requestHeaders).bind fun origin => corsAllowOrigin cors origin headers

def corsOf (filter : Filter) : Option CorsFilter :=
  if filter.filterType = "CORS" then filter.cors else none

def grants (filter : Filter) : Bool :=
  (corsOf filter).any fun cors => (grantedOrigin requestHeaders cors).isSome

/-- The fields that a header modifier names. -/
def namedFields (modifier : HeaderModifier) : List String :=
  modifier.remove ++ modifier.set.map (·.name) ++ modifier.add.map (·.name)

/-- The filter is a header modifier that names one of the two fields. -/
def modifies (filter : Filter) : Bool :=
  filter.filterType = "ResponseHeaderModifier" && filter.headerModifier.any fun modifier =>
    (namedFields modifier).any fun name =>
      HeaderMap.sameName name allowOriginField || HeaderMap.sameName name allowCredentialsField

variable (filters : List Filter)

/-- The last filter that writes one of the two fields. -/
def lastWriter : Option Filter :=
  filters.reverse.find? fun filter => modifies filter || grants requestHeaders filter

variable {requestHeaders} {response result : HeaderMap} {cors : CorsFilter} {method : Option String}

theorem applyCorsFilter_of_not_granted (h : grantedOrigin requestHeaders cors = none) :
    applyCorsFilter response cors method requestHeaders = some response := by
  unfold applyCorsFilter
  cases requestHeaders with
  | none => rfl
  | some headers =>
    rw [grantedOrigin, bind_some, requestOrigin, bind_some] at h
    cases horigin : (headers.get "origin").bind head? with
    | none => simp only [horigin]
    | some origin =>
      rw [horigin, bind_some] at h
      simp only [horigin, h]

theorem corsAllowOrigin_cases {origin allow : String} {headers : BTreeMap (List String)}
    (h : corsAllowOrigin cors origin headers = some allow) :
    (allow = "*" ∧ cors.allowCredentials = false) ∨
    (allow = origin ∧
      ∃ pattern ∈ cors.allowOrigins, pattern = "*" ∨ originMatches pattern origin) := by
  unfold corsAllowOrigin at h
  split_ifs at h with hstar hcredentials hmatch
  · obtain ⟨pattern, hpat, heq⟩ := any_eq_true.mp hstar
    exact .inr ⟨(some.inj h).symm, pattern, hpat, .inl (beq_iff_eq.mp heq)⟩
  · rw [Bool.or_eq_true, not_or, Bool.not_eq_true] at hcredentials
    exact .inl ⟨(some.inj h).symm, hcredentials.1⟩
  · obtain ⟨pattern, hpat, heq⟩ := any_eq_true.mp hmatch
    exact .inr ⟨(some.inj h).symm, pattern, hpat, .inr heq⟩

theorem exists_of_vary {rest : HeaderMap → Option HeaderMap} {c : Prop} [Decidable c]
    (h : (if c then (appendHeader response "vary" "Origin").bind rest
      else (some response).bind rest) = some result) :
    ∃ varied, (∀ other, HeaderMap.sameName "vary" other = false →
      varied.values other = response.values other) ∧ rest varied = some result := by
  split_ifs at h
  · obtain ⟨varied, hvaried, hrest⟩ := bind_eq_some_iff.mp h
    obtain ⟨-, rfl⟩ := (ite_some_none_eq_some.mp hvaried).imp_right Eq.symm
    refine ⟨_, fun other hother => ?_, hrest⟩
    rw [values_append, hother]
    exact append_nil _
  · exact ⟨response, fun _ _ => rfl, h⟩

/-- The fields that a CORS filter writes besides the two that matter. -/
def otherCorsFields : List String :=
  ["vary", "access-control-expose-headers", "access-control-allow-methods",
    "access-control-allow-headers", "access-control-max-age"]

theorem values_of_granted {allow other : String}
    (h : grantedOrigin requestHeaders cors = some allow)
    (hresult : applyCorsFilter response cors method requestHeaders = some result)
    (hother : ∀ name ∈ otherCorsFields, HeaderMap.sameName name other = false) :
    result.values other =
      if HeaderMap.sameName allowCredentialsField other then
        if cors.allowCredentials then [valueBytes "true"] else []
      else if HeaderMap.sameName allowOriginField other then [valueBytes allow]
      else response.values other := by
  obtain ⟨headers, rfl, h⟩ := bind_eq_some_iff.mp h
  obtain ⟨origin, horigin, h⟩ := bind_eq_some_iff.mp h
  rw [requestOrigin, bind_some] at horigin
  simp only [applyCorsFilter, horigin, h, bind_eq_bind, bind_eq_some_iff] at hresult
  obtain ⟨r₁, h₁, hresult⟩ := hresult
  obtain ⟨r₂, hvary, hresult⟩ := exists_of_vary hresult
  simp only [bind_eq_some_iff] at hresult
  obtain ⟨r₃, h₃, r₄, h₄, r₅, h₅, r₆, h₆, h₇⟩ := hresult
  simp only [otherCorsFields, forall_mem_cons] at hother
  obtain ⟨hv, hexpose, hmethods, hheaders, hage, -⟩ := hother
  simp only [values_setOrRemove h₇, hage, values_setOrRemove h₆, hheaders, values_setOrRemove h₅,
    hmethods, values_setOrRemove h₄, hexpose, values_setOrRemove h₃, hvary other hv,
    @values_setOrRemove _ _ _ _ (some allow) h₁, Bool.false_eq_true, if_false]
  cases cors.allowCredentials <;> rfl

theorem applyCorsFilter_of_granted {allow : String}
    (h : grantedOrigin requestHeaders cors = some allow)
    (hresult : applyCorsFilter response cors method requestHeaders = some result) :
    result.values allowOriginField = [valueBytes allow] ∧
    result.values allowCredentialsField
      = if cors.allowCredentials then [valueBytes "true"] else [] := by
  constructor
  · rw [values_of_granted h hresult (by decide +kernel), if_neg (by decide +kernel),
      if_pos (by decide +kernel)]
  · rw [values_of_granted h hresult (by decide +kernel), if_pos (by decide +kernel)]

theorem values_applyHeaderModifier {modifier : HeaderModifier} {other : String}
    (hother : ∀ name ∈ namedFields modifier, HeaderMap.sameName name other = false)
    (h : applyHeaderModifier response modifier = some result) :
    result.values other = response.values other := by
  simp only [namedFields, forall_mem_append, List.forall_mem_map] at hother
  obtain ⟨⟨hremove, hset⟩, hadd⟩ := hother
  obtain ⟨middle, hmiddle, hlast⟩ := bind_eq_some_iff.mp h
  rw [values_foldlM (fun op hop headers headers' happend => ?_) hlast,
    values_foldlM (fun op hop headers headers' hinsert => ?_) hmiddle]
  · refine List.foldlRecOn modifier.remove HeaderMap.remove
      (motive := fun headers => headers.values other = response.values other) rfl
      fun headers hheaders name hname => ?_
    rw [values_remove, hremove name hname, if_neg Bool.false_ne_true, hheaders]
  · rw [@values_setOrRemove _ _ _ _ (some op.value) hinsert, hset op hop,
      if_neg Bool.false_ne_true]
  · obtain ⟨-, rfl⟩ := (ite_some_none_eq_some.mp happend).imp_right Eq.symm
    rw [values_append, hadd op hop, if_neg Bool.false_ne_true, append_nil]

/-- The filter, if it is a header modifier, does not name a field. -/
def Spares (field : String) (filter : Filter) : Prop :=
  filter.filterType = "ResponseHeaderModifier" → ∀ modifier, filter.headerModifier = some modifier →
    ∀ name ∈ namedFields modifier, HeaderMap.sameName name field = false

theorem values_applyResponseFilter {filter : Filter} {other : String}
    (hspares : Spares other filter)
    (hcors : ∀ cors ∈ corsOf filter, ∀ allow ∈ grantedOrigin requestHeaders cors,
      ∀ name ∈ allowCredentialsField :: allowOriginField :: otherCorsFields,
        HeaderMap.sameName name other = false)
    (h : applyResponseFilter method requestHeaders response filter = some result) :
    result.values other = response.values other := by
  rw [applyResponseFilter] at h
  split_ifs at h with hmodifies htype
  · cases hmodifier : filter.headerModifier with
    | none =>
      rw [hmodifier] at h
      rw [some.inj h]
    | some modifier =>
      rw [hmodifier] at h
      exact values_applyHeaderModifier (hspares hmodifies modifier hmodifier) h
  · cases hfilter : filter.cors with
    | none =>
      rw [hfilter] at h
      rw [some.inj h]
    | some cors =>
      rw [hfilter] at h
      cases hgranted : grantedOrigin requestHeaders cors with
      | none => rw [some.inj ((applyCorsFilter_of_not_granted hgranted).symm.trans h)]
      | some allow =>
        have hfields := hcors cors (by rw [corsOf, if_pos htype]; exact hfilter) allow hgranted
        rw [forall_mem_cons, forall_mem_cons] at hfields
        rw [values_of_granted hgranted h hfields.2.2, hfields.1, hfields.2.1,
          if_neg Bool.false_ne_true, if_neg Bool.false_ne_true]
  · rw [some.inj h]

/-- A filter that writes neither field leaves both as they are. -/
theorem values_of_not_writes {filter : Filter} {other : String}
    (hother : other = allowOriginField ∨ other = allowCredentialsField)
    (hwrites : (modifies filter || grants requestHeaders filter) = false)
    (h : applyResponseFilter method requestHeaders response filter = some result) :
    result.values other = response.values other := by
  obtain ⟨hmodifies, hgrants⟩ := Bool.or_eq_false_iff.mp hwrites
  refine values_applyResponseFilter (fun htype modifier hmodifier name hname => ?_)
    (fun cors hcors allow hallow => ?_) h
  · have hnot : ∀ name ∈ namedFields modifier, HeaderMap.sameName name allowOriginField = false
        ∧ HeaderMap.sameName name allowCredentialsField = false := by
      simpa [modifies, htype, hmodifier] using hmodifies
    rcases hother with rfl | rfl
    · exact (hnot name hname).1
    · exact (hnot name hname).2
  · rw [grants, hcors, Option.any_some, hallow] at hgrants
    cases hgrants

theorem lastWriter_concat (filter : Filter) : lastWriter requestHeaders (filters ++ [filter])
      = if modifies filter || grants requestHeaders filter then some filter
        else lastWriter requestHeaders filters := by
  rw [lastWriter, reverse_append, reverse_singleton, singleton_append, List.find?_cons, lastWriter]
  split <;> simp_all

theorem foldlM_applyResponseFilter {filters : List Filter}
    (hlast : ∀ filter, lastWriter requestHeaders filters = some filter → modifies filter = false)
    (h : filters.foldlM (applyResponseFilter method requestHeaders) response = some result) :
    (lastWriter requestHeaders filters = none ∧
      result.values allowOriginField = response.values allowOriginField) ∨
    ∃ filter ∈ filters, ∃ cors allow, lastWriter requestHeaders filters = some filter ∧
      corsOf filter = some cors ∧ grantedOrigin requestHeaders cors = some allow ∧
      result.values allowOriginField = [valueBytes allow] ∧
      result.values allowCredentialsField
        = if cors.allowCredentials then [valueBytes "true"] else [] := by
  induction filters using reverseRecOn generalizing result with
  | nil => exact .inl ⟨rfl, by rw [some.inj h]⟩
  | append_singleton filters filter ih =>
    rw [foldlM_append] at h
    obtain ⟨middle, hmiddle, hstep⟩ := bind_eq_some_iff.mp h
    simp only [foldlM_cons, foldlM_nil, bind_pure] at hstep
    rw [lastWriter_concat] at hlast ⊢
    cases hwrites : modifies filter || grants requestHeaders filter with
    | false =>
      rw [hwrites] at hlast
      have hkept := values_of_not_writes (.inl rfl) hwrites hstep
      have hkept' := values_of_not_writes (.inr rfl) hwrites hstep
      rw [hkept, hkept']
      refine (ih hlast hmiddle).imp_right ?_
      rintro ⟨writer, hwriter, hrest⟩
      exact ⟨writer, mem_append_left _ hwriter, hrest⟩
    | true =>
      rw [hwrites] at hlast
      have hgrants : grants requestHeaders filter = true := by
        rwa [hlast filter rfl, Bool.false_or] at hwrites
      obtain ⟨cors, hcors, hgranted⟩ := (any_eq_true _ _).mp hgrants
      obtain ⟨allow, hallow⟩ := isSome_iff_exists.mp hgranted
      have htype : filter.filterType = "CORS" ∧ filter.cors = some cors := by
        rw [corsOf] at hcors
        split_ifs at hcors with htype
        exact ⟨htype, hcors⟩
      rw [applyResponseFilter, if_neg (by rw [htype.1]; decide), if_pos htype.1, htype.2] at hstep
      exact .inr ⟨filter, by simp, cors, allow, rfl, hcors, hallow,
        applyCorsFilter_of_granted hallow hstep⟩

theorem values_applyDefaultSecurityHeaders {other : String}
    (hother : ∀ field ∈ defaultSecurityHeaders, HeaderMap.sameName field.1 other = false)
    (h : applyDefaultSecurityHeaders response = some result) :
    result.values other = response.values other := by
  refine values_foldlM (fun field hfield headers headers' hstep => ?_) h
  split_ifs at hstep
  · rw [@values_setOrRemove _ _ _ _ (some field.2) hstep, hother field hfield,
      if_neg Bool.false_ne_true]
  · rw [some.inj hstep]

theorem contentLength_applyResponseFilters {filters : List Filter}
    (hspares : ∀ filter ∈ filters, Spares "content-length" filter)
    (h : applyResponseFilters response filters method requestHeaders = some result) :
    result.values "content-length" = response.values "content-length" := by
  obtain ⟨middle, hmiddle, hdefault⟩ := bind_eq_some_iff.mp h
  rw [values_applyDefaultSecurityHeaders (by decide +kernel) hdefault]
  refine values_foldlM (fun filter hfilter headers headers' hstep => ?_) hmiddle
  exact values_applyResponseFilter (hspares filter hfilter) (fun _ _ _ _ => by decide +kernel) hstep

end Filters

variable (filters : List Filter)

/-- `build_cors_preflight_response`; the outer `none` is an error. -/
def buildCorsPreflightResponse (method : String)
    (headers : BTreeMap (List String)) : Option (Option HeaderMap) :=
  if !isCorsPreflightRequest (some method) headers ||
      !filters.any (fun filter => filter.filterType == "CORS") then some none
  else (insertHeader [] "content-length" "0").bind fun response =>
    (applyResponseFilters response filters (some method) (some headers)).map some

structure SafeOrigin (filters : List Filter) (requestHeaders : Option (BTreeMap (List String)))
    (response : HeaderMap) : Prop where
  origin : response.values allowOriginField = [] ∨
    (response.values allowOriginField = [valueBytes "*"] ∧
      response.values allowCredentialsField = []) ∨
    ∃ origin, requestOrigin requestHeaders = some origin ∧
      response.values allowOriginField = [valueBytes origin] ∧
      ∃ cors ∈ filters.filterMap corsOf, ∃ pattern ∈ cors.allowOrigins,
        pattern = "*" ∨ originMatches pattern origin = true
  credentials : valueBytes "*" ∈ response.values allowOriginField →
    response.values allowCredentialsField = []
  upstream : (∀ filter ∈ filters, grants requestHeaders filter = false) →
    response.values allowOriginField = []

/-- A rule with a CORS filter tells a client a safe origin. -/
def CorsSafe (requestHeaders : Option (BTreeMap (List String))) (response : HeaderMap) : Prop :=
  filters.filterMap corsOf ≠ [] → SafeOrigin filters requestHeaders response

/-- The last writer grants without credentials, or the client does not call its own origin a star;
and without a writer the upstream says nothing about origins. -/
def OriginDecided (requestHeaders : Option (BTreeMap (List String))) (upstream : HeaderMap) :
    Prop :=
  match lastWriter requestHeaders filters with
  | none => upstream.values allowOriginField = []
  | some filter => requestOrigin requestHeaders = some "*" →
      ∀ cors, corsOf filter = some cors → cors.allowCredentials = false

def CorsDecided (requestHeaders : Option (BTreeMap (List String))) (upstream : HeaderMap) : Prop :=
  filters.filterMap corsOf ≠ [] → OriginDecided filters requestHeaders upstream

theorem corsSafe_iff_corsDecided {filters : List Filter} {method : Option String}
    {requestHeaders : Option (BTreeMap (List String))} {upstream result : HeaderMap}
    (hwriter : ∀ filter, lastWriter requestHeaders filters = some filter → modifies filter = false)
    (h : applyResponseFilters upstream filters method requestHeaders = some result) :
    CorsSafe filters requestHeaders result ↔ CorsDecided filters requestHeaders upstream := by
  refine imp_congr_right fun _ => ?_
  obtain ⟨middle, hmiddle, hdefault⟩ := bind_eq_some_iff.mp h
  have horigin : result.values allowOriginField = middle.values allowOriginField :=
    values_applyDefaultSecurityHeaders (by decide +kernel) hdefault
  have hcredentials : result.values allowCredentialsField = middle.values allowCredentialsField :=
    values_applyDefaultSecurityHeaders (by decide +kernel) hdefault
  obtain ⟨hnone, hkept⟩ | ⟨filter, hfilter, cors, allow, hlast, hcors, hgrant, hallow, hwith⟩ :=
    foldlM_applyResponseFilter hwriter hmiddle
  · rw [OriginDecided, hnone]
    change _ ↔ upstream.values allowOriginField = []
    rw [← hkept, ← horigin]
    refine ⟨fun hsafe => hsafe.upstream fun filter hfilter => ?_, fun hnil => ?_⟩
    · have hnot := List.find?_eq_none.mp hnone filter (mem_reverse.mpr hfilter)
      exact (Bool.or_eq_false_iff.mp (Bool.eq_false_iff.mpr hnot)).2
    · refine ⟨.inl hnil, fun hmem => ?_, fun _ => hnil⟩
      rw [hnil] at hmem
      cases hmem
  · rw [OriginDecided, hlast]
    change _ ↔ (requestOrigin requestHeaders = some "*" →
      ∀ cors, corsOf filter = some cors → cors.allowCredentials = false)
    rw [← horigin] at hallow
    rw [← hcredentials] at hwith
    have hmem : cors ∈ filters.filterMap corsOf := mem_filterMap.mpr ⟨filter, hfilter, hcors⟩
    have hgrants : ¬ ∀ filter ∈ filters, grants requestHeaders filter = false := fun hnone =>
      absurd (hnone filter hfilter) (by simp [grants, hcors, hgrant])
    obtain ⟨headers, rfl, hgrant⟩ := bind_eq_some_iff.mp hgrant
    obtain ⟨origin, hrequest, hgrant⟩ := bind_eq_some_iff.mp hgrant
    have hbare (hoff : cors.allowCredentials = false) :
        result.values allowCredentialsField = [] := by
      rw [hwith, hoff, if_neg Bool.false_ne_true]
    obtain ⟨rfl, hoff⟩ | ⟨rfl, hpat⟩ := corsAllowOrigin_cases hgrant
    · refine iff_of_true ⟨.inr (.inl ⟨hallow, hbare hoff⟩), fun _ => hbare hoff,
        fun hnone => absurd hnone hgrants⟩ fun _ cors' hcors' => ?_
      rwa [← some.inj (hcors.symm.trans hcors')]
    · constructor
      · intro hsafe hstar cors' hcors'
        obtain rfl := some.inj (hcors.symm.trans hcors')
        have hbytes := hsafe.credentials (by
          rw [hallow, some.inj (hrequest.symm.trans hstar)]
          exact mem_singleton_self _)
        rw [hwith] at hbytes
        by_contra hon
        rw [if_pos (Bool.not_eq_false _ ▸ hon)] at hbytes
        cases hbytes
      · intro hstar
        refine ⟨.inr (.inr ⟨allow, hrequest, hallow, cors, hmem, hpat⟩), fun hmem => ?_,
          fun hnone => absurd hnone hgrants⟩
        rw [hallow] at hmem
        have heq := HashStream.utf8_injective (mem_singleton.mp hmem)
        exact hbare (hstar (by rw [hrequest, heq]) cors hcors)

/-- **When a client is told a safe origin**, by every response and by every answer to a preflight,
which has no upstream; for the rules and requests where no header modifier has the last word. -/
theorem cors_safe_iff (filters : List Filter) :
    (∀ method requestHeaders upstream result,
      (∀ filter, lastWriter requestHeaders filters = some filter → modifies filter = false) →
      applyResponseFilters upstream filters method requestHeaders = some result →
      (CorsSafe filters requestHeaders result ↔ CorsDecided filters requestHeaders upstream)) ∧
    ∀ method headers result,
      (∀ filter, lastWriter (some headers) filters = some filter → modifies filter = false) →
      buildCorsPreflightResponse filters method headers = some (some result) →
      (CorsSafe filters (some headers) result ↔ CorsDecided filters (some headers) []) := by
  refine ⟨fun _ _ _ _ => corsSafe_iff_corsDecided, fun method headers result hwriter hresult => ?_⟩
  unfold buildCorsPreflightResponse at hresult
  split_ifs at hresult
  · cases some.inj hresult
  · obtain ⟨response, hresponse, hresult⟩ := bind_eq_some_iff.mp hresult
    obtain ⟨_, hfiltered, heq⟩ := map_eq_some_iff.mp hresult
    rw [some.inj heq] at hfiltered
    rw [corsSafe_iff_corsDecided hwriter hfiltered, CorsDecided, CorsDecided, OriginDecided,
      OriginDecided, @values_setOrRemove _ _ _ _ (some "0") hresponse, if_neg (by decide)]

def shopFilter : Filter :=
  { filterType := "CORS", cors := some { allowOrigins := ["https://shop.example"] } }

def fromOrigin (origin : String) : BTreeMap (List String) :=
  BTreeMap.empty.insert "origin" [origin]

theorem cors_safe_shop : ∃ result,
    applyResponseFilters [] [shopFilter] none (some (fromOrigin "https://shop.example"))
      = some result ∧ CorsSafe [shopFilter] (some (fromOrigin "https://shop.example")) result := by
  have hwriter : lastWriter (some (fromOrigin "https://shop.example")) [shopFilter]
      = some shopFilter := by decide +kernel
  have hsome : (applyResponseFilters [] [shopFilter] none
      (some (fromOrigin "https://shop.example"))).isSome = true := by decide +kernel
  obtain ⟨result, hresult⟩ := isSome_iff_exists.mp hsome
  refine ⟨result, hresult, ((cors_safe_iff [shopFilter]).1 none _ [] _ (fun filter hlast => ?_)
    hresult).mpr fun _ => ?_⟩
  · rw [← some.inj (hwriter.symm.trans hlast)]
    rfl
  · rw [OriginDecided, hwriter]
    exact fun hstar => absurd hstar (by decide)

/-- **The origin that the upstream allows is passed on**, although no filter allows it. -/
theorem upstream_origin_survives : ∃ result,
    applyResponseFilters [(allowOriginField, valueBytes "*")] [shopFilter] none
      (some (fromOrigin "https://evil.example")) = some result ∧
    ¬ CorsSafe [shopFilter] (some (fromOrigin "https://evil.example")) result := by
  have hvalues : (applyResponseFilters [(allowOriginField, valueBytes "*")] [shopFilter] none
      (some (fromOrigin "https://evil.example"))).map (·.values allowOriginField)
      = some [valueBytes "*"] := by decide +kernel
  obtain ⟨result, hresult, hstar⟩ := map_eq_some_iff.mp hvalues
  refine ⟨result, hresult, fun hsafe => ?_⟩
  have hnil := (hsafe (by decide)).upstream (by decide +kernel)
  cases hstar.symm.trans hnil

end NantianGateway.Http
