import NantianGateway.Http.CorsSafety
import NantianGateway.Http.ResponsePhase

/-!
# Responses that the AI gateway post-processes

The body filter collects the chunks and delivers the result in one piece, or what it has collected
if the post-processing fails.  The buffer is that of the cache, and beyond its limit it is emptied:
**the chunks so far are lost**.  The header goes out before, with its `content-length`.
-/

namespace NantianGateway.Http

open Text List

variable {C : Type}

/-! ## A body, call by call -/

/-- The calls of the body filter so far: what went to the client and what was post-processed. -/
structure BodyTrace (C : Type) where
  ctx : ResponseContext C
  sent : List (List UInt8) := []
  posted : List (List UInt8) := []

section

variable (proxy : ResponseProxy) (post : C → List UInt8 → Option (List UInt8))

def BodyTrace.call (trace : BodyTrace C) (part : Option (List UInt8)) (endOfStream : Bool) :
    BodyTrace C :=
  let step := responseBodyFilter proxy post part endOfStream trace.ctx
  ⟨step.ctx, trace.sent ++ step.body.toList, trace.posted ++ step.posted.toList⟩

def deliverBody (ctx : ResponseContext C) (parts : List (Option (List UInt8)))
    (last : Option (List UInt8)) : BodyTrace C :=
  BodyTrace.call proxy post
    (parts.foldl (fun trace part => trace.call proxy post part false) ⟨ctx, [], []⟩) last true

end

def wholeBody (parts : List (Option (List UInt8))) : List UInt8 :=
  parts.flatMap fun part => part.getD []

def decimalValue (value : List UInt8) : Option ℕ :=
  (toStr value).bind fun text =>
    if text ≠ "" ∧ text.toList.all Char.isDigit then some (Nat.ofDigitChars 10 text.toList 0)
    else none

def LengthIs (headers : HeaderMap) (length : ℕ) : Prop :=
  ∀ value, headers.get "content-length" = some value → decimalValue value = some length

/-- **The response is delivered whole**: the post-processing gets the whole body, the client gets
its result, or the body if it fails, once, and the length it was told. -/
structure DeliveredWhole (post : C → List UInt8 → Option (List UInt8)) (context : C)
    (header : ResponseHeader) (body : List UInt8) (trace : BodyTrace C) : Prop where
  posted : trace.posted = [body]
  sent : trace.sent = [(post context body).getD body]
  length : LengthIs header.headers trace.sent.flatten.length

/-! ## Collecting -/

def Fits (limit length : ℕ) : Prop := limit = 0 ∨ min length (2 ^ 64 - 1) ≤ limit

/-- The buffer is the body so far, if that fits, and less than it otherwise. -/
structure Collected (limit : ℕ) (context : C) (seen : List UInt8) (ctx : ResponseContext C) :
    Prop where
  active : ctx.aiContext = some context
  bytes : ctx.cachedResponseBodyBytes = min ctx.cachedResponseBody.flatten.length (2 ^ 64 - 1)
  buffer : ctx.cachedResponseBody.flatten = seen ∧ Fits limit seen.length ∨
    ctx.cachedResponseBody.flatten.length < seen.length ∧ ¬ Fits limit seen.length

section

variable {proxy : ResponseProxy} {context : C} {seen : List UInt8} {ctx : ResponseContext C}

theorem pos_of_not_fits {limit length : ℕ} (h : ¬ Fits limit length) : 0 < length := by
  rw [Fits, not_or] at h
  omega

theorem collected_bufferChunk (h : Collected proxy.maxEntrySizeBytes context seen ctx)
    (chunk : List UInt8) :
    Collected proxy.maxEntrySizeBytes context (seen ++ chunk) (bufferChunk proxy ctx chunk) := by
  have hbytes := h.bytes
  rw [bufferChunk]
  split
  next hexceeded =>
    rw [cacheResponseBodyLimitExceeded, decide_eq_true_eq, saturatingAdd] at hexceeded
    refine ⟨h.active, rfl, .inr ?_⟩
    -- the limit is exceeded by what was in the buffer, so by the body
    have hle : ctx.cachedResponseBody.flatten.length ≤ seen.length := by
      rcases h.buffer with ⟨hbuffer, -⟩ | ⟨hlt, -⟩
      · rw [hbuffer]
      · exact hlt.le
    have hover : ¬ Fits proxy.maxEntrySizeBytes (seen ++ chunk).length := by
      rw [Fits, length_append]
      omega
    exact ⟨pos_of_not_fits hover, hover⟩
  next hexceeded =>
    rw [cacheResponseBodyLimitExceeded, decide_eq_true_eq, saturatingAdd] at hexceeded
    have hflat : (ctx.cachedResponseBody ++ [chunk]).flatten
        = ctx.cachedResponseBody.flatten ++ chunk := by
      rw [flatten_append, flatten_singleton]
    refine ⟨h.active, ?_, ?_⟩
    · dsimp only
      rw [hflat, length_append, saturatingAdd]
      omega
    · dsimp only
      rw [hflat]
      rcases h.buffer with ⟨hbuffer, -⟩ | ⟨hlt, hover⟩
      · rw [hbuffer] at hbytes ⊢
        refine .inl ⟨rfl, ?_⟩
        rw [Fits, length_append]
        omega
      · refine .inr ⟨?_, fun hfits => hover ?_⟩
        · rw [length_append, length_append]
          omega
        · rw [Fits, length_append] at hfits
          rw [Fits]
          omega

theorem collected_keepChunk (hproxy : proxy.aiFilter = true)
    (h : Collected proxy.maxEntrySizeBytes context seen ctx) (part : Option (List UInt8)) :
    (keepChunk proxy ctx part).1 = none ∧
      Collected proxy.maxEntrySizeBytes context (seen ++ part.getD [])
        (keepChunk proxy ctx part).2 := by
  have hactive : aiPostProcessActive proxy ctx = true := by
    rw [aiPostProcessActive, hproxy, h.active]
    rfl
  cases part with
  | none => exact ⟨rfl, by rw [Option.getD_none, append_nil]; exact h⟩
  | some chunk =>
    rw [keepChunk, hactive, responseBodyFilterShouldBuffer, Bool.or_true, if_pos rfl]
    exact ⟨rfl, collected_bufferChunk h chunk⟩

variable {post : C → List UInt8 → Option (List UInt8)}

theorem collected_call (hproxy : proxy.aiFilter = true) {trace : BodyTrace C}
    (h : Collected proxy.maxEntrySizeBytes context seen trace.ctx) (part : Option (List UInt8)) :
    (trace.call proxy post part false).sent = trace.sent ∧
      (trace.call proxy post part false).posted = trace.posted ∧
      Collected proxy.maxEntrySizeBytes context (seen ++ part.getD [])
        (trace.call proxy post part false).ctx := by
  obtain ⟨hnone, hcollected⟩ := collected_keepChunk hproxy h part
  have hstep : responseBodyFilter proxy post part false trace.ctx
      = { body := none, ctx := (keepChunk proxy trace.ctx part).2 } := by
    rw [responseBodyFilter, hnone]
    rfl
  rw [BodyTrace.call, hstep]
  exact ⟨append_nil _, append_nil _, hcollected⟩

theorem collected_foldl (hproxy : proxy.aiFilter = true) (parts : List (Option (List UInt8)))
    {trace : BodyTrace C} (h : Collected proxy.maxEntrySizeBytes context seen trace.ctx) :
    (parts.foldl (fun trace part => trace.call proxy post part false) trace).sent = trace.sent ∧
      (parts.foldl (fun trace part => trace.call proxy post part false) trace).posted
        = trace.posted ∧
      Collected proxy.maxEntrySizeBytes context (seen ++ wholeBody parts)
        (parts.foldl (fun trace part => trace.call proxy post part false) trace).ctx := by
  induction parts generalizing trace seen with
  | nil => exact ⟨rfl, rfl, by rw [wholeBody, flatMap_nil, append_nil]; exact h⟩
  | cons part parts ih =>
    obtain ⟨hsent, hposted, hcollected⟩ := @collected_call _ _ _ _ post hproxy trace h part
    obtain ⟨hsent', hposted', hcollected'⟩ := ih hcollected
    rw [foldl_cons]
    refine ⟨hsent'.trans hsent, hposted'.trans hposted, ?_⟩
    rw [wholeBody, flatMap_cons, ← append_assoc]
    exact hcollected'

/-- **The whole loop.**  One body is post-processed, and its result is all that is sent; it is the
whole body if that fits, and shorter otherwise. -/
theorem deliverBody_eq (hproxy : proxy.aiFilter = true)
    (h : Collected proxy.maxEntrySizeBytes context [] ctx) (parts : List (Option (List UInt8)))
    (last : Option (List UInt8)) :
    ∃ collected, (deliverBody proxy post ctx parts last).posted = [collected] ∧
      (deliverBody proxy post ctx parts last).sent = [(post context collected).getD collected] ∧
      (collected = wholeBody (parts ++ [last]) ∧
          Fits proxy.maxEntrySizeBytes (wholeBody (parts ++ [last])).length ∨
        collected.length < (wholeBody (parts ++ [last])).length ∧
          ¬ Fits proxy.maxEntrySizeBytes (wholeBody (parts ++ [last])).length) := by
  obtain ⟨hsent, hposted, hcollected⟩ :=
    @collected_foldl _ _ _ _ post hproxy parts ⟨ctx, [], []⟩ h
  obtain ⟨-, hend⟩ := collected_keepChunk hproxy hcollected last
  have hwhole : wholeBody (parts ++ [last]) = [] ++ wholeBody parts ++ last.getD [] := by
    rw [wholeBody, flatMap_append, flatMap_singleton, nil_append, wholeBody]
  rw [deliverBody, BodyTrace.call, hsent, hposted, responseBodyFilter, hproxy, hwhole]
  dsimp only
  rw [Bool.and_true, if_pos rfl, hend.active]
  exact ⟨_, rfl, rfl, hend.buffer⟩

end

/-! ## The result -/

def awaiting (ctx : ResponseContext C) (context : C) : ResponseContext C :=
  { ctx with
    aiContext := some context
    cachedResponseBody := []
    cachedResponseBodyBytes := 0 }

theorem collected_of_delivered {proxy : ResponseProxy} {env : ResponseEnv}
    {upstream header : ResponseHeader} {ctx : ResponseContext C} {context : C}
    (h : (responseFilter proxy env upstream (awaiting ctx context)).1 = some header) :
    Collected proxy.maxEntrySizeBytes context []
      (responseFilter proxy env upstream (awaiting ctx context)).2 := by
  rw [responseFilter_fst] at h
  rw [responseFilter_of_edited proxy env h]
  exact ⟨rfl, rfl, .inl ⟨rfl, .inr (Nat.zero_le _)⟩⟩

/-- **Nothing that edits the header names its length**: no header modifier of the rule, no session
header and no field of a plugin. -/
structure LengthUnnamed (proxy : ResponseProxy) (env : ResponseEnv) (ctx : ResponseContext C) :
    Prop where
  filters : ∀ selected, ctx.selectedBackend = some selected →
    ∀ filter ∈ selected.filters, Spares "content-length" filter
  session : ∀ selected, ctx.selectedBackend = some selected →
    ∀ policy, selected.sessionPersistence = some policy → policy.isCookie = false →
      HeaderMap.sameName policy.sessionName "content-length" = false
  request : ∀ field ∈ ctx.wasmResponseHeaders.entries,
    HeaderMap.sameName field.1 "content-length" = false
  response : ∀ fields, onResponseOutcome proxy env = .ok fields →
    ∀ field ∈ fields.entries, HeaderMap.sameName field.1 "content-length" = false

section

variable {proxy : ResponseProxy} {env : ResponseEnv} {ctx : ResponseContext C}

theorem contentLength_applyPluginHeaders {order : HashOrder} {response result : HeaderMap}
    {fields : BTreeMap String}
    (hnamed : ∀ field ∈ fields.entries, HeaderMap.sameName field.1 "content-length" = false)
    (h : applyPluginHeaders order response fields = some result) :
    result.values "content-length" = response.values "content-length" := by
  refine values_foldlM (fun field hfield headers headers' hstep => ?_) h
  split_ifs at hstep
  · rw [@values_setOrRemove _ _ _ _ (some field.2) hstep,
      hnamed field ((order.perm fields.entries).mem_iff.mp hfield), if_neg Bool.false_ne_true]
  · rw [Option.some.inj hstep]

theorem contentLength_editForBackend {headers headers' : HeaderMap}
    (hnamed : LengthUnnamed proxy env ctx)
    (h : editForBackend proxy env ctx headers = some headers') :
    headers'.values "content-length" = headers.values "content-length" := by
  rw [editForBackend] at h
  split at h
  · rw [Option.some.inj h]
  · next selected hselected =>
    obtain ⟨middle, hmiddle, h⟩ := Option.bind_eq_some_iff.mp h
    have hfilters := contentLength_applyResponseFilters (hnamed.filters selected hselected) hmiddle
    split at h
    · rw [← Option.some.inj h, hfilters]
    · next policy hpolicy =>
      rw [writeResponseSession] at h
      split_ifs at h with hcookie
      · obtain ⟨-, rfl⟩ := (Option.ite_some_none_eq_some.mp h).imp_right Eq.symm
        rw [values_append, if_neg (by decide), append_nil, hfilters]
      · rw [@values_setOrRemove _ _ _ _ (some _) h, hnamed.session selected hselected policy hpolicy
          (Bool.eq_false_iff.mpr hcookie), if_neg Bool.false_ne_true, hfilters]

/-- **The length that is handed on is the upstream's**, unless something that edits the header names
it. -/
theorem lengthIs_iff_of_unnamed {upstream header : ResponseHeader}
    (hnamed : LengthUnnamed proxy env ctx)
    (h : (responseFilter proxy env upstream ctx).1 = some header) (length : ℕ) :
    LengthIs header.headers length ↔ LengthIs upstream.headers length := by
  have hget (headers : HeaderMap) (name : String) :
      headers.get name = (headers.values name).head? := by
    rw [HeaderMap.get, HeaderMap.values, head?_map, head?_filter]
  rw [responseFilter_fst, editedHeader] at h
  split_ifs at h
  obtain ⟨edited, hedited, rfl⟩ := Option.map_eq_some_iff.mp h
  obtain ⟨backend, hbackend, hplugins⟩ := Option.bind_eq_some_iff.mp hedited
  obtain ⟨middle, hmiddle, hplugins⟩ := Option.bind_eq_some_iff.mp hplugins
  have hkept : edited.values "content-length" = upstream.headers.values "content-length" := by
    rw [← contentLength_editForBackend hnamed hbackend,
      ← contentLength_applyPluginHeaders hnamed.request hmiddle]
    split at hplugins
    · next fields hfields =>
      exact contentLength_applyPluginHeaders (hnamed.response fields hfields) hplugins
    · rw [Option.some.inj hplugins]
  rw [LengthIs, LengthIs, hget, hget, hkept]

end

/-- **When a response is delivered whole**: exactly if the body fits the limit of the cache and the
header has no length, or that of what is sent. -/
theorem delivered_whole_iff (proxy : ResponseProxy)
    (post : C → List UInt8 → Option (List UInt8)) (env : ResponseEnv) (upstream : ResponseHeader)
    (ctx : ResponseContext C) (context : C) (parts : List (Option (List UInt8)))
    (last : Option (List UInt8)) :
    (∀ header,
      (responseFilter { proxy with aiFilter := true } env upstream (awaiting ctx context)).1
        = some header →
      DeliveredWhole post context header (wholeBody (parts ++ [last]))
        (deliverBody { proxy with aiFilter := true } post
          (responseFilter { proxy with aiFilter := true } env upstream (awaiting ctx context)).2
          parts last)) ↔
    ∀ header, (responseFilter { proxy with aiFilter := true } env upstream (awaiting ctx context)).1
        = some header →
      Fits proxy.maxEntrySizeBytes (wholeBody (parts ++ [last])).length ∧ LengthIs header.headers
          ((post context (wholeBody (parts ++ [last]))).getD
            (wholeBody (parts ++ [last]))).length := by
  refine forall_congr' fun header => forall_congr' fun hheader => ?_
  obtain ⟨collected, hposted, hsent, hwhole | ⟨hshort, hover⟩⟩ :=
    @deliverBody_eq _ _ _ _ post rfl (collected_of_delivered hheader) parts last
  · obtain ⟨rfl, hfits⟩ := hwhole
    constructor
    · intro h
      have hlength := h.length
      rw [hsent, flatten_singleton] at hlength
      exact ⟨hfits, hlength⟩
    · rintro ⟨-, hlength⟩
      refine ⟨hposted, hsent, ?_⟩
      rw [hsent, flatten_singleton]
      exact hlength
  · constructor
    · intro h
      have hbody := hposted.symm.trans h.posted
      rw [(List.cons.inj hbody).1] at hshort
      exact absurd hshort (lt_irrefl _)
    · rintro ⟨hfits, -⟩
      exact absurd hfits hover

def smallBuffer : ResponseProxy := { plainProxy with aiFilter := true, maxEntrySizeBytes := 4 }

def sixBytes : List (Option (List UInt8)) := [some [1, 2, 3], some [4, 5, 6]]

def sixBytesHeader : ResponseHeader := ⟨200, [("content-length", valueBytes "6")]⟩

def sixBytesTrace : BodyTrace Unit :=
  deliverBody smallBuffer (fun _ body => some body)
    (responseFilter smallBuffer {} sixBytesHeader (awaiting {} ())).2 sixBytes none

/-- **The client gets an empty body and a length of six.** -/
theorem long_response_lost :
    (responseFilter smallBuffer {} sixBytesHeader (awaiting {} ())).1 = some sixBytesHeader ∧
    decimalValue (valueBytes "6") = some 6 ∧
    wholeBody (sixBytes ++ [none]) = [1, 2, 3, 4, 5, 6] ∧
    sixBytesTrace.posted = [[]] ∧ sixBytesTrace.sent = [[]] ∧
    ¬ DeliveredWhole (fun _ body => some body) () sixBytesHeader (wholeBody (sixBytes ++ [none]))
      sixBytesTrace := by
  refine ⟨by decide +kernel, by decide +kernel, by decide +kernel, by decide +kernel,
    by decide +kernel, fun h => ?_⟩
  exact absurd h.posted (by decide +kernel)

end NantianGateway.Http
