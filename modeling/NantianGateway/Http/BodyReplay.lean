import NantianGateway.Ai.IdleMasking
import NantianGateway.Http.PluginCoverage

/-!
# Bodies that are read before the request goes on

The external authorizer and the AI gateway turn on pingora's retry buffer before they read a body.
What the buffer replays and then what nobody has read yet goes through `request_body_filter`, which
counts it against the limit of the route or of the proxy, and to the upstream.  **A body longer than
the buffer is accepted, and the upstream gets none of it**; and what the AI gateway makes of the
body goes nowhere, so **a body in which the masker found something is sent in clear**.
-/

namespace NantianGateway.Http

open Fallible

variable {Json : Type}

/-! ## The retry buffer -/

def bodyBufLimit : ℕ := 64 * 1024

/-- The retry buffer; it is `none` once it is truncated. -/
abbrev RetryBuffer := Option (List UInt8)

def RetryBuffer.write (buffer : RetryBuffer) (bytes : List UInt8) : RetryBuffer :=
  buffer.bind fun held =>
    if held.length + bytes.length ≤ bodyBufLimit then some (held ++ bytes) else none

/-- The client's side of a session: what is still to be read, and the buffer if it is turned on. -/
structure Downstream where
  unread : List BodyPart
  buffer : Option RetryBuffer := none

def drain (exceeds : ℕ → ℕ → Bool) : List BodyPart → ℕ → RetryBuffer → Downstream
  | .chunk bytes :: parts, total, buffer =>
    if exceeds total bytes.length then ⟨parts, some (buffer.write bytes)⟩
    else drain exceeds parts (total + bytes.length) (buffer.write bytes)
  | parts, _, buffer => ⟨parts, some buffer⟩

/-- Turn on the buffer, which keeps what it holds, and read. -/
def Downstream.read (d : Downstream) (exceeds : ℕ → ℕ → Bool) : Downstream :=
  drain exceeds d.unread 0 (d.buffer.getD (some []))

/-! ## What is counted on the way to the upstream -/

/-- The bytes seen with a chunk of a request, or none for the error with status 413. -/
def requestBodyFilter (limit seen : ℕ) (chunk : List UInt8) : Option ℕ :=
  if 0 < limit ∧ limit < seen + chunk.length then none else some (seen + chunk.length)

/-- The bytes that the upstream gets of a request whose chunks all pass. -/
def sendParts (limit : ℕ) : ℕ → List BodyPart → Option (List UInt8)
  | seen, .chunk bytes :: parts =>
    (requestBodyFilter limit seen bytes).bind fun seen =>
      (sendParts limit seen parts).map (bytes ++ ·)
  | _, _ => some []

theorem sendParts_eq {limit seen : ℕ} (parts : List BodyPart)
    (hseen : ¬ (0 < limit ∧ limit < seen)) :
    sendParts limit seen parts =
      if 0 < limit ∧ limit < seen + (bodyOf parts).length then none else some (bodyOf parts) := by
  induction parts generalizing seen with
  | nil => exact (if_neg hseen).symm
  | cons part parts ih =>
    cases part with
    | chunk bytes =>
      simp only [sendParts, requestBodyFilter, bodyOf, List.length_append]
      by_cases hover : 0 < limit ∧ limit < seen + bytes.length
      · rw [if_pos hover, if_pos (by omega), Option.bind_none]
      · rw [if_neg hover, Option.bind_some, ih hover, Nat.add_assoc]
        split <;> rfl
    | done | error => exact (if_neg hseen).symm

/-! ## The two steps of an HTTP route -/

section

variable (o : Outcomes) (policyLimit : Option ℕ) (selections : Selections)
  (client : List BodyPart) (ai : Option (AiCall Json))

/-- The limit of the route's policy, or that of the proxy; 0 is none. -/
def effectiveMaxRequestBodyBytes : ℕ := policyLimit.getD o.maxRequestBodyBytes

def forwardBodyLimit : Option UInt32 :=
  (selections.http.bind fun route => externalAuthFilter route.filters).bind fun auth =>
    auth.forwardBodyMaxSize.filter (0 < ·)

def afterAuth : Downstream :=
  match forwardBodyLimit selections with
  | none => ⟨client, none⟩
  | some maxSize =>
    Downstream.read ⟨client, none⟩ fun total len => decide (maxSize.toNat < total + len)

def afterAi (d : Downstream) : Downstream :=
  match ai with
  | none => d
  | some call =>
    if aiGatewayShouldProcessPath call.request.path then
      d.read (aiRequestBodyLimitExceeded · · call.maxRequestBodyBytes)
    else d

/-- The body that the upstream gets: the retry buffer is replayed as one chunk. -/
def forwardedBody : Option (List UInt8) :=
  let d := afterAi ai (afterAuth selections client)
  sendParts (effectiveMaxRequestBodyBytes o policyLimit) 0
    (.chunk ((d.buffer.getD (some [])).getD []) :: d.unread)

/-- The request of the AI step, which has what the authorizer left of the body. -/
def AiCall.sees (call : AiCall Json) : AiRequest :=
  { call.request with body := (afterAuth selections client).unread }

def Outcomes.ofClient : Outcomes :=
  { o with
    authBodyReads := client.map BodyPart.read
    ai := ai.map fun call =>
      aiOutcome call.cr call.env call.filter call.maxRequestBodyBytes
        (call.sees selections client) }

def ReadsEarly : Prop :=
  ByHttpRoute selections ∧ ((forwardBodyLimit selections).isSome = true ∨
    ∃ call, ai = some call ∧ aiGatewayShouldProcessPath call.request.path = true)

end

/-! ## What is replayed -/

def replayed (body : List UInt8) : List UInt8 := if body.length ≤ bodyBufLimit then body else []

theorem RetryBuffer.write_write (buffer : RetryBuffer) (first second : List UInt8) :
    (buffer.write first).write second = buffer.write (first ++ second) := by
  cases buffer with
  | none => rfl
  | some held =>
    simp only [write, Option.bind_some, List.length_append]
    by_cases hfirst : held.length + first.length ≤ bodyBufLimit
    · rw [if_pos hfirst, Option.bind_some, List.length_append, List.append_assoc, Nat.add_assoc]
    · rw [if_neg hfirst, if_neg (by omega), Option.bind_none]

theorem drain_of_complete {exceeds : ℕ → ℕ → Bool} {parts : List BodyPart} {total : ℕ}
    (h : readBody exceeds (parts.map BodyPart.read) total = .complete) (buffer : RetryBuffer)
    (hbuffer : buffer.write [] = buffer) :
    ∃ rest, drain exceeds parts total buffer = ⟨rest, some (buffer.write (bodyOf parts))⟩ ∧
      bodyOf rest = [] ∧
        ∀ exceeds' buffer', drain exceeds' rest 0 buffer' = ⟨rest, some buffer'⟩ := by
  induction parts generalizing total buffer with
  | nil => exact ⟨[], congrArg (Downstream.mk [] <| some ·) hbuffer.symm, rfl, fun _ _ => rfl⟩
  | cons part parts ih =>
    cases part with
    | chunk bytes =>
      rw [List.map_cons, BodyPart.read, readBody] at h
      split at h
      · cases h
      next hlimit =>
        rw [drain, if_neg hlimit, bodyOf, ← RetryBuffer.write_write]
        exact ih h _ (by rw [RetryBuffer.write_write, List.append_nil])
    | done =>
      exact ⟨.done :: parts, congrArg (Downstream.mk _ <| some ·) hbuffer.symm, rfl, fun _ _ => rfl⟩
    | error => cases h

section

variable {crate : IpNetCrate} {o : Outcomes} {policyLimit : Option ℕ} {selections : Selections}
  {client : List BodyPart} {ai : Option (AiCall Json)}

theorem getD_write (body : List UInt8) :
    (RetryBuffer.write (some []) body).getD [] = replayed body := by
  simp only [RetryBuffer.write, Option.bind_some, List.length_nil, Nat.zero_add, List.nil_append,
    replayed]
  split <;> rfl

/-- The authorizer has left the body alone, or has read all of it. -/
theorem afterAuth_cases (h : ReachesAi crate (o.ofClient selections client ai) selections) :
    (forwardBodyLimit selections = none ∧ afterAuth selections client = ⟨client, none⟩) ∨
    ((forwardBodyLimit selections).isSome = true ∧ ∃ rest, afterAuth selections client
          = ⟨rest, some (RetryBuffer.write (some []) (bodyOf client))⟩ ∧
        bodyOf rest = [] ∧
        ∀ exceeds buffer, drain exceeds rest 0 buffer = ⟨rest, some buffer⟩) := by
  obtain ⟨-, -, -, route, hroute, hcleared⟩ := h
  rw [afterAuth]
  cases hlimit : forwardBodyLimit selections with
  | none => exact .inl ⟨rfl, rfl⟩
  | some maxSize =>
    obtain ⟨auth, hauth, hmax⟩ := Option.bind_eq_some_iff.mp hlimit
    rw [hroute, Option.bind_some] at hauth
    exact .inr ⟨rfl,
      drain_of_complete ((hcleared.externalAuth auth hauth).body maxSize hmax) (some []) rfl⟩

theorem forwardedBody_eq (h : ReachesAi crate (o.ofClient selections client ai) selections)
    (hai : ∀ call, ai = some call → aiGatewayShouldProcessPath call.request.path = true →
      PreProcessed crate (o.ofClient selections client ai) selections)
    (hread : ReadsEarly selections ai) :
    forwardedBody o policyLimit selections client ai =
      if 0 < effectiveMaxRequestBodyBytes o policyLimit ∧
          effectiveMaxRequestBodyBytes o policyLimit < (replayed (bodyOf client)).length then none
      else some (replayed (bodyOf client)) := by
  -- whoever reads, reads all of it, and nothing is left to be sent after the buffer
  obtain ⟨rest, hafter, hnil⟩ : ∃ rest, afterAi ai (afterAuth selections client)
      = ⟨rest, some (RetryBuffer.write (some []) (bodyOf client))⟩ ∧ bodyOf rest = [] := by
    rcases afterAuth_cases h with ⟨hlimit, hclient⟩ | ⟨-, rest, hclient, hnil, hdrain⟩
    · obtain ⟨call, rfl, hpath⟩ := hread.2.resolve_left (by rw [hlimit]; exact nofun)
      obtain ⟨-, outcome, hcall, -, hcomplete⟩ := hai call rfl hpath
      obtain rfl := Option.some.inj hcall
      simp only [aiOutcome, AiCall.sees, hclient] at hcomplete
      obtain ⟨rest, hrest, hnil, -⟩ := drain_of_complete hcomplete (some []) rfl
      exact ⟨rest, by rw [afterAi, if_pos hpath, hclient]; exact hrest, hnil⟩
    · refine ⟨rest, ?_, hnil⟩
      unfold afterAi
      split
      · exact hclient
      · split
        · rw [Downstream.read, hclient, hdrain, Option.getD_some]
        · exact hclient
  rw [forwardedBody, hafter, sendParts_eq _ (by omega), bodyOf, hnil, List.append_nil,
    Nat.zero_add, Option.getD_some, getD_write]

/-- **When a body that is read early is forwarded intact**: exactly if it fits into the buffer and
is within the limit. -/
theorem forwarded_intact_iff (h : Forwarded crate (o.ofClient selections client ai) selections)
    (hread : ReadsEarly selections ai) :
    forwardedBody o policyLimit selections client ai = some (bodyOf client) ↔
      (bodyOf client).length ≤ bodyBufLimit ∧
        (effectiveMaxRequestBodyBytes o policyLimit = 0 ∨
          (bodyOf client).length ≤ effectiveMaxRequestBodyBytes o policyLimit) := by
  have hreach := reachesAi_of_forwarded h hread.1
  rw [forwardedBody_eq hreach (fun call hcall hpath => ?_) hread]
  · by_cases hfits : (bodyOf client).length ≤ bodyBufLimit
    · rw [and_iff_right hfits, replayed, if_pos hfits]
      split
      next hover => exact iff_of_false nofun (by omega)
      next hwithin => exact iff_of_true rfl (by omega)
    · refine iff_of_false (fun hsent => hfits ?_) (fun hkept => hfits hkept.1)
      rw [replayed, if_neg hfits, if_neg (by simp)] at hsent
      rw [← Option.some.inj hsent]
      exact Nat.zero_le _
  · subst hcall
    exact (preProcessed_iff h rfl hpath).mpr hread.1

variable {cr : Ai.AiCrates Json} {filter filter' : Ai.AIGatewayFilter Json} {env : Ai.PreEnv}
  {path : String} {body : List UInt8} {apiKey : Option String}

theorem rawRequest_of_prepare {prepared : Ai.Prepared Json}
    (h : Ai.prepare cr filter env path body apiKey = .ok prepared) :
    prepared.rawRequest = Ai.prepareRequestBody cr.regex filter.piiMasker body := by
  simp only [Ai.prepare, bind, Except.bind] at h
  -- a step fails, or hands the body on as it was prepared first
  repeat' split at h
  all_goals cases h <;> rfl

theorem rawRequest_of_preProcess {ctx : Ai.AIContext Json}
    (h : Ai.preProcess cr env path body apiKey filter = .ok ctx filter') :
    ctx.rawRequest = Ai.prepareRequestBody cr.regex filter.piiMasker body := by
  have hprepare (s : Ai.AIGatewayFilter Json) :
      Meets (fun s' => s = s' ∧ s' = filter) (lift (Ai.prepare cr s env path body apiKey))
        (fun prepared _ =>
          prepared.rawRequest = Ai.prepareRequestBody cr.regex filter.piiMasker body)
        fun _ _ => True := by
    refine meets_lift ?_ fun _ _ _ _ => trivial
    rintro prepared hok s' ⟨rfl, rfl⟩
    exact rawRequest_of_prepare hok
  have hmeets : Meets (· = filter) (Ai.preProcess cr env path body apiKey)
      (fun ctx _ => ctx.rawRequest = Ai.prepareRequestBody cr.regex filter.piiMasker body)
      fun _ _ => True :=
    meets_get.bind fun s => (hprepare s).bind fun _ => meets_fact.bind fun _ =>
      meets_fact.bind fun _ => meets_fact.bind fun _ => meets_pure fun _ hraw => hraw
  exact hmeets.of_ok rfl h

/-- **No byte inside a span that is detected in the client's body is sent to the upstream.** -/
def SpansWithheld (o : Outcomes) (policyLimit : Option ℕ) (selections : Selections)
    (client : List BodyPart) (call : AiCall Json) : Prop :=
  ∀ masker ∈ call.filter.piiMasker, masker.enabled = true →
    ∀ text, Ai.textBytes text = bodyOf client → ∀ m ∈ masker.detect call.cr.regex text,
      ∀ i, m.start ≤ i → i < m.stop → ∀ byte, (bodyOf client)[i]? = some byte →
        ∀ sent, forwardedBody o policyLimit selections client (some call) = some sent →
          sent[i]? ≠ some byte

/-- The body goes on as it came: it fits into the buffer and is within the limit, no authorizer
has taken it from the AI step, and there is nothing to mask in it. -/
structure GoesOn (o : Outcomes) (policyLimit : Option ℕ) (selections : Selections)
    (body : List UInt8) (call : AiCall Json) : Prop where
  fits : body.length ≤ bodyBufLimit
  within : effectiveMaxRequestBodyBytes o policyLimit = 0 ∨
    body.length ≤ effectiveMaxRequestBodyBytes o policyLimit
  unread : forwardBodyLimit selections = none ∨ body = []
  idle : Ai.Idle call.cr.regex call.filter.piiMasker body
  text : call.filter.piiMasker = none ∨ Ai.IsText body

variable {call : AiCall Json}

theorem length_textBytes (text : String) : (Ai.textBytes text).length = Text.len text := by
  simp [Ai.textBytes, Text.len, Text.byteLen, List.length_flatMap]

/-- The upstream gets the spans with the rest of the body. -/
theorem spansWithheld_iff_idle
    (hsent : forwardedBody o policyLimit selections client (some call) = some (bodyOf client))
    (hfull : ∀ masker ∈ call.filter.piiMasker, ∀ text,
      ∀ m ∈ masker.detect call.cr.regex text, m.start < m.stop) :
    SpansWithheld o policyLimit selections client call ↔
      Ai.Idle call.cr.regex call.filter.piiMasker (bodyOf client) := by
  constructor
  · intro hwithheld masker hmasker
    rw [or_iff_not_imp_left, Bool.not_eq_false]
    intro hon text htext
    rw [List.eq_nil_iff_forall_not_mem]
    intro m hm
    have hlt := hfull masker hmasker text m hm
    have hlen : m.start < (bodyOf client).length := by
      rw [← htext, length_textBytes]
      exact hlt.trans_le (Ai.span_of_mem_detect hm).2
    exact hwithheld masker hmasker hon text htext m hm m.start le_rfl hlt _
      (List.getElem?_eq_getElem hlen) _ hsent (List.getElem?_eq_getElem hlen)
  · intro hidle masker hmasker hon text htext m hm
    rcases hidle masker hmasker with hoff | hnone
    · rw [hon] at hoff
      cases hoff
    · rw [hnone text htext] at hm
      cases hm

/-- **When the upstream gets the prepared body and no detected byte**, where a match is not empty:
exactly if the body goes on as it came, or if it is too long for the buffer, so that nothing is
replayed, and nothing of it was prepared either. -/
theorem prepared_forwarded_iff
    (h : PreProcessed crate (o.ofClient selections client (some call)) selections)
    {ctx : Ai.AIContext Json}
    (hok : preProcessOwned call.cr call.env call.filter (call.sees selections client)
      = .ok ctx filter)
    (hfull : ∀ masker ∈ call.filter.piiMasker, ∀ text,
      ∀ m ∈ masker.detect call.cr.regex text, m.start < m.stop) :
    (forwardedBody o policyLimit selections client (some call) = some ctx.rawRequest ∧
        SpansWithheld o policyLimit selections client call) ↔
      GoesOn o policyLimit selections (bodyOf client) call ∨
      (bodyBufLimit < (bodyOf client).length ∧
        ((forwardBodyLimit selections).isSome = true ∨
          (call.filter.piiMasker ≠ none ∧ ¬ Ai.IsText (bodyOf client)))) := by
  obtain ⟨hreach, outcome, hcall, hpath, -⟩ := id h
  obtain rfl := Option.some.inj hcall
  obtain ⟨-, hfast, hgrpc, route, hroute, -⟩ := id hreach
  have hsent := @forwardedBody_eq _ _ _ policyLimit _ _ _ hreach (fun _ _ _ => h)
    ⟨⟨hfast, hgrpc, by rw [hroute]; rfl⟩, .inr ⟨call, rfl, hpath⟩⟩
  have hempty : ∀ masker ∈ call.filter.piiMasker, masker.detect call.cr.regex "" = [] := by
    intro masker hmasker
    rw [List.eq_nil_iff_forall_not_mem]
    intro m hm
    have hlt := hfull masker hmasker "" m hm
    have hstop : m.stop ≤ 0 := (Ai.span_of_mem_detect hm).2
    omega
  obtain ⟨read, hread, hraw⟩ : ∃ read,
      (forwardBodyLimit selections = none ∧ read = bodyOf client ∨
        (forwardBodyLimit selections).isSome = true ∧ read = []) ∧
      ctx.rawRequest = Ai.prepareRequestBody call.cr.regex call.filter.piiMasker read := by
    refine ⟨_, ?_, rawRequest_of_preProcess hok⟩
    rcases afterAuth_cases hreach with ⟨hnone, hclient⟩ | ⟨hsome, rest, hclient, hnil, -⟩
    · exact .inl ⟨hnone, by rw [AiCall.sees, hclient]⟩
    · exact .inr ⟨hsome, by rw [AiCall.sees, hclient]; exact hnil⟩
  rw [hraw]
  by_cases hfits : (bodyOf client).length ≤ bodyBufLimit
  · rw [or_iff_left fun hlong => absurd hlong.1 (by omega)]
    rw [replayed, if_pos hfits] at hsent
    split at hsent
    next hover =>
      rw [hsent]
      exact iff_of_false (fun hprep => by cases hprep.1) fun hgoes => by
        have := hgoes.within
        omega
    next hwithin =>
      rw [spansWithheld_iff_idle hsent hfull, hsent, Option.some_inj]
      constructor
      · rintro ⟨hbody, hidle⟩
        rcases hread with ⟨hnone, rfl⟩ | ⟨-, rfl⟩
        · exact ⟨hfits, by omega, .inl hnone, hidle,
            (Ai.prepareRequestBody_eq_self_iff hidle).mp hbody.symm⟩
        · rw [(Ai.prepareRequestBody_eq_nil_iff hempty).mpr (.inl rfl)] at hbody
          exact ⟨hfits, by omega, .inr hbody, hidle, .inr ⟨"", hbody.symm⟩⟩
      · intro hgoes
        have hbody : read = bodyOf client := by
          rcases hread with ⟨-, rfl⟩ | ⟨hsome, rfl⟩
          · rfl
          · rcases hgoes.unread with hnone | hnil
            · rw [hnone] at hsome
              cases hsome
            · exact hnil.symm
        rw [hbody]
        exact ⟨((Ai.prepareRequestBody_eq_self_iff hgoes.idle).mpr hgoes.text).symm, hgoes.idle⟩
  · rw [or_iff_right fun hgoes => hfits hgoes.fits, and_iff_right (Nat.lt_of_not_le hfits)]
    rw [replayed, if_neg hfits, if_neg (by simp)] at hsent
    have hwithheld : SpansWithheld o policyLimit selections client call := by
      intro masker _ _ text _ m _ i _ _ byte _ sent hnil
      obtain rfl := Option.some.inj (hsent.symm.trans hnil)
      exact nofun
    rw [and_iff_left hwithheld, hsent, Option.some_inj, eq_comm,
      Ai.prepareRequestBody_eq_nil_iff hempty]
    rcases hread with ⟨hnone, rfl⟩ | ⟨hsome, rfl⟩
    · rw [hnone, or_iff_right fun hnil => hfits (by rw [hnil]; exact Nat.zero_le _),
        or_iff_right nofun]
    · exact iff_of_true (.inl rfl) (.inl hsome)

end

/-! ## An authorizer and a masker -/

private theorem forwarded_of_flow {crate : IpNetCrate} {o : Outcomes} {selections : Selections}
    (h : (doRequestFilter crate o selections {}).1 = .done false)
    (horiginal : (doRequestFilter crate o selections {}).2.isMirrorSubrequest = false) :
    Forwarded crate o selections :=
  ⟨_, Prod.ext h rfl, horiginal⟩

private def authorized : Selections where
  http := some { plainRoute with
      filters :=
        [{ filterType := "ExternalAuth"
           externalAuth := some { protocol := "HTTP", forwardBodyMaxSize := some 100000 } }] }

/-- **A body one byte too long for the buffer is accepted, and the upstream gets an empty one.** -/
theorem long_body_lost :
    ∃ bytes : List UInt8, bytes.length = 65537 ∧ Forwarded cidrBlocks
        (Outcomes.ofClient {} authorized [.chunk bytes, .done] (none : Option (AiCall Empty)))
          authorized ∧
      forwardedBody {} none authorized [.chunk bytes, .done] (none : Option (AiCall Empty))
        = some [] := by
  obtain ⟨bytes, hbytes⟩ : ∃ bytes : List UInt8, bytes.length = 65537 :=
    ⟨List.replicate 65537 0, List.length_replicate⟩
  have hforwarded : Forwarded cidrBlocks
      (Outcomes.ofClient {} authorized [.chunk bytes, .done] (none : Option (AiCall Empty)))
        authorized := by
    simp only [Outcomes.ofClient, List.map_cons, List.map_nil, BodyPart.read, hbytes,
      Option.map_none]
    exact forwarded_of_flow (by decide +kernel) (by decide +kernel)
  refine ⟨bytes, hbytes, hforwarded, ?_⟩
  rw [forwardedBody_eq (reachesAi_of_forwarded hforwarded ⟨rfl, rfl, rfl⟩)
    (fun _ hcall => by cases hcall) ⟨⟨rfl, rfl, rfl⟩, .inl rfl⟩, replayed, bodyOf, bodyOf,
    List.append_nil, hbytes, if_neg (by decide : ¬ 65537 ≤ bodyBufLimit)]
  · rfl
  · exact nofun

theorem short_body_kept :
    forwardedBody { maxRequestBodyBytes := 2 } none authorized [.chunk [1], .chunk [2], .done]
      (none : Option (AiCall Empty)) = some [1, 2] :=
  (@forwarded_intact_iff _ cidrBlocks { maxRequestBodyBytes := 2 } _ _ _ _
    (forwarded_of_flow (by decide +kernel) (by decide +kernel)) ⟨⟨rfl, rfl, rfl⟩, .inl rfl⟩).mpr
    (by decide)

private def masking : AiCall Empty where
  cr := { Ai.plainCrates with regex := Ai.overlappingCrate }
  env := {}
  filter :=
    { adapters := Table.empty.insert "openai" Ai.smallModelAdapter
      piiMasker := some ⟨Ai.overlappingPatterns, .mask, true⟩ }
  maxRequestBodyBytes := 1048576
  request := { path := "/v1/chat/completions" }

private def preparedBody (client : List BodyPart) : Option (List UInt8) :=
  match preProcessOwned masking.cr masking.env masking.filter
      (masking.sees { http := some plainRoute } client) with
  | .ok ctx _ => some ctx.rawRequest
  | .error _ _ => none

private theorem exists_of_preparedBody {client : List BodyPart} {body : List UInt8}
    (h : preparedBody client = some body) :
    ∃ ctx filter, preProcessOwned masking.cr masking.env masking.filter
      (masking.sees { http := some plainRoute } client) = .ok ctx filter ∧
        ctx.rawRequest = body := by
  unfold preparedBody at h
  split at h
  next ctx filter hok => exact ⟨ctx, filter, hok, Option.some.inj h⟩
  next => cases h

private theorem detect_masking {text : String} (h : text ≠ Ai.overlappingText) :
    Ai.PIIMasker.detect masking.cr.regex ⟨Ai.overlappingPatterns, .mask, true⟩ text = [] := by
  simp [Ai.PIIMasker.detect, masking, Ai.overlappingCrate, Ai.overlappingPatterns, h]

/-- **The number is masked in the context and forwarded in clear.** -/
theorem masked_body_not_forwarded :
    let client := [.chunk (Ai.textBytes Ai.overlappingText), .done]
    (∃ ctx filter, preProcessOwned masking.cr masking.env masking.filter
        (masking.sees { http := some plainRoute } client) = .ok ctx filter ∧
      ctx.rawRequest = Ai.textBytes "[ssn]2345678") ∧
    Forwarded cidrBlocks (Outcomes.ofClient {} { http := some plainRoute } client (some masking))
      { http := some plainRoute } ∧
    forwardedBody {} none { http := some plainRoute } client (some masking)
      = some (Ai.textBytes "123-45-13812345678") :=
  ⟨exists_of_preparedBody (by decide +kernel),
    forwarded_of_flow (by decide +kernel) (by decide +kernel), by decide +kernel⟩

theorem plain_body_forwarded :
    ∃ ctx filter, preProcessOwned masking.cr masking.env masking.filter
        (masking.sees { http := some plainRoute } [.chunk [97], .done]) = .ok ctx filter ∧
      forwardedBody {} (some 5) { http := some plainRoute } [.chunk [97], .done] (some masking)
        = some ctx.rawRequest := by
  obtain ⟨ctx, filter, hok, -⟩ :=
    exists_of_preparedBody (by decide +kernel : preparedBody [.chunk [97], .done] = some [97])
  refine ⟨ctx, filter, hok, ((@prepared_forwarded_iff _ cidrBlocks {} (some 5) _ _ _ masking
    ⟨?_, _, rfl, by decide +kernel, by decide +kernel⟩ _ hok ?_).mpr (.inl ?_)).1⟩
  · rw [← handsOn_beforeAi_iff _ {}, Stages.HandsOn]
    decide +kernel
  · rintro _ ⟨⟩ text m hm
    by_cases htext : text = Ai.overlappingText
    · subst htext
      revert m
      decide +kernel
    · rw [detect_masking htext] at hm
      cases hm
  · refine ⟨by decide, by decide, .inl rfl, ?_, .inr ⟨"a", by decide +kernel⟩⟩
    rintro _ ⟨⟩
    refine .inr fun text htext => detect_masking ?_
    rintro rfl
    revert htext
    decide +kernel

end NantianGateway.Http
