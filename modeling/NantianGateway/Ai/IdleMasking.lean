import NantianGateway.Ai.Filter

/-!
# Masking with nothing to mask

A masker is given a body as text, `""` for what is not UTF-8, and its text replaces the body.
**So a body that is not text is lost even if the masker is off.**
-/

namespace NantianGateway.Ai

def IsText (bytes : List UInt8) : Prop := ∃ text, textBytes text = bytes

/-- There is no masker, it is off, or no pattern of it matches; patterns match text. -/
def Idle (rx : RegexCrate) (piiMasker : Option PIIMasker) (bytes : List UInt8) : Prop :=
  ∀ masker ∈ piiMasker, masker.enabled = false ∨
    ∀ text, textBytes text = bytes → masker.detect rx text = []

section

variable {rx : RegexCrate} {piiMasker : Option PIIMasker} {masker : PIIMasker} {bytes : List UInt8}
  {text : String}

theorem textOrEmpty_textBytes : textOrEmpty (textBytes text) = text := by
  have hbytes : (textBytes text).toByteArray = text.toByteArray := by
    rw [← String.utf8Encode_toList, List.utf8Encode, textBytes]
  rw [textOrEmpty, hbytes, String.fromUTF8?, dif_pos text.isValidUTF8]
  rfl

theorem textBytes_injective : Function.Injective textBytes :=
  Function.LeftInverse.injective fun _ => textOrEmpty_textBytes

theorem textOrEmpty_of_not_isText (h : ¬ IsText bytes) : textOrEmpty bytes = "" := by
  rw [textOrEmpty, String.fromUTF8?, dif_neg, Option.getD_none]
  rintro ⟨chars, hchars⟩
  refine h ⟨String.ofList chars, ?_⟩
  have hdata := congrArg (fun array => array.data.toList) hchars
  simp only [List.utf8Encode, List.toList_data_toByteArray] at hdata
  rw [textBytes, String.toList_ofList, hdata]

theorem masked_of_idle (h : Idle rx (some masker) (textBytes text)) :
    masked rx masker text = (text, 0) := by
  have hmask : masker.mask rx text = some (text, 0, []) := by
    rw [PIIMasker.mask]
    rcases h masker rfl with hoff | hnone
    · rw [if_pos hoff]
    · rw [if_pos (hnone text rfl), ite_self]
  simp only [masked, hmask, Option.get_some]

theorem prepareRequestBody_eq_self_iff (h : Idle rx piiMasker bytes) :
    prepareRequestBody rx piiMasker bytes = bytes ↔ piiMasker = none ∨ IsText bytes := by
  cases piiMasker with
  | none => exact iff_of_true rfl (.inl rfl)
  | some masker =>
    rw [or_iff_right nofun, prepareRequestBody]
    constructor
    · intro hself
      by_contra hnot
      simp only [textOrEmpty_of_not_isText hnot] at hself
      split at hself
      · next hsame => exact hnot ⟨"", (List.eq_nil_of_length_eq_zero hsame.2.symm).symm⟩
      · exact hnot ⟨_, hself⟩
    · rintro ⟨text, rfl⟩
      simp only [textOrEmpty_textBytes, masked_of_idle h, ite_self]

/-- A match is replaced by a text that is not empty. -/
theorem masked_ne_empty (hon : masker.enabled = true) (hfound : masker.detect rx text ≠ []) :
    (masked rx masker text).1 ≠ "" := by
  obtain ⟨m, rest, hkept⟩ : ∃ m rest, masker.kept rx text = m :: rest := by
    obtain ⟨m, rest, hcons⟩ := List.exists_cons_of_ne_nil hfound
    exact ⟨m, _, by rw [PIIMasker.kept, hcons]; rfl⟩
  obtain ⟨out, hout⟩ := Option.isSome_iff_exists.mp (isSome_mask rx masker text)
  simp only [masked, hout, Option.get_some]
  rw [PIIMasker.mask, if_neg (by simp [hon]), if_neg hfound, hkept, PIIMasker.maskLoop] at hout
  simp only [Option.map_eq_some_iff, Option.bind_eq_some_iff] at hout
  obtain ⟨_, ⟨head, -, tail, -, rfl⟩, rfl⟩ := hout
  have hreplacement : masker.replacement m ≠ "" := by
    rw [PIIMasker.replacement]
    split <;> simp
  simp [hreplacement]

theorem prepareRequestBody_eq_nil_iff
    (hempty : ∀ masker ∈ piiMasker, masker.detect rx "" = []) :
    prepareRequestBody rx piiMasker bytes = [] ↔
      bytes = [] ∨ (piiMasker ≠ none ∧ ¬ IsText bytes) := by
  cases piiMasker with
  | none => simp [prepareRequestBody]
  | some masker =>
    by_cases htext : IsText bytes
    · rw [or_iff_left (fun hnot => hnot.2 htext)]
      by_cases hidle : Idle rx (some masker) bytes
      · rw [(prepareRequestBody_eq_self_iff hidle).mpr (.inr htext)]
      · obtain ⟨text, rfl⟩ := htext
        obtain ⟨hon, hfound⟩ : masker.enabled = true ∧ masker.detect rx text ≠ [] := by
          simpa [Idle, textBytes_injective.eq_iff] using hidle
        have htext : textBytes text ≠ textBytes "" := fun hnil =>
          hfound (by rw [textBytes_injective hnil, hempty masker rfl])
        rw [prepareRequestBody, textOrEmpty_textBytes]
        split
        · rfl
        · exact iff_of_false
            (fun hnil => masked_ne_empty hon hfound (textBytes_injective hnil)) htext
    · refine iff_of_true ?_ (.inr ⟨nofun, htext⟩)
      have hidle : Idle rx (some masker) (textBytes "") := by
        rintro _ ⟨⟩
        exact .inr fun text hnil => by rw [textBytes_injective hnil, hempty masker rfl]
      simp only [prepareRequestBody, textOrEmpty_of_not_isText htext, masked_of_idle hidle]
      split
      · next hsame => exact List.eq_nil_of_length_eq_zero hsame.2.symm
      · rfl

theorem maskResponse_eq_self_iff (h : Idle rx piiMasker bytes) :
    maskResponse rx piiMasker bytes = bytes ↔ piiMasker = none ∨ IsText bytes := by
  cases piiMasker with
  | none => exact iff_of_true rfl (.inl rfl)
  | some masker =>
    rw [or_iff_right nofun, maskResponse]
    refine ⟨fun hself => ⟨_, hself⟩, ?_⟩
    rintro ⟨text, rfl⟩
    rw [textOrEmpty_textBytes, masked_of_idle h]

end

variable {Json : Type} (cr : AiCrates Json) (env : PostEnv) (ctx : AIContext Json)

/-- `post_process` up to the serialised response. -/
def serializedResponse (body : List UInt8) : FilterM Json (List UInt8) := do
  let filter ← get
  let adapter ← Fallible.lift (filter.findAdapter ctx.format)
  Fallible.lift (runOnResponse env filter.wasmFilter body)
  let out ← reformat env adapter ctx body
  recordUsage env ctx.rateLimitKey out.1
  return out.2

theorem postProcess_eq (body : List UInt8) (filter : AIGatewayFilter Json) :
    postProcess cr env ctx body filter
      = (maskResponse cr.regex filter.piiMasker <$> serializedResponse env ctx body) filter := by
  simp only [postProcess, serializedResponse, map_bind, map_pure]
  rfl

/-- **Idle masking changes nothing exactly if there is no masker or the body is text**, for a
request and for a response. -/
theorem idle_masking_transparent_iff (request body : List UInt8) (filter : AIGatewayFilter Json) :
    ((Idle cr.regex filter.piiMasker request →
        prepareRequestBody cr.regex filter.piiMasker request = request) ↔
      (Idle cr.regex filter.piiMasker request → filter.piiMasker = none ∨ IsText request)) ∧
    ∀ out filter', serializedResponse env ctx body filter = .ok out filter' →
      ∃ result, postProcess cr env ctx body filter = .ok result filter' ∧
        ((Idle cr.regex filter.piiMasker out → result = out) ↔
          (Idle cr.regex filter.piiMasker out → filter.piiMasker = none ∨ IsText out)) := by
  refine ⟨forall_congr' prepareRequestBody_eq_self_iff, fun out filter' hout =>
    ⟨maskResponse cr.regex filter.piiMasker out, ?_, forall_congr' maskResponse_eq_self_iff⟩⟩
  simp only [postProcess_eq, Functor.map, EStateM.map, hout]

theorem disabled_masking_drops_body :
    let rx : RegexCrate := ⟨fun _ _ => [], nofun⟩
    let masker : PIIMasker := ⟨[], .mask, false⟩
    Idle rx (some masker) [255] ∧ prepareRequestBody rx (some masker) [255] = [] := by
  refine ⟨?_, rfl⟩
  rintro masker ⟨⟩
  exact .inl rfl

end NantianGateway.Ai
