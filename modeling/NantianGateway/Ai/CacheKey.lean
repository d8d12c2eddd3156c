import NantianGateway.Ai.Ir

/-!
# The cache key

`build_cache_key` hashes a request to a key of the semantic cache.  What the standard library
writes is delimited, and the JSON text of the extra fields begins with a brace.  The image of a
content part is not delimited: a stream determines the request **exactly among the requests with
images in the same places**.
-/

namespace NantianGateway.Ai

open HashStream List

/-- The crate that writes JSON: the text of an object tells the object, and begins with a brace. -/
structure JsonCrate (Json : Type) where
  toString : BTreeMap Json → String
  injective : Function.Injective toString
  brace : ∀ object, ∃ rest, (toString object).toList = '\x7b' :: rest

variable {Json : Type}

/-! ## What is hashed -/

def hashF32Option (value : Option UInt32) : List UInt8 := option u32 value

def hashRole : AIRole → List UInt8
  | .system => [0]
  | .user => [1]
  | .assistant => [2]
  | .tool => [3]

def hashImageUrl (imageUrl : AIImageUrl) : List UInt8 :=
  str imageUrl.url ++ option str imageUrl.detail

/-- A part.  Nothing says whether there is an image. -/
def hashPart (part : AIContentPart) : List UInt8 :=
  str part.contentType ++ (option str part.text ++
    match part.imageUrl with
    | some imageUrl => hashImageUrl imageUrl
    | none => [])

def hashContent : AIContent → List UInt8
  | .text text => 0 :: str text
  | .multiPart parts => 1 :: slice hashPart parts
  | .none => [2]

def hashToolCall (toolCall : AIToolCall) : List UInt8 :=
  str toolCall.id ++ (str toolCall.callType ++
    (str toolCall.function.name ++ str toolCall.function.arguments))

def hashMessage (message : AIMessage) : List UInt8 :=
  hashRole message.role ++ (option str message.name ++ (hashContent message.content ++
    (option str message.toolCallId ++ slice hashToolCall message.toolCalls)))

variable (json : JsonCrate Json)

def hashExtra (extra : BTreeMap Json) : List UInt8 :=
  if extra.entries.isEmpty then [] else str (json.toString extra)

variable (request : AIRequest Json)

/-- The bytes that `build_cache_key` feeds to the hasher. -/
def cacheKeyStream : List UInt8 :=
  str request.model ++ (hashF32Option request.temperature ++ (option u32 request.maxTokens ++
    (hashF32Option request.topP ++ (slice str request.stop ++ (bool request.stream ++
      (option str request.user ++ (hashExtra json request.extra ++
        request.messages.flatMap hashMessage)))))))

def buildCacheKey (finish : List UInt8 → UInt64) (request : AIRequest Json) : String :=
  let hash := finish (cacheKeyStream json request)
  "cache:" ++ String.ofList (List.leftpad 16 '0' (Nat.toDigits 16 hash.toNat))

/-! ## Where the images are -/

def AIContent.images : AIContent → List Bool
  | .multiPart parts => parts.val.map fun part => part.imageUrl.isSome
  | .text _ => []
  | .none => []

def AIRequest.images : List (List Bool) :=
  request.messages.map fun message => message.content.images

/-! ## Reading it back -/

theorem delimited_hashRole : Delimited hashRole := by
  intro a b r s h
  cases a <;> cases b <;> simp_all [hashRole]

theorem delimited_hashImageUrl : Delimited hashImageUrl := by
  intro a b r s h
  obtain ⟨aUrl, aDetail⟩ := a
  obtain ⟨bUrl, bDetail⟩ := b
  simp only [hashImageUrl, append_assoc] at h
  obtain ⟨rfl, hdetail⟩ := delimited_str h
  obtain ⟨rfl, hrest⟩ := delimited_option delimited_str hdetail
  exact ⟨rfl, hrest⟩

theorem delimitedAt_hashPart :
    DelimitedAt (fun part : AIContentPart => part.imageUrl.isSome) hashPart := by
  intro a b himage r s h
  obtain ⟨aType, aText, aImage⟩ := a
  obtain ⟨bType, bText, bImage⟩ := b
  simp only [hashPart, append_assoc] at h
  obtain ⟨rfl, htext⟩ := delimited_str h
  obtain ⟨rfl, htail⟩ := delimited_option delimited_str htext
  cases aImage with
  | none =>
    cases bImage with
    | none => exact ⟨rfl, htail⟩
    | some bImage => exact absurd himage (by simp)
  | some aImage =>
    cases bImage with
    | none => exact absurd himage (by simp)
    | some bImage =>
      obtain ⟨rfl, hrest⟩ := delimited_hashImageUrl htail
      exact ⟨rfl, hrest⟩

theorem delimitedAt_hashContent : DelimitedAt AIContent.images hashContent := by
  intro a b himages r s h
  cases a with
  | text a =>
    cases b with
    | text b =>
      obtain ⟨rfl, hrest⟩ := delimited_str (List.cons.inj h).2
      exact ⟨rfl, hrest⟩
    | _ => exact absurd (List.cons.inj h).1 (by decide)
  | multiPart a =>
    cases b with
    | multiPart b =>
      obtain ⟨rfl, hrest⟩ := delimitedAt_slice delimitedAt_hashPart himages (List.cons.inj h).2
      exact ⟨rfl, hrest⟩
    | _ => exact absurd (List.cons.inj h).1 (by decide)
  | none =>
    cases b with
    | none => exact ⟨rfl, (List.cons.inj h).2⟩
    | _ => exact absurd (List.cons.inj h).1 (by decide)

theorem delimited_hashToolCall : Delimited hashToolCall := by
  intro a b r s h
  obtain ⟨aId, aType, aName, aArguments⟩ := a
  obtain ⟨bId, bType, bName, bArguments⟩ := b
  simp only [hashToolCall, append_assoc] at h
  obtain ⟨rfl, htype⟩ := delimited_str h
  obtain ⟨rfl, hname⟩ := delimited_str htype
  obtain ⟨rfl, harguments⟩ := delimited_str hname
  obtain ⟨rfl, hrest⟩ := delimited_str harguments
  exact ⟨rfl, hrest⟩

theorem delimitedAt_hashMessage :
    DelimitedAt (fun message : AIMessage => message.content.images) hashMessage := by
  intro a b himages r s h
  obtain ⟨aRole, aContent, aName, aCalls, aCallId⟩ := a
  obtain ⟨bRole, bContent, bName, bCalls, bCallId⟩ := b
  simp only [hashMessage, append_assoc] at h
  obtain ⟨rfl, hname⟩ := delimited_hashRole h
  obtain ⟨rfl, hcontent⟩ := delimited_option delimited_str hname
  obtain ⟨rfl, hcallId⟩ := delimitedAt_hashContent himages hcontent
  obtain ⟨rfl, hcalls⟩ := delimited_option delimited_str hcallId
  obtain ⟨rfl, hrest⟩ := delimited_slice delimited_hashToolCall hcalls
  exact ⟨rfl, hrest⟩

/-! ## The extra fields -/

theorem head_messages_ne_brace (messages : List AIMessage) (rest : List UInt8) :
    messages.flatMap hashMessage ≠ 0x7b :: rest := by
  cases messages with
  | nil => exact (cons_ne_nil _ _).symm
  | cons message messages =>
    rw [flatMap_cons, hashMessage]
    cases hrole : message.role <;> simp [hashRole]

theorem str_toString_eq (object : BTreeMap Json) :
    ∃ rest, str (json.toString object) = 0x7b :: rest := by
  obtain ⟨rest, hrest⟩ := json.brace object
  refine ⟨rest.flatMap String.utf8EncodeChar ++ [0xff], ?_⟩
  rw [str, hrest, flatMap_cons]
  rfl

theorem hashExtra_inj {a b : BTreeMap Json} {l m : List AIMessage}
    (h : hashExtra json a ++ l.flatMap hashMessage = hashExtra json b ++ m.flatMap hashMessage) :
    a = b ∧ l.flatMap hashMessage = m.flatMap hashMessage := by
  obtain ⟨aRest, haRest⟩ := str_toString_eq json a
  obtain ⟨bRest, hbRest⟩ := str_toString_eq json b
  unfold hashExtra at h
  split at h
  · rename_i ha
    split at h
    · rename_i hb
      obtain ⟨aEntries, aSorted⟩ := a
      obtain ⟨bEntries, bSorted⟩ := b
      obtain rfl : aEntries = [] := List.isEmpty_iff.mp ha
      obtain rfl : bEntries = [] := List.isEmpty_iff.mp hb
      exact ⟨rfl, h⟩
    · rw [hbRest] at h
      exact (head_messages_ne_brace _ _ h).elim
  · split at h
    · rw [haRest] at h
      exact (head_messages_ne_brace _ _ h.symm).elim
    · obtain ⟨htext, hmessages⟩ := delimited_str h
      exact ⟨json.injective htext, hmessages⟩

/-! ## The request -/

theorem cacheKeyStream_inj {a b : AIRequest Json}
    (himages : a.images = b.images) (h : cacheKeyStream json a = cacheKeyStream json b) :
    a = b := by
  obtain ⟨aMessages, aModel, aTemperature, aMaxTokens, aTopP, aStop, aStream, aUser, aExtra⟩ := a
  obtain ⟨bMessages, bModel, bTemperature, bMaxTokens, bTopP, bStop, bStream, bUser, bExtra⟩ := b
  simp only [cacheKeyStream] at h
  obtain ⟨rfl, htemperature⟩ := delimited_str h
  obtain ⟨rfl, hmaxTokens⟩ := delimited_option delimited_u32 htemperature
  obtain ⟨rfl, htopP⟩ := delimited_option delimited_u32 hmaxTokens
  obtain ⟨rfl, hstop⟩ := delimited_option delimited_u32 htopP
  obtain ⟨rfl, hstream⟩ := delimited_slice delimited_str hstop
  obtain ⟨rfl, huser⟩ := delimited_bool hstream
  obtain ⟨rfl, hextra⟩ := delimited_option delimited_str huser
  obtain ⟨rfl, hmessages⟩ := hashExtra_inj json hextra
  -- nothing follows the messages
  rw [← append_nil (aMessages.flatMap _), ← append_nil (bMessages.flatMap _)] at hmessages
  obtain ⟨rfl, -⟩ := delimitedAt_flatMap delimitedAt_hashMessage himages hmessages
  rfl

/-- **What is hashed determines the request exactly if it determines where the images are.** -/
theorem cacheKey_injective_iff (json : JsonCrate Json) (a b : AIRequest Json) :
    (cacheKeyStream json a = cacheKeyStream json b → a = b)
      ↔ (cacheKeyStream json a = cacheKeyStream json b → a.images = b.images) := by
  constructor
  · intro h hstream
    rw [h hstream]
  · intro h hstream
    exact cacheKeyStream_inj json (h hstream) hstream

def noFields : JsonCrate Empty where
  toString _ := "\x7b\x7d"
  injective := by
    rintro ⟨a, ha⟩ ⟨b, hb⟩ -
    cases a with
    | nil =>
      cases b with
      | nil => rfl
      | cons entry _ => exact entry.2.elim
    | cons entry _ => exact entry.2.elim
  brace _ := ⟨['\x7d'], by decide⟩

def conversation (parts : Vec AIContentPart) : AIRequest Empty :=
  { messages := [{ role := .user, content := .multiPart parts }], model := "gpt-4o" }

def imageThenText : Vec AIContentPart :=
  ⟨[{ contentType := "image_url", text := none, imageUrl := some ⟨"https://a/b.png", none⟩ },
    { contentType := "text", text := some "what is this?", imageUrl := none }], by decide⟩

/-- A part without an image, and then a part of an odd type with an image of an odd address. -/
def textAsImage : Vec AIContentPart :=
  ⟨[{ contentType := "image_url", text := none, imageUrl := none },
    { contentType := "https://a/b.png", text := none,
      imageUrl := some ⟨"text", some "what is this?"⟩ }], by decide⟩

/-- The two conversations are hashed alike: the address of the image is read as the type of the next
part. -/
theorem cacheKey_collides_parts : cacheKeyStream noFields (conversation imageThenText)
        = cacheKeyStream noFields (conversation textAsImage)
      ∧ conversation imageThenText ≠ conversation textAsImage := by
  refine ⟨by decide +kernel, fun h => ?_⟩
  have himages := congrArg AIRequest.images h
  exact absurd himages (by decide)

end NantianGateway.Ai
