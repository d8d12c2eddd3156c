import NantianGateway.Lib.HashStream
import NantianGateway.Lib.Table

/-!
# The internal representation of a chat completion

Every adapter parses requests to an `AIRequest` and responses to an `AIResponse` or to chunks;
every filter reads these.  The values of a JSON document are those of a crate, `Json`.  A 32-bit
float is its bits.  The vectors whose length is written to a hasher are `Vec`, the others lists.
-/

namespace NantianGateway.Ai

open HashStream (Vec)

inductive AIRole where
  | system
  | user
  | assistant
  | tool
  deriving DecidableEq

structure AIImageUrl where
  url : String
  detail : Option String
  deriving DecidableEq

structure AIContentPart where
  contentType : String
  text : Option String
  imageUrl : Option AIImageUrl
  deriving DecidableEq

inductive AIContent where
  | text (text : String)
  | multiPart (parts : Vec AIContentPart)
  | none
  deriving DecidableEq

structure AIToolCallFunction where
  name : String
  arguments : String
  deriving DecidableEq

structure AIToolCall where
  id : String
  callType : String
  function : AIToolCallFunction
  deriving DecidableEq

structure AIMessage where
  role : AIRole
  content : AIContent
  name : Option String := none
  toolCalls : Vec AIToolCall := Vec.nil
  toolCallId : Option String := none
  deriving DecidableEq

structure AIRequest (Json : Type) where
  messages : List AIMessage
  model : String
  temperature : Option UInt32 := none
  maxTokens : Option UInt32 := none
  topP : Option UInt32 := none
  stop : Vec String := Vec.nil
  stream : Bool := false
  user : Option String := none
  extra : BTreeMap Json := BTreeMap.empty
  deriving DecidableEq

structure AIChoice where
  index : UInt32
  message : AIMessage
  finishReason : Option String
  deriving DecidableEq

structure AIUsage where
  promptTokens : UInt64
  completionTokens : UInt64
  totalTokens : UInt64
  deriving DecidableEq

structure AIResponse (Json : Type) where
  id : String
  model : String
  choices : List AIChoice
  usage : Option AIUsage := none
  created : Option UInt64 := none
  extra : BTreeMap Json := BTreeMap.empty
  deriving DecidableEq

structure AIStreamDelta where
  role : Option AIRole
  content : Option String
  toolCalls : List AIToolCall := []

structure AIStreamChoice where
  index : UInt32
  delta : AIStreamDelta
  finishReason : Option String

structure AIStreamChunk where
  id : String
  model : String
  choices : List AIStreamChoice
  usage : Option AIUsage := none
  created : Option UInt64 := none

/-- The errors that the filter and its adapters give. -/
inductive AIError (Json : Type) where
  | formatParse (format message : String)
  | formatSerialize (format message : String)
  | unsupportedFormat (path : String)
  | adapterNotFound (format : String)
  | rateLimitExceeded (retryAfterSecs : ℕ)
  | internal (message : String)
  | promptGuardBlocked (reason matched : String)
  | contentSafetyBlocked (category matched : String)
  | cacheHit (response : AIResponse Json)
  | fallbackExhausted (model reason : String)
  | tenantDenied (reason : String)

/-! ## Adapters -/

/-- The trait `FormatAdapter`, as far as the filter uses it. -/
structure FormatAdapter (Json : Type) where
  parseRequest : List UInt8 → Except (AIError Json) (AIRequest Json)
  parseResponse : List UInt8 → Except (AIError Json) (AIResponse Json)
  serializeResponse : AIResponse Json → Except (AIError Json) (List UInt8)
  serializeStreamChunk : AIStreamChunk → Except (AIError Json) String
  parseStreamBody : List UInt8 → Except (AIError Json) (List AIStreamChunk)

abbrev AdapterRegistry (Json : Type) := Table String (FormatAdapter Json)

def formatOfSegments : List String → Option String
  | first :: second :: rest =>
    match first, second with
    | "v1", "chat\\_completions" => some "openai"
    | "v1", "completions" => some "openai"
    | "chat", "completions" => some "openai"
    | "v1", "messages" => some "anthropic"
    | "api", "chat" => some "ollama"
    | "api", "generate" => some "ollama"
    | _, _ => formatOfSegments (second :: rest)
  | _ => none

def detectFormat (path : String) : Option String :=
  formatOfSegments (((path.toList.splitOn '/').map String.ofList).filter (· ≠ ""))

end NantianGateway.Ai
