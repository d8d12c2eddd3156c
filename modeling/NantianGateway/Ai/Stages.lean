import Mathlib.Data.UInt
import NantianGateway.Ai.CacheKey
import NantianGateway.Ai.Pii

/-!
# The stages that read or rewrite a request

A router picks the model by the length of the conversation; an experiment may replace it; a template
puts messages in front; and the guards look for what must not be sent.  After a failure the model
may be replaced by the next one of its chain.
-/

namespace NantianGateway.Ai

/-- What the filter takes from crates: regular expressions, JSON, the lower case of a text and the
hash of a stream of bytes. -/
structure AiCrates (Json : Type) where
  regex : RegexCrate
  json : JsonCrate Json
  toLowercase : String → String
  finish : List UInt8 → UInt64

variable {Json : Type}

/-! ## The router -/

inductive Complexity where
  | simple
  | medium
  | complex
  deriving DecidableEq

structure ModelRoute where
  model : String
  weight : UInt32
  maxTokens : Option UInt32 := none

abbrev ModelRouter := Table Complexity (List ModelRoute)

def AIContent.charCount : AIContent → ℕ
  | .text s => s.toList.length
  | .multiPart parts =>
    ((parts.val.filterMap fun part => part.text).map fun s => s.toList.length).sum
  | .none => 0

def classify (request : AIRequest Json) : Complexity :=
  let totalLen := (request.messages.map fun message => message.content.charCount).sum
  if totalLen < 200 then .simple else if totalLen < 2000 then .medium else .complex

def chooseWeighted : List ModelRoute → ℕ → Option ModelRoute
  | [], _ => none
  | route :: routes, roll =>
    if roll < route.weight.toNat then some route
    else chooseWeighted routes (roll - route.weight.toNat)

def ModelRouter.route (router : ModelRouter) (complexity : Complexity) (roll : ℕ) :
    Option ModelRoute :=
  (router complexity).bind fun routes =>
    if (routes.map ModelRoute.weight).sum = 0 then routes.head? else chooseWeighted routes roll

def capMaxTokens (limit : Option UInt32) (request : AIRequest Json) : AIRequest Json :=
  match limit with
  | some maxTokens =>
    if request.maxTokens.all fun asked => maxTokens < asked then
      { request with maxTokens := some maxTokens }
    else request
  | none => request

/-- The router replaces the model, and says how complex the request is. -/
def routeModel (router : Option ModelRouter) (roll : ℕ) (request : AIRequest Json) :
    AIRequest Json × Option Complexity :=
  match router with
  | some router =>
    let complexity := classify request
    match router.route complexity roll with
    | some route => (capMaxTokens route.maxTokens { request with model := route.model }, complexity)
    | none => (request, complexity)
  | none => (request, none)

/-! ## Experiments -/

structure Variant where
  name : String
  model : String
  weight : Float

structure ABTest where
  experimentId : String
  variants : List Variant

def firstAbove (roll : Float) : Float → List Variant → Option Variant
  | _, [] => none
  | cumulative, variant :: variants =>
    if roll < cumulative + variant.weight then some variant
    else firstAbove roll (cumulative + variant.weight) variants

def selectVariantForRoll (experiment : ABTest) (roll : Float) : Option Variant :=
  (firstAbove roll 0 experiment.variants).or experiment.variants.getLast?

abbrev ABTestEngine := Table String ABTest

def ABTestEngine.selectVariant (engine : ABTestEngine) (experimentId : String) (roll : Float) :
    Option Variant :=
  (engine experimentId).bind fun experiment => selectVariantForRoll experiment roll

def overrideModel (engine : Option ABTestEngine) (experimentId : Option String) (roll : Float)
    (request : AIRequest Json) : AIRequest Json :=
  match engine, experimentId with
  | some engine, some experimentId =>
    match engine.selectVariant experimentId roll with
    | some variant => { request with model := variant.model }
    | none => request
  | _, _ => request

/-! ## Templates -/

structure PromptTemplate where
  name : String
  systemPrompt : String
  «variables» : List (String × String) := []
  fewShotExamples : List AIMessage := []

def replaceLoop (pattern value : List Char) : ℕ → List Char → List Char
  | 0, text => text
  | fuel + 1, text =>
    match Text.cutAt pattern text with
    | some (before, after) => before ++ value ++ replaceLoop pattern value fuel after
    | none => text

/-- `str::replace`: a pattern that is not empty occurs at most as often as there are characters. -/
def replaceText (text pattern value : String) : String :=
  String.ofList (replaceLoop pattern.toList value.toList text.toList.length text.toList)

def PromptTemplate.resolve (template : PromptTemplate) (text : String) : String :=
  template.«variables».foldl
    (fun resolved entry => replaceText resolved ("\x7b" ++ entry.1 ++ "\x7d") entry.2) text

abbrev PromptInjector := Table String PromptTemplate

def PromptInjector.inject (injector : PromptInjector) (templateName : String)
    (request : AIRequest Json) : AIRequest Json :=
  match injector templateName with
  | some template =>
    { request with
      messages := { role := .system, content := .text (template.resolve template.systemPrompt) }
        :: (template.fewShotExamples ++ request.messages) }
  | none => request

/-! ## Guards -/

structure GuardKeyword where
  category : String := ""
  original : String
  normalized : String

structure PromptGuardFilter where
  patterns : List String
  keywords : List GuardKeyword
  enabled : Bool := true
  mode : String := "block"

structure ContentSafetyFilter where
  patterns : List (String × String)
  keywords : List GuardKeyword
  enabled : Bool := true
  blockMode : Bool := true

def messageText : AIContent → Option String
  | .text text => some text
  | .multiPart parts =>
    match parts.val.filterMap fun part => part.text with
    | [] => none
    | texts => some (" ".intercalate texts)
  | .none => none

section Guards

variable (cr : AiCrates Json)

def findFirst (pattern text : String) : Option String :=
  (cr.regex.findIter pattern text).head?.bind fun found => Text.slice text found.1 found.2

variable (guard : Option PromptGuardFilter)

def checkPromptGuard (text : String) : Except (AIError Json) Unit :=
  match guard with
  | some guard =>
    if guard.enabled then do
      guard.patterns.forM fun pattern =>
        match findFirst cr pattern text with
        | some matched =>
          if guard.mode = "block" then
            .error (.promptGuardBlocked "injection_pattern_match" matched)
          else .ok ()
        | none => .ok ()
      guard.keywords.forM fun keyword =>
        if Text.contains (cr.toLowercase text) keyword.normalized && guard.mode = "block" then
          .error (.promptGuardBlocked ("blocked_keyword: " ++ keyword.original) keyword.original)
        else .ok ()
    else .ok ()
  | none => .ok ()

variable (safety : Option ContentSafetyFilter)

def checkContentSafety (text : String) : Except (AIError Json) Unit :=
  match safety with
  | some safety =>
    if safety.enabled then do
      safety.patterns.forM fun (category, pattern) =>
        match findFirst cr pattern text with
        | some matched =>
          if safety.blockMode then .error (.contentSafetyBlocked category matched) else .ok ()
        | none => .ok ()
      safety.keywords.forM fun keyword =>
        if Text.contains (cr.toLowercase text) keyword.normalized && safety.blockMode then
          .error (.contentSafetyBlocked keyword.category keyword.original)
        else .ok ()
    else .ok ()
  | none => .ok ()

def scanSecurity (request : AIRequest Json) : Except (AIError Json) Unit :=
  request.messages.forM fun message =>
    match messageText message.content with
    | some text => do
      checkPromptGuard cr guard text
      checkContentSafety cr safety text
    | none => .ok ()

end Guards

/-! ## Fallbacks -/

structure FallbackEntry where
  model : String
  onStatus : List ℕ := []
  onTimeout : Bool := false

structure FallbackChain where
  primary : String
  fallbacks : List FallbackEntry

abbrev ModelFallback := Table String FallbackChain

/-- The model of the entry at the attempt, if the status or the timeout triggers it. -/
def ModelFallback.resolveFallback (fallback : ModelFallback) (currentModel : String)
    (statusCode : Option ℕ) (isTimeout : Bool) (currentAttempt : ℕ) : Option String :=
  (fallback currentModel).bind fun chain =>
    chain.fallbacks[currentAttempt]?.bind fun entry =>
      let statusTriggered := statusCode.any fun code =>
        entry.onStatus.isEmpty || entry.onStatus.contains code
      let timeoutTriggered := isTimeout && entry.onTimeout
      if statusTriggered || timeoutTriggered then some entry.model else none

end NantianGateway.Ai
