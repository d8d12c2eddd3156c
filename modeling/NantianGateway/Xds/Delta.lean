import NantianGateway.Lib.Keyed
import NantianGateway.Lib.Text

/-!
# The incremental configuration stream

`delta_connect_loop`: the data plane keeps what it was sent in a `ConfigSnapshot`, and hands it on
once it has heard of every type and the system version changes.  The cache compares names in
messages with the `name` field of resources, which are identified by namespace *and* name.
-/

namespace NantianGateway.Xds

open Text Function List

/-! ## Messages -/

inductive ResourceType where
  | listener
  | httpRoute
  | grpcRoute
  | streamRoute
  | backendCluster
  | secretMaterial
  deriving DecidableEq

/-- A decoded resource: the two fields by which it is known, and the rest of the message.
A listener has no namespace; its namespace is empty. -/
structure ProtoResource (β : Type) where
  «namespace» : String := ""
  name : String
  body : β
  deriving DecidableEq

def ProtoResource.key {β : Type} (resource : ProtoResource β) : String × String :=
  (resource.namespace, resource.name)

/-- The six lists of the cached snapshot. -/
structure ConfigSnapshot (β : Type) where
  listeners : List (ProtoResource β) := []
  httpRoutes : List (ProtoResource β) := []
  grpcRoutes : List (ProtoResource β) := []
  streamRoutes : List (ProtoResource β) := []
  backends : List (ProtoResource β) := []
  secrets : List (ProtoResource β) := []

structure Resource where
  name : String
  resource : Option (List UInt8)

structure DeltaDiscoveryResponse where
  systemVersionInfo : String := ""
  nonce : String := ""
  typeUrl : String
  resources : List Resource := []
  removedResources : List String := []
  nonIncremental : Bool := false

structure DeltaDiscoveryAck where
  responseNonce : String
  typeUrl : String

/-- `prost`'s decoders of the six types. -/
abbrev Codec (β : Type) := ResourceType → List UInt8 → Except String (ProtoResource β)

def subscriptions : List String :=
  ["type.googleapis.com/gateway.control.v1.Listener",
    "type.googleapis.com/gateway.control.v1.HttpRoute",
    "type.googleapis.com/gateway.control.v1.GrpcRoute",
    "type.googleapis.com/gateway.control.v1.StreamRoute",
    "type.googleapis.com/gateway.control.v1.BackendCluster",
    "type.googleapis.com/gateway.control.v1.SecretMaterial"]

/-- The chain of tests by which every edit finds its list. -/
def resourceType (typeUrl : String) : Option ResourceType :=
  if contains typeUrl "Listener" then some .listener
  else if contains typeUrl "HttpRoute" then some .httpRoute
  else if contains typeUrl "GrpcRoute" then some .grpcRoute
  else if contains typeUrl "StreamRoute" then some .streamRoute
  else if contains typeUrl "BackendCluster" then some .backendCluster
  else if contains typeUrl "SecretMaterial" then some .secretMaterial
  else none

def ResourceType.messageName : ResourceType → String
  | listener => "Listener"
  | httpRoute => "HttpRoute"
  | grpcRoute => "GrpcRoute"
  | streamRoute => "StreamRoute"
  | backendCluster => "BackendCluster"
  | secretMaterial => "SecretMaterial"

namespace ConfigSnapshot

variable {β : Type}

def slot (cached : ConfigSnapshot β) : ResourceType → List (ProtoResource β)
  | .listener => cached.listeners
  | .httpRoute => cached.httpRoutes
  | .grpcRoute => cached.grpcRoutes
  | .streamRoute => cached.streamRoutes
  | .backendCluster => cached.backends
  | .secretMaterial => cached.secrets

def modify (cached : ConfigSnapshot β) (type : ResourceType)
    (f : List (ProtoResource β) → List (ProtoResource β)) : ConfigSnapshot β :=
  match type with
  | .listener => { cached with listeners := f cached.listeners }
  | .httpRoute => { cached with httpRoutes := f cached.httpRoutes }
  | .grpcRoute => { cached with grpcRoutes := f cached.grpcRoutes }
  | .streamRoute => { cached with streamRoutes := f cached.streamRoutes }
  | .backendCluster => { cached with backends := f cached.backends }
  | .secretMaterial => { cached with secrets := f cached.secrets }

@[simp] theorem slot_modify (cached : ConfigSnapshot β) (type : ResourceType)
    (f : List (ProtoResource β) → List (ProtoResource β)) :
    (cached.modify type f).slot = Function.update cached.slot type (f (cached.slot type)) := by
  funext type'
  cases type <;> cases type' <;> rfl

end ConfigSnapshot

/-! ## Editing the cache -/

section

variable {β : Type} (codec : Codec β) (cached : ConfigSnapshot β)

def clearType (typeUrl : String) : ConfigSnapshot β :=
  match resourceType typeUrl with
  | none => cached
  | some type => cached.modify type fun _ => []

/-- `retain(|r| r.name != name)`. -/
def retainOthers (name : String) (resources : List (ProtoResource β)) : List (ProtoResource β) :=
  resources.filter fun resource => resource.name != name

def removeResource (typeUrl name : String) : ConfigSnapshot β :=
  match resourceType typeUrl with
  | none => cached
  | some type => cached.modify type (retainOthers name)

/-- The resource of that name is dropped before the payload is decoded, so a payload that
cannot be decoded leaves the cache without it. -/
def upsertResource (typeUrl name : String) (resource : Resource) :
    Except String Unit × ConfigSnapshot β :=
  match resource.resource with
  | none => (.ok (), cached)
  | some bytes =>
    match resourceType typeUrl with
    | none => (.ok (), cached)
    | some type =>
      let retained := cached.modify type (retainOthers name)
      match codec type bytes with
      | .error error => (.error ("decode " ++ type.messageName ++ ": " ++ error), retained)
      | .ok value => (.ok (), retained.modify type (· ++ [value]))

def upsertStep (typeUrl : String) (cached : ConfigSnapshot β) (resource : Resource) :
    ConfigSnapshot β :=
  if resource.name = "" then cached
  else (upsertResource codec cached typeUrl resource.name resource).2

/-- What a message does to the cache: clear, remove, upsert. -/
def applyMessage (msg : DeltaDiscoveryResponse) : ConfigSnapshot β :=
  let cached := if msg.nonIncremental then clearType cached msg.typeUrl else cached
  let cached := msg.removedResources.foldl
    (fun cached name => removeResource cached msg.typeUrl name) cached
  msg.resources.foldl (upsertStep codec msg.typeUrl) cached

/-- The state of the loop.  `seen_types` is used for its size and its keys. -/
structure DeltaState (β : Type) where
  cached : ConfigSnapshot β := {}
  seenTypes : List String := []
  version : String := ""

def noteType (seenTypes : List String) (typeUrl : String) : List String :=
  if seenTypes.length < subscriptions.length ∧ typeUrl ∉ seenTypes then seenTypes ++ [typeUrl]
  else seenTypes

/-- One turn of the loop: the new state, and the snapshot handed on together with the
acknowledgement, if there is one. -/
def deltaStep (st : DeltaState β) (msg : DeltaDiscoveryResponse) :
    DeltaState β × Option (ConfigSnapshot β × DeltaDiscoveryAck) :=
  let seenTypes := noteType st.seenTypes msg.typeUrl
  let cached := applyMessage codec st.cached msg
  if subscriptions.length ≤ seenTypes.length ∧ msg.systemVersionInfo ≠ st.version then
    (⟨cached, seenTypes, msg.systemVersionInfo⟩, some (cached, ⟨msg.nonce, msg.typeUrl⟩))
  else (⟨cached, seenTypes, st.version⟩, none)

def deltaRun (messages : List DeltaDiscoveryResponse) : DeltaState β :=
  messages.foldl (fun st msg => (deltaStep codec st msg).1) {}

theorem cached_deltaStep (st : DeltaState β) (msg : DeltaDiscoveryResponse) :
    (deltaStep codec st msg).1.cached = applyMessage codec st.cached msg := by
  rw [deltaStep]
  split <;> rfl

end

/-! ## What the messages say -/

/-- A change of the resources of one type, in the control plane's terms. -/
inductive Change (β : Type) where
  /-- All resources of the type are replaced by what follows. -/
  | clear
  | remove (key : String × String)
  | upsert (value : ProtoResource β)

/-- What a message says: its type, whether it replaces all resources, and by their keys
which ones it removes, then which ones it adds or replaces. -/
structure Batch (β : Type) where
  type : ResourceType
  replaceAll : Bool := false
  removed : List (String × String) := []
  upserted : List (ProtoResource β) := []

def Batch.changes {β : Type} (batch : Batch β) : List (Change β) :=
  (if batch.replaceAll then [.clear] else []) ++ batch.removed.map .remove
    ++ batch.upserted.map .upsert

/-- The control plane's name in messages for the resource of a key. -/
abbrev WireNames := ResourceType → String × String → String

/-- A resource on the wire that decodes to a value, under the value's wire name. -/
def Resource.Carries {β : Type} (codec : Codec β) (wire : WireNames) (type : ResourceType)
    (resource : Resource) (value : ProtoResource β) : Prop :=
  resource.name = wire type value.key ∧
    ∃ bytes, resource.resource = some bytes ∧ codec type bytes = .ok value

/-- **The message says what the batch says**, with decodable payloads and the control
plane's names. -/
structure Carries {β : Type} (codec : Codec β) (wire : WireNames) (msg : DeltaDiscoveryResponse)
    (batch : Batch β) : Prop where
  type : resourceType msg.typeUrl = some batch.type
  replaceAll : msg.nonIncremental = batch.replaceAll
  removed : msg.removedResources = batch.removed.map (wire batch.type)
  upserted : List.Forall₂ (Resource.Carries codec wire batch.type) msg.resources batch.upserted

section

variable {β : Type}

/-- A change as it should be: the map from keys to resources. -/
def Change.apply (m : Table (String × String) (ProtoResource β)) :
    Change β → Table (String × String) (ProtoResource β)
  | .clear => .empty
  | .remove key => Function.update m key none
  | .upsert value => Function.update m value.key (some value)

/-- **The resources that were upserted and not removed since**, after a sequence of
messages. -/
def store (batches : List (Batch β)) : ResourceType → Table (String × String) (ProtoResource β) :=
  batches.foldl
    (fun m batch => Function.update m batch.type (batch.changes.foldl Change.apply (m batch.type)))
    fun _ => .empty

/-- **The cache is right**: for every type, one entry for each resource of the map, equal to
its value there. -/
def Correct (cached : ConfigSnapshot β)
    (m : ResourceType → Table (String × String) (ProtoResource β)) : Prop :=
  ∀ type, Keyed.Holds ProtoResource.key (cached.slot type) (m type)

def Change.edit (wire : String × String → String) (l : List (ProtoResource β)) :
    Change β → List (ProtoResource β)
  | .clear => []
  | .remove key => retainOthers (wire key) l
  | .upsert value =>
    if wire value.key = "" then l else retainOthers (wire value.key) l ++ [value]

/-- **The name in the message picks out the resource it stands for**, and no other that is there. An
empty wire name is passed over. -/
def Change.Addressed (wire : String × String → String)
    (m : Table (String × String) (ProtoResource β)) : Change β → Prop
  | .clear => True
  | .remove key => ∀ e, m e.key = some e → (e.name = wire key ↔ e.key = key)
  | .upsert value =>
    if wire value.key = "" then m value.key = some value
    else ∀ e, m e.key = some e → (e.name = wire value.key ↔ e.key = value.key)

def ChangesAddressed (wire : String × String → String) :
    Table (String × String) (ProtoResource β) → List (Change β) → Prop
  | _, [] => True
  | m, change :: changes =>
    change.Addressed wire m ∧ ChangesAddressed wire (change.apply m) changes

/-- Every change of a sequence of messages is addressed, when it is made. -/
def Addressed (wire : WireNames) (batches : List (Batch β)) : Prop :=
  ∀ n batch, batches[n]? = some batch →
    ChangesAddressed (wire batch.type) (store (batches.take n) batch.type) batch.changes

/-! ## One change -/

variable {m : Table (String × String) (ProtoResource β)} {wire : String × String → String}
  {l : List (ProtoResource β)}

theorem holds_edit_iff (h : Keyed.Holds ProtoResource.key l m) (change : Change β) :
    Keyed.Holds ProtoResource.key (change.edit wire l) (change.apply m) ↔
      change.Addressed wire m := by
  have htest : ∀ key, (∀ e ∈ l, (e.name != wire key) = true ↔ e.key ≠ key) ↔
      ∀ e, m e.key = some e → (e.name = wire key ↔ e.key = key) := by
    intro key
    refine forall_congr' fun e => ?_
    rw [h.mem_iff e, bne_iff_ne, not_iff_not]
  cases change with
  | clear => exact iff_of_true Keyed.holds_nil trivial
  | remove key => exact (Keyed.holds_filter_iff h).trans (htest key)
  | upsert value =>
    rw [Change.edit, Change.Addressed, Change.apply]
    by_cases hnil : wire value.key = ""
    · rw [if_pos hnil, if_pos hnil]
      exact Keyed.holds_update_iff h
    · rw [if_neg hnil, if_neg hnil]
      exact (Keyed.holds_filter_push_iff h).trans (htest value.key)

theorem holds_foldl_edit {changes : List (Change β)}
    (h : Keyed.Holds ProtoResource.key l m) (haddressed : ChangesAddressed wire m changes) :
    Keyed.Holds ProtoResource.key (changes.foldl (Change.edit wire) l)
      (changes.foldl Change.apply m) := by
  induction changes generalizing l m with
  | nil => exact h
  | cons change changes ih => exact ih ((holds_edit_iff h change).mpr haddressed.1) haddressed.2

/-! ## One message -/

section

variable {codec : Codec β} {wire : WireNames} {msg : DeltaDiscoveryResponse} {batch : Batch β}
  {typeUrl : String} {type : ResourceType}

theorem slot_clearType (htype : resourceType typeUrl = some type) (cached : ConfigSnapshot β) :
    (clearType cached typeUrl).slot = Function.update cached.slot type [] := by
  rw [clearType, htype]
  exact cached.slot_modify type _

theorem slot_removeResource (htype : resourceType typeUrl = some type) (cached : ConfigSnapshot β)
    (key : String × String) :
    (removeResource cached typeUrl (wire type key)).slot = Function.update cached.slot type
        (Change.edit (wire type) (cached.slot type) (.remove key : Change β)) := by
  rw [removeResource, htype]
  exact cached.slot_modify type _

theorem slot_upsertStep {resource : Resource} {value : ProtoResource β}
    (htype : resourceType typeUrl = some type) (hcarries : resource.Carries codec wire type value)
    (cached : ConfigSnapshot β) :
    (upsertStep codec typeUrl cached resource).slot = Function.update cached.slot type
        (Change.edit (wire type) (cached.slot type) (.upsert value)) := by
  obtain ⟨hname, bytes, hbytes, hdecode⟩ := hcarries
  rw [upsertStep, Change.edit, hname]
  by_cases hnil : wire type value.key = ""
  · rw [if_pos hnil, if_pos hnil, update_eq_self]
  · rw [if_neg hnil, if_neg hnil]
    simp only [upsertResource, hbytes, htype, hdecode, ConfigSnapshot.slot_modify,
      update_self, update_idem]

theorem slot_foldl {α γ : Type*} {R : α → γ → Prop} {step : ConfigSnapshot β → α → ConfigSnapshot β}
    {edit : List (ProtoResource β) → γ → List (ProtoResource β)}
    (hstep : ∀ cached a c, R a c →
      (step cached a).slot = Function.update cached.slot type (edit (cached.slot type) c))
    {l : List α} {changes : List γ} (h : List.Forall₂ R l changes) (cached : ConfigSnapshot β) :
    (l.foldl step cached).slot
      = Function.update cached.slot type (changes.foldl edit (cached.slot type)) := by
  induction h generalizing cached with
  | nil => exact (update_eq_self _ _).symm
  | cons hac _ ih =>
    rw [foldl_cons, foldl_cons, ih, hstep _ _ _ hac, update_idem, update_self]

theorem slot_applyMessage (h : Carries codec wire msg batch) (cached : ConfigSnapshot β) :
    (applyMessage codec cached msg).slot = Function.update cached.slot batch.type
        (batch.changes.foldl (Change.edit (wire batch.type)) (cached.slot batch.type)) := by
  have hclear : (if msg.nonIncremental then clearType cached msg.typeUrl else cached).slot
      = Function.update cached.slot batch.type
        ((if batch.replaceAll then [.clear] else []).foldl (Change.edit (wire batch.type))
          (cached.slot batch.type)) := by
    rw [h.replaceAll]
    cases batch.replaceAll with
    | false => exact (update_eq_self _ _).symm
    | true => exact slot_clearType h.type cached
  have hremove : ∀ cached : ConfigSnapshot β,
      (msg.removedResources.foldl (fun cached name => removeResource cached msg.typeUrl name)
        cached).slot
      = Function.update cached.slot batch.type
        ((batch.removed.map .remove).foldl (Change.edit (wire batch.type))
          (cached.slot batch.type)) := by
    intro cached
    rw [h.removed, foldl_map, foldl_map]
    refine slot_foldl (R := Eq) (fun cached key key' hkey => ?_) (forall₂_eq_eq_eq ▸ rfl) cached
    rw [hkey]
    exact slot_removeResource h.type cached key'
  have hupsert : ∀ cached : ConfigSnapshot β,
      (msg.resources.foldl (upsertStep codec msg.typeUrl) cached).slot
      = Function.update cached.slot batch.type
        ((batch.upserted.map .upsert).foldl (Change.edit (wire batch.type))
          (cached.slot batch.type)) := by
    intro cached
    rw [foldl_map]
    exact slot_foldl (fun cached resource value hcarries =>
      slot_upsertStep h.type hcarries cached) h.upserted cached
  simp only [applyMessage, hupsert, hremove, hclear, update_idem, update_self,
    Batch.changes, foldl_append]

end

/-! ## A history -/

section

variable {codec : Codec β} {wire : WireNames} {history : List (DeltaDiscoveryResponse × Batch β)}

theorem store_append (batches : List (Batch β)) (batch : Batch β) : store (batches ++ [batch])
      = Function.update (store batches) batch.type
        (batch.changes.foldl Change.apply (store batches batch.type)) := by
  rw [store, foldl_append]
  rfl

theorem cached_deltaRun_append (messages : List DeltaDiscoveryResponse)
    (msg : DeltaDiscoveryResponse) :
    (deltaRun codec (messages ++ [msg])).cached
      = applyMessage codec (deltaRun codec messages).cached msg := by
  rw [deltaRun, foldl_append, foldl_cons, foldl_nil, cached_deltaStep]
  rfl

theorem correct_applyMessage_iff {cached : ConfigSnapshot β} {msg : DeltaDiscoveryResponse}
    {batches : List (Batch β)} {batch : Batch β} (hcorrect : Correct cached (store batches))
    (h : Carries codec wire msg batch) :
    Correct (applyMessage codec cached msg) (store (batches ++ [batch])) ↔
      Keyed.Holds ProtoResource.key
        (batch.changes.foldl (Change.edit (wire batch.type)) (cached.slot batch.type))
        (batch.changes.foldl Change.apply (store batches batch.type)) := by
  rw [Correct, slot_applyMessage h, store_append]
  constructor
  · intro hall
    have hbatch := hall batch.type
    rwa [update_self, update_self] at hbatch
  · intro hbatch type
    by_cases htype : type = batch.type
    · rw [htype, update_self, update_self]
      exact hbatch
    · rw [update_of_ne htype, update_of_ne htype]
      exact hcorrect type

theorem take_succ_history {n : ℕ} {entry : DeltaDiscoveryResponse × Batch β}
    (hn : history[n]? = some entry) :
    (history.map Prod.fst).take (n + 1) = (history.map Prod.fst).take n ++ [entry.1] ∧
      (history.map Prod.snd).take (n + 1) = (history.map Prod.snd).take n ++ [entry.2] := by
  refine ⟨?_, ?_⟩ <;> rw [take_add_one, List.getElem?_map, hn] <;> rfl

theorem correct_run (h : ∀ entry ∈ history, Carries codec wire entry.1 entry.2)
    (haddressed : Addressed wire (history.map Prod.snd)) (n : ℕ) :
    Correct (deltaRun codec ((history.map Prod.fst).take n)).cached
      (store ((history.map Prod.snd).take n)) := by
  induction n with
  | zero => exact fun type => by cases type <;> exact Keyed.holds_nil
  | succ n ih =>
    cases hn : history[n]? with
    | none =>
      have hlen := List.getElem?_eq_none_iff.mp hn
      have htake : ∀ {α : Type} (f : DeltaDiscoveryResponse × Batch β → α),
          (history.map f).take (n + 1) = (history.map f).take n := by
        intro α f
        rw [take_of_length_le (by rw [length_map]; omega),
          take_of_length_le (by rw [length_map]; omega)]
      rw [htake, htake]
      exact ih
    | some entry =>
      obtain ⟨hmessages, hbatches⟩ := take_succ_history hn
      have hentry := h entry (mem_of_getElem? hn)
      rw [hmessages, hbatches, cached_deltaRun_append, correct_applyMessage_iff ih hentry]
      refine holds_foldl_edit (ih entry.2.type) (haddressed n entry.2 ?_)
      rw [List.getElem?_map, hn]
      rfl

theorem addressed_of_correct (h : ∀ entry ∈ history, Carries codec wire entry.1 entry.2)
    (hsingle : ∀ entry ∈ history, entry.2.changes.length = 1)
    (hcorrect : ∀ n, Correct (deltaRun codec ((history.map Prod.fst).take n)).cached
      (store ((history.map Prod.snd).take n))) :
    Addressed wire (history.map Prod.snd) := by
  intro n batch hn
  rw [List.getElem?_map] at hn
  obtain ⟨entry, hentry, rfl⟩ := Option.map_eq_some_iff.mp hn
  obtain ⟨hmessages, hbatches⟩ := take_succ_history hentry
  have hmem := mem_of_getElem? hentry
  have hafter := hcorrect (n + 1)
  rw [hmessages, hbatches, cached_deltaRun_append,
    correct_applyMessage_iff (hcorrect n) (h entry hmem)] at hafter
  obtain ⟨change, hchange⟩ := length_eq_one_iff.mp (hsingle entry hmem)
  rw [hchange] at hafter ⊢
  exact ⟨(holds_edit_iff (hcorrect n entry.2.type) change).mp hafter, trivial⟩

end

end

/-- **The cache follows the history exactly as far as the names in the messages pick out the
resources they stand for**, for histories whose messages each make one change. -/
theorem delta_cache_correct {β : Type} (codec : Codec β) (wire : WireNames)
    (history : List (DeltaDiscoveryResponse × Batch β))
    (h : ∀ entry ∈ history, Carries codec wire entry.1 entry.2) :
    (Addressed wire (history.map Prod.snd) →
      ∀ n, Correct (deltaRun codec ((history.map Prod.fst).take n)).cached
        (store ((history.map Prod.snd).take n))) ∧
    ((∀ entry ∈ history, entry.2.changes.length = 1) →
      (∀ n, Correct (deltaRun codec ((history.map Prod.fst).take n)).cached
        (store ((history.map Prod.snd).take n))) →
      Addressed wire (history.map Prod.snd)) :=
  ⟨correct_run h, addressed_of_correct h⟩

/-! ## Two namespaces -/

def namesakes : List UInt8 → Option (ProtoResource ℕ)
  | [0] => some ⟨"a", "r", 0⟩
  | [1] => some ⟨"b", "r", 0⟩
  | [2] => some ⟨"b", "r", 1⟩
  | _ => none

def namesakeCodec : Codec ℕ := fun _ bytes =>
  match namesakes bytes with
  | some value => .ok value
  | none => .error "unknown payload"

def upsertMessage (wire : WireNames) (bytes : List UInt8) (value : ProtoResource ℕ) :
    DeltaDiscoveryResponse × Batch ℕ :=
  ({ typeUrl := "type.googleapis.com/gateway.control.v1.HttpRoute"
     resources := [⟨wire .httpRoute value.key, some bytes⟩] },
    { type := .httpRoute, upserted := [value] })

variable {bytes : List UInt8} {value : ProtoResource ℕ} (wire : WireNames)

theorem carries_upsertMessage (h : namesakes bytes = some value) :
    Carries namesakeCodec wire (upsertMessage wire bytes value).1
      (upsertMessage wire bytes value).2 where
  type := by
    show resourceType "type.googleapis.com/gateway.control.v1.HttpRoute" = some .httpRoute
    decide +kernel
  replaceAll := rfl
  removed := rfl
  upserted := .cons ⟨rfl, bytes, rfl, by rw [namesakeCodec, h]⟩ .nil

def plainNames : WireNames := fun _ key => key.2

theorem delta_cache_correct_one_namespace :
    Correct (deltaRun namesakeCodec (([upsertMessage plainNames [1] ⟨"b", "r", 0⟩,
        upsertMessage plainNames [2] ⟨"b", "r", 1⟩].map Prod.fst).take 2)).cached
      (store (([upsertMessage plainNames [1] ⟨"b", "r", 0⟩,
        upsertMessage plainNames [2] ⟨"b", "r", 1⟩].map Prod.snd).take 2)) := by
  refine (delta_cache_correct namesakeCodec plainNames
    [upsertMessage plainNames [1] ⟨"b", "r", 0⟩, upsertMessage plainNames [2] ⟨"b", "r", 1⟩]
    ?_).1 ?_ 2
  · intro entry hentry
    rcases mem_pair.mp hentry with rfl | rfl
    · exact carries_upsertMessage plainNames rfl
    · exact carries_upsertMessage plainNames rfl
  · rintro (_ | _ | n) batch hbatch
    · obtain rfl := Option.some.inj hbatch
      refine ⟨?_, trivial⟩
      rw [Change.Addressed, if_neg (by decide)]
      intro e he
      cases he
    · obtain rfl := Option.some.inj hbatch
      refine ⟨?_, trivial⟩
      rw [Change.Addressed, if_neg (by decide)]
      intro e he
      -- the only route there is the first version
      have hkey : e.key = ("b", "r") := by
        by_contra hkey
        have hnone : store [(upsertMessage plainNames [1] ⟨"b", "r", 0⟩).2] .httpRoute e.key
            = none := update_of_ne hkey _ _
        cases hnone.symm.trans he
      exact iff_of_true (congrArg Prod.snd hkey) hkey
    · cases hbatch

variable {value' : ProtoResource ℕ} {bytes' : List UInt8}

theorem carries_upsertMessages
    (h : namesakes bytes = some value) (h' : namesakes bytes' = some value') :
    ∀ entry ∈ [upsertMessage wire bytes value, upsertMessage wire bytes' value'],
      Carries namesakeCodec wire entry.1 entry.2 := by
  intro entry hentry
  rcases mem_pair.mp hentry with rfl | rfl
  · exact carries_upsertMessage wire h
  · exact carries_upsertMessage wire h'

theorem slot_upsertMessages
    (h : namesakes bytes = some value) (h' : namesakes bytes' = some value') :
    (deltaRun namesakeCodec ([upsertMessage wire bytes value,
        upsertMessage wire bytes' value'].map Prod.fst)).cached.slot .httpRoute
      = Change.edit (wire .httpRoute)
        (Change.edit (wire .httpRoute) [] (.upsert value)) (.upsert value') := by
  have hone : (deltaRun namesakeCodec [(upsertMessage wire bytes value).1]).cached.slot .httpRoute
      = Change.edit (wire .httpRoute) [] (.upsert value) := by
    rw [← nil_append [_], cached_deltaRun_append, slot_applyMessage (carries_upsertMessage wire h)]
    exact update_self _ _ _
  have happ : ([upsertMessage wire bytes value, upsertMessage wire bytes' value'].map Prod.fst)
      = [(upsertMessage wire bytes value).1] ++ [(upsertMessage wire bytes' value').1] := rfl
  rw [happ, cached_deltaRun_append, slot_applyMessage (carries_upsertMessage wire h'), ← hone]
  exact update_self _ _ _

/-- **No choice of names works.**  If a route of `b` is called by its plain name, it drives
out the route of `a`; if it is not, its next version does not drive out the last one. -/
theorem delta_cache_breaks : (deltaRun namesakeCodec ([upsertMessage plainNames [0] ⟨"a", "r", 0⟩,
        upsertMessage plainNames [1] ⟨"b", "r", 0⟩].map Prod.fst)).cached.httpRoutes
      = [⟨"b", "r", 0⟩] ∧
    store ([upsertMessage plainNames [0] ⟨"a", "r", 0⟩,
        upsertMessage plainNames [1] ⟨"b", "r", 0⟩].map Prod.snd) .httpRoute ("a", "r")
      = some ⟨"a", "r", 0⟩ ∧
    ∀ wire : WireNames, ∃ history : List (DeltaDiscoveryResponse × Batch ℕ),
      (∀ entry ∈ history, Carries namesakeCodec wire entry.1 entry.2) ∧
      ¬ Correct (deltaRun namesakeCodec (history.map Prod.fst)).cached
        (store (history.map Prod.snd)) := by
  refine ⟨by decide +kernel, by decide +kernel, fun wire => ?_⟩
  by_cases hplain : wire .httpRoute ("b", "r") = "r"
  · refine ⟨[upsertMessage wire [0] ⟨"a", "r", 0⟩, upsertMessage wire [1] ⟨"b", "r", 0⟩],
      carries_upsertMessages wire rfl rfl, fun hcorrect => ?_⟩
    have hstore : store [({ type := .httpRoute, upserted := [⟨"a", "r", 0⟩] } : Batch ℕ),
        { type := .httpRoute, upserted := [⟨"b", "r", 0⟩] }] .httpRoute ("a", "r")
        = some ⟨"a", "r", 0⟩ := by decide +kernel
    have hmem := ((hcorrect .httpRoute).mem_iff ⟨"a", "r", 0⟩).mpr hstore
    have hretain : ∀ l : List (ProtoResource ℕ), (⟨"a", "r", 0⟩ : ProtoResource ℕ) ∉
        Change.edit (wire .httpRoute) l (.upsert ⟨"b", "r", 0⟩) := by
      intro l
      have hwire : wire .httpRoute (⟨"b", "r", 0⟩ : ProtoResource ℕ).key = "r" := hplain
      rw [Change.edit, hwire, if_neg (by decide), mem_append, retainOthers, mem_filter]
      simp
    rw [slot_upsertMessages wire rfl rfl] at hmem
    exact hretain _ hmem
  · refine ⟨[upsertMessage wire [1] ⟨"b", "r", 0⟩, upsertMessage wire [2] ⟨"b", "r", 1⟩],
      carries_upsertMessages wire rfl rfl, fun hcorrect => ?_⟩
    have hwire : ∀ body, wire .httpRoute (⟨"b", "r", body⟩ : ProtoResource ℕ).key
        = wire .httpRoute ("b", "r") := fun _ => rfl
    have hslot := slot_upsertMessages wire (rfl : namesakes [1] = some ⟨"b", "r", 0⟩)
      (rfl : namesakes [2] = some ⟨"b", "r", 1⟩)
    by_cases hnil : wire .httpRoute ("b", "r") = ""
    · -- a route without a name in the messages never arrives
      have hstore : store [({ type := .httpRoute, upserted := [⟨"b", "r", 0⟩] } : Batch ℕ),
          { type := .httpRoute, upserted := [⟨"b", "r", 1⟩] }] .httpRoute ("b", "r")
          = some ⟨"b", "r", 1⟩ := by decide +kernel
      have hmem := ((hcorrect .httpRoute).mem_iff ⟨"b", "r", 1⟩).mpr hstore
      rw [hslot, Change.edit, Change.edit, hwire, hwire, if_pos hnil, if_pos hnil] at hmem
      cases hmem
    · have hnodup := (hcorrect .httpRoute).nodup
      have hkept : retainOthers (wire .httpRoute ("b", "r")) [(⟨"b", "r", 0⟩ : ProtoResource ℕ)]
          = [⟨"b", "r", 0⟩] := by
        refine filter_eq_self.mpr fun e he => ?_
        obtain rfl := mem_singleton.mp he
        exact bne_iff_ne.mpr (Ne.symm hplain)
      rw [hslot, Change.edit, Change.edit, hwire, hwire, if_neg hnil, if_neg hnil] at hnodup
      have hfirst : retainOthers (wire .httpRoute ("b", "r")) ([] : List (ProtoResource ℕ)) = [] :=
        rfl
      rw [hfirst, nil_append, hkept] at hnodup
      exact absurd hnodup (by decide)

end NantianGateway.Xds
