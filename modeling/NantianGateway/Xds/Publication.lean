import NantianGateway.Xds.Delta

/-!
# Failed payloads and unpublished changes

An upsert drops the resource of the name before it decodes the new one, so a failed upsert is a
removal.  An update of two types is two messages of one version, and the second one is cached and
not handed on.
-/

namespace NantianGateway.Xds

variable {β : Type}

/-! ## Failed payloads -/

section

variable {codec : Codec β} {cached : ConfigSnapshot β} {typeUrl name : String}
  {resource : Resource}

theorem upsertResource_error_iff :
    (∃ error, (upsertResource codec cached typeUrl name resource).1 = .error error) ↔
      ∃ bytes type error, resource.resource = some bytes ∧ resourceType typeUrl = some type ∧
        codec type bytes = .error error := by
  rw [upsertResource]
  cases hbytes : resource.resource with
  | none => simp
  | some bytes =>
    cases htype : resourceType typeUrl with
    | none => simp
    | some type =>
      cases hdecode : codec type bytes with
      | error error => simp [hdecode]
      | ok value => simp [hdecode]

theorem upsertResource_of_error {bytes : List UInt8} {type : ResourceType} {error : String}
    (hbytes : resource.resource = some bytes) (htype : resourceType typeUrl = some type)
    (hdecode : codec type bytes = .error error) :
    (upsertResource codec cached typeUrl name resource).2
      = cached.modify type (retainOthers name) := by
  simp only [upsertResource, hbytes, htype, hdecode]

theorem ConfigSnapshot.slot_injective :
    Function.Injective (ConfigSnapshot.slot : ConfigSnapshot β → _) := by
  intro a b h
  have hslot := congrFun h
  cases a
  cases b
  rw [ConfigSnapshot.mk.injEq]
  exact ⟨hslot .listener, hslot .httpRoute, hslot .grpcRoute, hslot .streamRoute,
    hslot .backendCluster, hslot .secretMaterial⟩

theorem ConfigSnapshot.modify_eq_self_iff (cached : ConfigSnapshot β) (type : ResourceType)
    (f : List (ProtoResource β) → List (ProtoResource β)) :
    cached.modify type f = cached ↔ f (cached.slot type) = cached.slot type := by
  rw [← ConfigSnapshot.slot_injective.eq_iff, ConfigSnapshot.slot_modify,
    Function.update_eq_self_iff]

theorem retainOthers_eq_self_iff {l : List (ProtoResource β)} :
    retainOthers name l = l ↔ ∀ entry ∈ l, entry.name ≠ name := by
  rw [retainOthers, List.filter_eq_self]
  exact forall₂_congr fun entry _ => bne_iff_ne

end

/-- **An upsert is atomic exactly when the payload decodes or the cache has no resource of
that type and name.** -/
theorem upsert_atomic_iff (codec : Codec β) (cached : ConfigSnapshot β) (typeUrl name : String)
    (resource : Resource) :
    ((∃ error, (upsertResource codec cached typeUrl name resource).1 = .error error) →
        (upsertResource codec cached typeUrl name resource).2 = cached) ↔
      ∀ bytes type error, resource.resource = some bytes → resourceType typeUrl = some type →
        codec type bytes = .error error → ∀ entry ∈ cached.slot type, entry.name ≠ name := by
  rw [upsertResource_error_iff]
  constructor
  · intro hatomic bytes type error hbytes htype hdecode
    have hcached := hatomic ⟨bytes, type, error, hbytes, htype, hdecode⟩
    rw [upsertResource_of_error hbytes htype hdecode] at hcached
    exact retainOthers_eq_self_iff.mp ((cached.modify_eq_self_iff type _).mp hcached)
  · rintro hfree ⟨bytes, type, error, hbytes, htype, hdecode⟩
    rw [upsertResource_of_error hbytes htype hdecode, cached.modify_eq_self_iff,
      retainOthers_eq_self_iff]
    exact hfree bytes type error hbytes htype hdecode

/-- **A route is lost to a payload that does not decode.** -/
theorem failed_upsert_drops_route : upsertResource namesakeCodec { httpRoutes := [⟨"a", "r", 0⟩] }
        "type.googleapis.com/gateway.control.v1.HttpRoute" "r" ⟨"r", some [7]⟩
      = (.error "decode HttpRoute: unknown payload", {}) := by
  have htype : resourceType "type.googleapis.com/gateway.control.v1.HttpRoute"
      = some .httpRoute := by decide +kernel
  simp only [upsertResource, htype]
  rfl

/-! ## Publication -/

def ConfigSnapshot.SameResources (a b : ConfigSnapshot β) : Prop :=
  ∀ type, (a.slot type).Perm (b.slot type)

structure DeltaTrace (β : Type) where
  state : DeltaState β := {}
  published : Option (ConfigSnapshot β) := none

def DeltaTrace.Initialised (trace : DeltaTrace β) : Prop :=
  subscriptions.length ≤ trace.state.seenTypes.length

/-- **The last snapshot that was handed on holds every change so far.** -/
def DeltaTrace.UpToDate (trace : DeltaTrace β) : Prop :=
  ∃ snapshot, trace.published = some snapshot ∧ snapshot.SameResources trace.state.cached

section

variable (codec : Codec β)

def DeltaTrace.step (trace : DeltaTrace β) (msg : DeltaDiscoveryResponse) : DeltaTrace β :=
  let out := deltaStep codec trace.state msg
  ⟨out.1, (out.2.map Prod.fst).or trace.published⟩

def deltaTrace (messages : List DeltaDiscoveryResponse) : DeltaTrace β :=
  messages.foldl (DeltaTrace.step codec) {}

end

section

variable {codec : Codec β} {trace : DeltaTrace β} {msg : DeltaDiscoveryResponse}
  {messages : List DeltaDiscoveryResponse}

theorem deltaTrace_take_succ {n : ℕ} (hn : messages[n]? = some msg) :
    deltaTrace codec (messages.take (n + 1))
        = (deltaTrace codec (messages.take n)).step codec msg := by
  rw [List.take_add_one, hn, deltaTrace, List.foldl_append]
  rfl

theorem cached_step :
    (trace.step codec msg).state.cached = applyMessage codec trace.state.cached msg :=
  cached_deltaStep codec trace.state msg

theorem seenTypes_step :
    (trace.step codec msg).state.seenTypes = noteType trace.state.seenTypes msg.typeUrl := by
  rw [DeltaTrace.step, deltaStep]
  split <;> rfl

theorem DeltaTrace.Initialised.step (h : trace.Initialised) :
    (trace.step codec msg).Initialised := by
  rw [DeltaTrace.Initialised, seenTypes_step, noteType]
  split
  · rw [List.length_append]
    exact h.trans (Nat.le_add_right _ _)
  · exact h

theorem published_of_new_version (h : (trace.step codec msg).Initialised)
    (hversion : msg.systemVersionInfo ≠ trace.state.version) :
    (trace.step codec msg).published = some (applyMessage codec trace.state.cached msg) := by
  rw [DeltaTrace.Initialised, seenTypes_step] at h
  rw [DeltaTrace.step, deltaStep, if_pos ⟨h, hversion⟩]
  rfl

theorem published_of_same_version (hversion : msg.systemVersionInfo = trace.state.version) :
    (trace.step codec msg).published = trace.published := by
  rw [DeltaTrace.step, deltaStep, if_neg fun h => h.2 hversion]
  rfl

theorem initialised_of_published (h : (deltaTrace codec messages).published ≠ none) :
    (deltaTrace codec messages).Initialised := by
  induction messages using List.reverseRecOn with
  | nil => exact absurd rfl h
  | append_singleton messages msg ih =>
    have hstep : deltaTrace codec (messages ++ [msg])
        = (deltaTrace codec messages).step codec msg := by
      rw [deltaTrace, List.foldl_append]
      rfl
    rw [hstep] at h ⊢
    by_contra hnot
    have hcond : ¬(subscriptions.length ≤
        (noteType (deltaTrace codec messages).state.seenTypes msg.typeUrl).length ∧
        msg.systemVersionInfo ≠ (deltaTrace codec messages).state.version) := by
      rw [← @seenTypes_step β codec]
      exact fun hboth => hnot hboth.1
    rw [DeltaTrace.step, deltaStep, if_neg hcond] at h
    exact hnot (ih h).step

theorem upToDate_step_iff (hbefore : trace.Initialised → trace.UpToDate)
    (hpublished : trace.published ≠ none → trace.Initialised)
    (h : (trace.step codec msg).Initialised) :
    (trace.step codec msg).UpToDate ↔ msg.systemVersionInfo ≠ trace.state.version ∨
      trace.Initialised ∧
        (applyMessage codec trace.state.cached msg).SameResources trace.state.cached := by
  rw [DeltaTrace.UpToDate, cached_step]
  by_cases hversion : msg.systemVersionInfo = trace.state.version
  · rw [published_of_same_version hversion, or_iff_right (not_not_intro hversion)]
    constructor
    · rintro ⟨snapshot, hsnapshot, hsame⟩
      have hinit := hpublished (hsnapshot ▸ Option.some_ne_none snapshot)
      obtain ⟨snapshot', hsnapshot', hsame'⟩ := hbefore hinit
      obtain rfl := Option.some.inj (hsnapshot.symm.trans hsnapshot')
      exact ⟨hinit, fun type => (hsame type).symm.trans (hsame' type)⟩
    · rintro ⟨hinit, hunchanged⟩
      obtain ⟨snapshot, hsnapshot, hsame⟩ := hbefore hinit
      exact ⟨snapshot, hsnapshot, fun type => (hsame type).trans (hunchanged type).symm⟩
  · refine iff_of_true ⟨_, published_of_new_version h hversion, fun type => .refl _⟩ (.inl hversion)

end

/-- **The data plane is told of every change exactly when each message of an initialised stream
brings a version other than the last one handed on, or changes no resource.** -/
theorem delta_published_iff (codec : Codec β) (messages : List DeltaDiscoveryResponse) :
    (∀ n, (deltaTrace codec (messages.take n)).Initialised →
        (deltaTrace codec (messages.take n)).UpToDate) ↔
      ∀ n msg, messages[n]? = some msg → (deltaTrace codec (messages.take (n + 1))).Initialised →
        msg.systemVersionInfo ≠ (deltaTrace codec (messages.take n)).state.version ∨
        (deltaTrace codec (messages.take n)).Initialised ∧
          (deltaTrace codec (messages.take (n + 1))).state.cached.SameResources
            (deltaTrace codec (messages.take n)).state.cached := by
  constructor
  · intro hall n msg hn hinit
    have hafter := hall (n + 1) hinit
    rw [deltaTrace_take_succ hn] at hinit hafter ⊢
    rw [cached_step]
    exact (upToDate_step_iff (hall n) initialised_of_published hinit).mp hafter
  · intro hcond n
    induction n with
    | zero => exact fun hinit => absurd hinit (Nat.not_succ_le_zero 5)
    | succ n ih =>
      intro hinit
      cases hn : messages[n]? with
      | none =>
        have hlen := List.getElem?_eq_none_iff.mp hn
        rw [List.take_of_length_le (hlen.trans (Nat.le_succ n))] at hinit ⊢
        rw [List.take_of_length_le hlen] at ih
        exact ih hinit
      | some msg =>
        have hmsg := hcond n msg hn hinit
        rw [deltaTrace_take_succ hn] at hinit hmsg ⊢
        rw [cached_step] at hmsg
        exact (upToDate_step_iff ih initialised_of_published hinit).mpr hmsg

def openingMessages : List DeltaDiscoveryResponse :=
  subscriptions.map fun typeUrl => { typeUrl, systemVersionInfo := "1" }

def twoTypeUpdate : List DeltaDiscoveryResponse :=
  [{ typeUrl := "type.googleapis.com/gateway.control.v1.HttpRoute"
     systemVersionInfo := "2"
     resources := [⟨"r", some [0]⟩] },
   { typeUrl := "type.googleapis.com/gateway.control.v1.BackendCluster"
     systemVersionInfo := "2"
     resources := [⟨"r", some [1]⟩] }]

/-- **The second message of an update is not handed on.**  The data plane has the new route
and not its backends, until some later version arrives. -/
theorem second_type_unpublished :
    (deltaTrace namesakeCodec (openingMessages ++ twoTypeUpdate)).state.cached.backends
      = [⟨"b", "r", 0⟩] ∧
    (deltaTrace namesakeCodec (openingMessages ++ twoTypeUpdate)).published.map
        (fun snapshot => (snapshot.httpRoutes, snapshot.backends))
      = some ([⟨"a", "r", 0⟩], []) := by
  decide +kernel

end NantianGateway.Xds
