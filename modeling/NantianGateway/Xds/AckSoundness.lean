import NantianGateway.Xds.Stream

/-!
# When an ACK is deserved

An ACK for a version tells the control plane that every runtime the snapshot needs has applied it
since the snapshot was stored; to say so the stream is run with a memory (`Traced`).  The stream
looks at registers instead, which outlive the snapshot they were written for.
-/

namespace NantianGateway.Xds

open List Option Function

/-! ## What a snapshot needs -/

def ListenerProtocol.plane : ListenerProtocol → Option RuntimePlane
  | unspecified => none
  | http | http3 | grpc => some .http
  | https | tlsPassthrough | tls => some .tls
  | tcp | udp => some .stream

def ConfigPayload.needs (config : ConfigPayload) (plane : RuntimePlane) : Bool :=
  config.listeners.any fun listener => listener.plane == some plane

/-! ## The stream with a memory -/

/-- The stream, the planes the last response needs, and what each plane has applied since
the stored snapshot was stored. -/
structure Traced where
  stream : StreamState := {}
  answering : RuntimePlane → Bool := fun _ => false
  applied : RuntimePlane → List String := fun _ => []

/-- An ACK is deserved if each plane the response needs has applied the version. -/
def Traced.Deserves (g : Traced) (version : String) : Prop :=
  ∀ plane, g.answering plane = true → version ∈ g.applied plane

instance (g : Traced) (version : String) : Decidable (g.Deserves version) :=
  decidable_of_iff ((g.answering .http = true → version ∈ g.applied .http) ∧
      (g.answering .tls = true → version ∈ g.applied .tls) ∧
      (g.answering .stream = true → version ∈ g.applied .stream))
    ⟨fun h plane => by cases plane <;> simp_all, fun h => ⟨h .http, h .tls, h .stream⟩⟩

def Traced.Stands (g : Traced) : Option DiscoveryResult → Prop
  | some (.ack version _) => g.Deserves version
  | _ => True

instance (g : Traced) : ∀ sent, Decidable (g.Stands sent)
  | some (.ack version _) => inferInstanceAs (Decidable (g.Deserves version))
  | some (.nack _ _ _) => .isTrue trivial
  | none => .isTrue trivial

section

variable (names : ListenerProtocol → String) (supported : List String)

def Traced.remember (g : Traced) (action : StreamAction) (stream : StreamState) : Traced :=
  match action with
  | .receive msg =>
    match msg.snapshot with
    | none => { g with stream := stream }
    | some config =>
      if SwappedIn supported g.stream msg config then
        { stream := stream, answering := config.needs, applied := fun _ => [] }
      else { g with stream := stream, answering := config.needs }
  | .report plane version [] =>
    { g with
      stream := stream
      applied := Function.update g.applied plane (version :: g.applied plane) }
  | _ => { g with stream := stream }

def Traced.step (g : Traced) (action : StreamAction) : Option (Traced × Option DiscoveryResult) :=
  (streamStep names supported g.stream action).map fun out =>
    (g.remember supported action out.1, out.2)

/-- **Every ACK of a run is deserved when it is sent.** -/
def SoundRun : Traced → List StreamAction → Prop
  | _, [] => True
  | g, action :: actions =>
    match g.step names supported action with
    | none => True
    | some (g', sent) => g'.Stands sent ∧ SoundRun g' actions

instance decidableSoundRun : ∀ g actions, Decidable (SoundRun names supported g actions)
  | _, [] => .isTrue trivial
  | g, action :: actions => by
    rw [SoundRun]
    exact
      match g.step names supported action with
      | none => .isTrue trivial
      | some (g', sent) =>
        haveI := decidableSoundRun g' actions
        inferInstanceAs (Decidable (_ ∧ _))

def Fresh (g : Traced) (msg : DiscoveryResponse) : Prop :=
  ∀ config, msg.snapshot = some config → (SwappedIn supported g.stream msg config →
      ∀ plane, config.needs plane = true → (snapshotRuntimeApplyRequirements
          (fromProtoWithoutRuntimeIndexes names config)).needs plane = true ∧
        (g.stream.runtime plane).lastGoodReloadVersion ≠ workingVersion msg config) ∧
    (shouldApplySnapshot g.stream.stored.id (snapshotVersionFromResponse msg.version config)
        = false →
      ∀ plane, config.needs plane = true → g.stream.stored.id ∈ g.applied plane)

def FreshRun : Traced → List StreamAction → Prop
  | _, [] => True
  | g, action :: actions =>
    (∀ msg, action = .receive msg → Fresh names supported g msg) ∧
    match g.step names supported action with
    | none => True
    | some (g', _) => FreshRun g' actions

end

/-! ## Along a run -/

/-- While the stream waits, each plane the response needs is waited for, and has the version
as its last good one only if it has applied it since. -/
def Traced.Inv (g : Traced) : Prop :=
  ∀ waiting, g.stream.waiting = some waiting → ∀ plane, g.answering plane = true →
    waiting.requirements.needs plane = true ∧
      ((g.stream.runtime plane).lastGoodReloadVersion = waiting.version →
        waiting.version ∈ g.applied plane)

section

variable {names : ListenerProtocol → String} {supported : List String} {g g' : Traced}
  {sent : Option DiscoveryResult}

theorem inv_of_idle (hidle : g.stream.waiting = none) : g.Inv := by
  intro waiting hwait
  rw [hidle] at hwait
  cases hwait

theorem inv_receive {msg : DiscoveryResponse} (hidle : g.stream.waiting = none)
    (hfresh : Fresh names supported g msg)
    (h : g.step names supported (.receive msg) = some (g', sent)) :
    g'.Inv ∧ g'.Stands sent := by
  rw [Traced.step, streamStep, hidle, isNone_none, if_pos rfl, map_some,
    Option.some.injEq, Prod.mk.injEq] at h
  obtain ⟨rfl, rfl⟩ := h
  cases hmsg : msg.snapshot with
  | none =>
    have hreceive : receive names supported g.stream msg = (g.stream, none) := by
      rw [receive, hmsg]
    rw [hreceive]
    simp only [Traced.remember, hmsg]
    exact ⟨inv_of_idle hidle, trivial⟩
  | some config =>
    obtain ⟨hstored, hduplicate⟩ := hfresh config hmsg
    by_cases hswap : SwappedIn supported g.stream msg config
    · have hneeds := hstored hswap
      rw [receive_of_swappedIn hmsg hswap]
      simp only [Traced.remember, hmsg, if_pos hswap]
      split
      · next hempty =>
        refine ⟨inv_of_idle hidle, fun plane hplane => ?_⟩
        -- nothing is needed, or the needs were not recognised
        have hneed := (hneeds plane hplane).1
        rw [RuntimeApplyRequirements.eq_empty_iff.mp hempty plane] at hneed
        cases hneed
      · refine ⟨fun waiting hwait plane hplane => ?_, trivial⟩
        obtain rfl := Option.some.inj hwait
        obtain ⟨hneed, hstale⟩ := hneeds plane hplane
        dsimp only
        exact ⟨hneed, fun hgood => absurd hgood hstale⟩
    · simp only [Traced.remember, hmsg, if_neg hswap]
      by_cases happly : shouldApplySnapshot g.stream.stored.id
          (snapshotVersionFromResponse msg.version config) = true
      · have hrefused : ∃ version errorDetail, receive names supported g.stream msg
            = (g.stream, some (.nack version msg.nonce errorDetail)) :=
          receive_of_refused hmsg happly hswap
        obtain ⟨version, errorDetail, hrefused⟩ := hrefused
        rw [hrefused]
        exact ⟨inv_of_idle hidle, trivial⟩
      · rw [Bool.not_eq_true] at happly
        rw [(receive_of_duplicate hmsg happly).1]
        exact ⟨inv_of_idle hidle, hduplicate happly⟩

theorem inv_report (hinv : g.Inv) (plane : RuntimePlane) (version : String)
    (failures : List RuntimeListenerFailure)
    (h : g.step names supported (.report plane version failures) = some (g', sent)) :
    g'.Inv ∧ sent = none := by
  rw [Traced.step, streamStep, map_some, Option.some.injEq, Prod.mk.injEq] at h
  obtain ⟨rfl, rfl⟩ := h
  refine ⟨fun waiting hwait other hother => ?_, rfl⟩
  obtain ⟨hneeds, happlied⟩ := hinv waiting (by cases failures <;> exact hwait) other
    (by cases failures <;> exact hother)
  refine ⟨hneeds, ?_⟩
  by_cases heq : other = plane
  · subst heq
    cases failures with
    | nil =>
      simp only [Traced.remember, update_self, PlaneRegisters.observe]
      rintro rfl
      exact mem_cons_self
    | cons first failures =>
      simp only [Traced.remember, update_self, PlaneRegisters.observe]
      exact happlied
  · cases failures <;> simpa only [Traced.remember, update_of_ne heq] using happlied

theorem inv_poll (hinv : g.Inv) (h : g.step names supported .poll = some (g', sent)) :
    g'.Inv ∧ g'.Stands sent := by
  rw [Traced.step, streamStep] at h
  cases hwait : g.stream.waiting with
  | none => simp [hwait] at h
  | some waiting =>
    rw [hwait, map_some, map_some, Option.some.injEq, Prod.mk.injEq] at h
    obtain ⟨rfl, rfl⟩ := h
    rw [poll]
    split
    · exact ⟨hinv, trivial⟩
    · next hok =>
      refine ⟨inv_of_idle rfl, fun plane hplane => ?_⟩
      obtain ⟨hneeds, happlied⟩ := hinv waiting hwait plane hplane
      exact happlied (applyResult_eq_ok_iff.mp hok plane hneeds)
    · exact ⟨inv_of_idle rfl, trivial⟩

theorem inv_step (hinv : g.Inv) (action : StreamAction)
    (hfresh : ∀ msg, action = .receive msg → Fresh names supported g msg)
    (h : g.step names supported action = some (g', sent)) :
    g'.Inv ∧ g'.Stands sent := by
  cases action with
  | receive msg =>
    refine inv_receive ?_ (hfresh msg rfl) h
    by_contra hwait
    rw [Traced.step, streamStep, if_neg (by rwa [isNone_iff_eq_none])] at h
    cases h
  | report plane version failures =>
    obtain ⟨hinv', rfl⟩ := inv_report hinv plane version failures h
    exact ⟨hinv', trivial⟩
  | poll => exact inv_poll hinv h
  | timeout =>
    rw [Traced.step, streamStep] at h
    cases hwait : g.stream.waiting with
    | none => simp [hwait] at h
    | some waiting =>
      rw [hwait, map_some, map_some, Option.some.injEq, Prod.mk.injEq] at h
      obtain ⟨rfl, rfl⟩ := h
      exact ⟨inv_of_idle rfl, trivial⟩

theorem freshRun_of_quiet (actions : List StreamAction) (g : Traced)
    (h : ∀ action ∈ actions, ∀ msg, action ≠ .receive msg) :
        FreshRun names supported g actions := by
  induction actions generalizing g with
  | nil => trivial
  | cons action actions ih =>
    refine ⟨fun msg haction => absurd haction (h action mem_cons_self msg), ?_⟩
    cases g.step names supported action with
    | none => trivial
    | some out => exact ih out.1 fun action haction => h action (mem_cons_of_mem _ haction)

/-- **Fresh responses are acknowledged only when they deserve it**, whatever the runtimes
report and whenever the stream looks. -/
theorem sound_run (hinv : g.Inv) (actions : List StreamAction)
    (hfresh : FreshRun names supported g actions) : SoundRun names supported g actions := by
  induction actions generalizing g with
  | nil => trivial
  | cons action actions ih =>
    rw [FreshRun] at hfresh
    rw [SoundRun]
    cases hstep : g.step names supported action with
    | none => trivial
    | some out =>
      obtain ⟨g', sent⟩ := out
      rw [hstep] at hfresh
      obtain ⟨hinv', hdeserved⟩ := inv_step hinv action hfresh.1 hstep
      exact ⟨hdeserved, ih hinv' hfresh.2⟩

end

/-! ## One response, all that can follow -/

section

variable {names : ListenerProtocol → String} {supported : List String} {g : Traced}
  {msg : DiscoveryResponse} {config : ConfigPayload}

def successes (version : String) (planes : List RuntimePlane) : List StreamAction :=
  planes.map fun plane => .report plane version []

def Traced.reported (g : Traced) (plane : RuntimePlane) (version : String) : Traced where
  stream :=
    { g.stream with
      runtime := Function.update g.stream.runtime plane { lastGoodReloadVersion := version } }
  answering := g.answering
  applied := Function.update g.applied plane (version :: g.applied plane)

theorem step_success (g : Traced) (plane : RuntimePlane) (version : String) :
    g.step names supported (.report plane version []) = some (g.reported plane version, none) :=
  rfl

theorem not_soundRun_of_successes {version nonce : String}
    {requirements : RuntimeApplyRequirements} {plane : RuntimePlane}
    (hwait : g.stream.waiting = some ⟨version, requirements, nonce⟩)
    (hanswering : g.answering plane = true)
    (happlied : version ∉ g.applied plane) {planes : List RuntimePlane}
    (hplanes : plane ∉ planes)
    (hready : ∀ other, requirements.needs other = true → other ∉ planes →
      (g.stream.runtime other).lastGoodReloadVersion = version) :
    ¬ SoundRun names supported g (successes version planes ++ [.poll]) := by
  induction planes generalizing g with
  | nil =>
    have hok : currentRuntimeApplyResult g.stream.runtime version requirements = some (.ok ()) :=
      applyResult_eq_ok_iff.mpr fun other hother =>
        hready other hother not_mem_nil
    intro hsound
    rw [successes, map_nil, nil_append, SoundRun, Traced.step, streamStep, hwait,
      map_some, map_some, poll, hok] at hsound
    exact happlied (hsound.1 plane hanswering)
  | cons other planes ih =>
    intro hsound
    rw [successes, map_cons, cons_append, SoundRun, step_success] at hsound
    have hne : plane ≠ other := fun h => hplanes (h ▸ mem_cons_self)
    refine ih (g := g.reported other version) hwait hanswering ?_
      (fun h => hplanes (mem_cons_of_mem _ h)) ?_ hsound.2
    · simp only [Traced.reported, update_of_ne hne]
      exact happlied
    · intro third hthird hmem
      simp only [Traced.reported]
      by_cases heq : third = other
      · rw [heq, update_self]
      · rw [update_of_ne heq]
        refine hready third hthird fun h => ?_
        rcases mem_cons.mp h with h | h
        · exact heq h
        · exact hmem h

/-- **Nothing less will do.**  If a response is not fresh, the runtimes can report in such a
way that it is acknowledged without deserving it. -/
theorem exists_unsound (hidle : g.stream.waiting = none) (h : ¬ Fresh names supported g msg) :
    ∃ planes, ¬ SoundRun names supported g
      (.receive msg :: (successes ((msg.snapshot.map (workingVersion msg)).getD "") planes
        ++ [.poll])) := by
  rw [Fresh] at h
  push Not at h
  obtain ⟨config, hmsg, h⟩ := h
  have hstep : g.step names supported (.receive msg)
      = some (g.remember supported (.receive msg) (receive names supported g.stream msg).1,
        (receive names supported g.stream msg).2) := by
    rw [Traced.step, streamStep, hidle, isNone_none, if_pos rfl, map_some]
  rw [hmsg, map_some, getD_some]
  simp only [SoundRun, hstep]
  by_cases hfirst : SwappedIn supported g.stream msg config →
      ∀ plane, config.needs plane = true → (snapshotRuntimeApplyRequirements
          (fromProtoWithoutRuntimeIndexes names config)).needs plane = true ∧
        (g.stream.runtime plane).lastGoodReloadVersion ≠ workingVersion msg config
  · -- a duplicate
    obtain ⟨hduplicate, plane, hplane, happlied⟩ := h hfirst
    have hswap : ¬ SwappedIn supported g.stream msg config := by
      intro hswap
      rw [hswap.1] at hduplicate
      cases hduplicate
    refine ⟨[], fun hsound => happlied ?_⟩
    rw [(receive_of_duplicate hmsg hduplicate).1] at hsound
    simp only [Traced.remember, hmsg, if_neg hswap] at hsound
    exact hsound.1 plane hplane
  · push Not at hfirst
    obtain ⟨hswap, plane, hplane, hstale⟩ := hfirst
    rw [receive_of_swappedIn hmsg hswap]
    simp only [Traced.remember, hmsg, if_pos hswap]
    split
    · refine ⟨[], fun hsound => ?_⟩
      have hnil := hsound.1 plane hplane
      cases hnil
    · -- every other plane applies the version
      refine ⟨[.http, .tls, .stream].filter (· ≠ plane), fun hsound => ?_⟩
      have hunsound : ¬ SoundRun names supported
          ⟨⟨fromProtoWithoutRuntimeIndexes names config, g.stream.runtime,
            some ⟨workingVersion msg config, snapshotRuntimeApplyRequirements
              (fromProtoWithoutRuntimeIndexes names config), msg.nonce⟩⟩, config.needs, fun _ => []⟩
          (successes (workingVersion msg config) ([.http, .tls, .stream].filter (· ≠ plane))
            ++ [.poll]) := ?_
      · exact hunsound hsound.2
      refine not_soundRun_of_successes rfl hplane not_mem_nil (fun hmem => by simp at hmem) ?_
      intro other hother hmem
      have heq : other = plane := by
        by_contra hne
        refine hmem (mem_filter.mpr ⟨?_, by simpa using hne⟩)
        cases other <;> simp
      subst heq
      exact hstale hother

end

/-- **ACKs are deserved as long as responses are fresh**; and a response is fresh exactly when every
ACK that can answer it is deserved. -/
theorem ack_sound (names : ListenerProtocol → String) (supported : List String) (g : Traced)
    (hidle : g.stream.waiting = none) :
    (∀ actions, FreshRun names supported g actions → SoundRun names supported g actions) ∧
    ∀ msg, Fresh names supported g msg ↔
      ∀ planes, SoundRun names supported g
        (.receive msg :: (successes ((msg.snapshot.map (workingVersion msg)).getD "") planes
          ++ [.poll])) := by
  have hinv : g.Inv := by
    intro waiting hwait
    rw [hidle] at hwait
    cases hwait
  refine ⟨fun actions => sound_run hinv actions, fun msg => ⟨fun hfresh planes => ?_, fun h => ?_⟩⟩
  · -- what follows a fresh response holds no other response
    refine sound_run hinv _ ⟨fun msg' hmsg => ?_, ?_⟩
    · obtain rfl := StreamAction.receive.inj hmsg
      exact hfresh
    · cases g.step names supported (.receive msg) with
      | none => trivial
      | some out =>
        refine freshRun_of_quiet _ out.1 fun action haction msg => ?_
        rcases mem_append.mp haction with haction | haction
        · obtain ⟨plane, -, rfl⟩ := List.mem_map.mp haction
          exact StreamAction.noConfusion
        · rw [mem_singleton.mp haction]
          exact StreamAction.noConfusion
  · by_contra hfresh
    obtain ⟨planes, hunsound⟩ := exists_unsound hidle hfresh
    exact hunsound (h planes)

/-! ## Runs -/

def knownNames : ListenerProtocol → String
  | .unspecified => ""
  | .http => "HTTP"
  | .https => "HTTPS"
  | .grpc => "GRPC"
  | .http3 => "HTTP3"
  | .tcp => "TCP"
  | .udp => "UDP"
  | .tlsPassthrough => "TLS_PASSTHROUGH"
  | .tls => "TLS"

def httpResponse (version : String) : DiscoveryResponse :=
  { version := version, snapshot := some { id := version, listeners := [.http] } }

def answers (names : ListenerProtocol → String) (supported : List String) :
    StreamState → List StreamAction → List DiscoveryResult
  | _, [] => []
  | st, action :: actions =>
    match streamStep names supported st action with
    | none => answers names supported st actions
    | some (st', sent) => sent.toList ++ answers names supported st' actions

theorem ack_sound_first_version :
    SoundRun knownNames supportedFeatures {} [.receive (httpResponse "v1"), .report .http "v1" [],
      .poll] ∧
    answers knownNames supportedFeatures {} [.receive (httpResponse "v1"), .report .http "v1" [],
      .poll] = [.ack "v1" ""] := by
  refine ⟨(ack_sound knownNames supportedFeatures {} rfl).1 _ ⟨fun msg hmsg => ?_, ?_⟩,
    by decide +kernel⟩
  · obtain rfl := StreamAction.receive.inj hmsg
    intro config hconfig
    obtain rfl := Option.some.inj hconfig
    refine ⟨fun _ plane hplane => ?_, fun hduplicate => ?_⟩
    · cases plane with
      | http => exact ⟨by decide +kernel, by decide +kernel⟩
      | tls | stream => exact absurd hplane (by decide +kernel)
    · exact absurd hduplicate (by decide +kernel)
  · cases Traced.step knownNames supportedFeatures {} (.receive (httpResponse "v1")) with
    | none => trivial
    | some out => exact freshRun_of_quiet _ out.1 (by simp)

/-- **Undeserved ACKs.** With the names of the generated enumeration the ACK does not wait. With
names the tests know, a version that failed and is sent again is a duplicate, and one that was good
before another failed is still in the register. -/
theorem ack_unsound :
    answers ListenerProtocol.asStrName supportedFeatures {} [.receive (httpResponse "v1")]
      = [.ack "v1" ""] ∧
    answers knownNames supportedFeatures {}
        [.receive (httpResponse "v1"), .report .http "v1" [⟨"web", "bind conflict"⟩], .poll,
          .receive (httpResponse "v1")]
      = [.nack "v1" "" "HTTP runtime apply failed: bind conflict", .ack "v1" ""] ∧
    answers knownNames supportedFeatures {}
        [.receive (httpResponse "v1"), .report .http "v1" [], .poll,
          .receive (httpResponse "v2"), .report .http "v2" [⟨"web", "bind conflict"⟩], .poll,
          .receive (httpResponse "v1"), .poll]
      = [.ack "v1" "", .nack "v2" "" "HTTP runtime apply failed: bind conflict", .ack "v1" ""] ∧
    ¬ SoundRun ListenerProtocol.asStrName supportedFeatures {} [.receive (httpResponse "v1")] ∧
    ¬ SoundRun knownNames supportedFeatures {}
        [.receive (httpResponse "v1"), .report .http "v1" [⟨"web", "bind conflict"⟩], .poll,
          .receive (httpResponse "v1")] ∧
    ¬ SoundRun knownNames supportedFeatures {}
        [.receive (httpResponse "v1"), .report .http "v1" [], .poll,
          .receive (httpResponse "v2"), .report .http "v2" [⟨"web", "bind conflict"⟩], .poll,
          .receive (httpResponse "v1"), .poll] := by
  decide +kernel

end NantianGateway.Xds
