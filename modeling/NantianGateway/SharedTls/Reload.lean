import NantianGateway.Lib.Reconcile
import NantianGateway.SharedTls.ListenerPlan
import NantianGateway.Xds.Stream

/-!
# Turning a plan into running binds

`SharedTlsBindSet::replace` and the loop of `run`: the TLS runtime stops the binds that are not in
its plan, starts those that are missing, and reports the version with the failures of the starts.
What that is worth to the control plane depends on the plan being asked for at all.
-/

namespace NantianGateway.SharedTls

open Text ListenerPlan List

/-! ## Updates -/

structure BindUpdatePlan where
  start : List PlannedSharedTlsBind := []
  stop : List String := []

/-- One running bind: keep it, restart it or stop it.  The first component holds the desired
binds that no running bind has been compared with. -/
def updateStep (finished : List String) (forceReload : Bool)
    (acc : BTreeMap PlannedSharedTlsBind × BindUpdatePlan)
    (active : String × PlannedSharedTlsBind) : BTreeMap PlannedSharedTlsBind × BindUpdatePlan :=
  let desired := acc.1.get active.1
  let rest := acc.1.erase active.1
  if forceReload && !decide (active.1 ∈ finished) then
    match desired with
    | some next => (rest, ⟨acc.2.start ++ [next], acc.2.stop ++ [active.1]⟩)
    | none => (rest, { acc.2 with stop := acc.2.stop ++ [active.1] })
  else
    match desired with
    | some next =>
      if active.1 ∉ finished ∧ active.2 = next then (rest, acc.2)
      else (rest, ⟨acc.2.start ++ [next], acc.2.stop ++ [active.1]⟩)
    | none => (rest, { acc.2 with stop := acc.2.stop ++ [active.1] })

def listenerUpdates (active : BTreeMap PlannedSharedTlsBind) (desired : Option ListenerPlan)
    (finished : List String) (forceReload : Bool) : BindUpdatePlan :=
  let (rest, updates) := active.entries.foldl (updateStep finished forceReload)
    ((desired.map binds).getD .empty, {})
  { updates with start := updates.start ++ rest.values }

/-- A running bind is left alone: nothing forces a reload, it has not ended by itself, and it is
desired as it is. -/
def leavesAlone (finished : List String) (forceReload : Bool) (address : String)
    (active next : PlannedSharedTlsBind) : Bool :=
  !forceReload && !decide (address ∈ finished) && decide (active = next)

section

variable {finished : List String} {forceReload : Bool}

def ofPlan (acc : BTreeMap PlannedSharedTlsBind × Reconcile.Plan PlannedSharedTlsBind) :
    BTreeMap PlannedSharedTlsBind × BindUpdatePlan :=
  (acc.1, ⟨acc.2.start, acc.2.stop⟩)

theorem updateStep_ofPlan
    (acc : BTreeMap PlannedSharedTlsBind × Reconcile.Plan PlannedSharedTlsBind)
    (active : String × PlannedSharedTlsBind) :
    updateStep finished forceReload (ofPlan acc) active
      = ofPlan (Reconcile.step (leavesAlone finished forceReload) acc active) := by
  rw [updateStep, Reconcile.step, ofPlan, ofPlan]
  cases hget : acc.1.get active.1 with
  | none => simp
  | some next =>
    cases forceReload <;> by_cases hfinished : active.1 ∈ finished <;>
      by_cases heq : active.2 = next <;> simp [leavesAlone, hfinished, heq]

theorem listenerUpdates_eq (active : BTreeMap PlannedSharedTlsBind) (plan : Option ListenerPlan) :
    listenerUpdates active plan finished forceReload
      = ⟨(Reconcile.plan (leavesAlone finished forceReload) active
            ((plan.map binds).getD .empty)).start,
          (Reconcile.plan (leavesAlone finished forceReload) active
            ((plan.map binds).getD .empty)).stop⟩ := by
  have hfold := @foldl_hom _ _ _ ofPlan (Reconcile.step (leavesAlone finished forceReload))
    (updateStep finished forceReload) active.entries
    ((plan.map binds).getD .empty, {}) updateStep_ofPlan
  rw [listenerUpdates, Reconcile.plan]
  exact congrArg (fun out => (⟨out.2.start ++ out.1.values, out.2.stop⟩ : BindUpdatePlan)) hfold

end

/-! ## Replacing the running binds -/

structure BindReplaceResult where
  failures : List Xds.RuntimeListenerFailure := []
  startedListeners : List String := []
  retainedListeners : List String := []

structure Starting where
  tasks : BTreeMap PlannedSharedTlsBind
  failures : List Xds.RuntimeListenerFailure := []
  startedListeners : List String := []

section

variable (spawn : PlannedSharedTlsBind → Except SharedTlsError Unit)

def startStep (acc : Starting) (bind : PlannedSharedTlsBind) : Starting :=
  match spawn bind with
  | .ok () =>
    { acc with
      tasks := acc.tasks.insert bind.bind bind
      startedListeners := acc.startedListeners ++ bindListenerNames bind }
  | .error error =>
    { acc with
      failures := acc.failures ++ (bindListenerNames bind).map fun listener =>
        ⟨listener, error.toText⟩ }

variable (tasks : BTreeMap PlannedSharedTlsBind)

def retainedListeners (restarted started : List String) : List String :=
  ((((tasks.values.filter fun bind => bind.bind ∉ restarted).flatMap bindListenerNames).filter
    fun listener => listener ∉ started).eraseDups).mergeSort fun a b => decide (a ≤ b)

/-- `SharedTlsBindSet::replace`: the result and the binds that run afterwards. -/
def replace (plan : Option ListenerPlan) (finished : List String) (forceReload : Bool) :
    BindReplaceResult × BTreeMap PlannedSharedTlsBind :=
  let updates := listenerUpdates tasks plan finished forceReload
  if updates.start.isEmpty && updates.stop.isEmpty then ({}, tasks)
  else
    let out := updates.start.foldl
        (startStep spawn) ⟨updates.stop.foldl BTreeMap.erase tasks, [], []⟩
    (⟨out.failures, out.startedListeners,
      retainedListeners out.tasks updates.stop out.startedListeners⟩, out.tasks)

def needsReload (desired : Option ListenerPlan)
    (finished : List String) (forceReload : Bool) : Bool :=
  let updates := listenerUpdates tasks desired finished forceReload
  !updates.start.isEmpty || !updates.stop.isEmpty

variable {spawn}

theorem startStep_failures (acc : Starting) {bind : PlannedSharedTlsBind}
    (hnames : bindListenerNames bind ≠ []) (h : (startStep spawn acc bind).failures = []) :
    acc.failures = [] ∧ (startStep spawn acc bind).tasks = acc.tasks.insert bind.bind bind := by
  rw [startStep] at h ⊢
  cases hspawn : spawn bind with
  | ok u =>
    rw [hspawn] at h
    exact ⟨h, rfl⟩
  | error error =>
    rw [hspawn] at h
    exact absurd (append_eq_nil_iff.mp h).2 (by simpa using hnames)

theorem placed_foldl_startStep {start : List PlannedSharedTlsBind}
    (hnames : ∀ bind ∈ start, bindListenerNames bind ≠ []) {acc : Starting}
    (h : (start.foldl (startStep spawn) acc).failures = []) :
    acc.failures = [] ∧ ∀ key, Reconcile.Placed PlannedSharedTlsBind.bind
      (fun next bind => bind = next)
      start key (acc.tasks.get key) ((start.foldl (startStep spawn) acc).tasks.get key) := by
  refine @Reconcile.placed_foldl _ _ _ _ _ _ Starting.tasks (fun acc => acc.failures = []) start
    (fun acc bind hbind hnone => ?_) acc h
  obtain ⟨hacc, htasks⟩ := startStep_failures acc (hnames bind hbind) hnone
  exact ⟨hacc, bind, rfl, htasks⟩

end

/-! ## What runs after a replacement -/

section

variable {spawn : PlannedSharedTlsBind → Except SharedTlsError Unit}
  {tasks : BTreeMap PlannedSharedTlsBind} {plan : Option ListenerPlan} {finished : List String}
  {forceReload : Bool} (hfiled : WellFiled ((plan.map binds).getD .empty))
  (h : (replace spawn tasks plan finished forceReload).1.failures = [])

include hfiled h

theorem settled_replace_of_no_failures :
    Reconcile.Settled (leavesAlone finished forceReload) (fun next bind => bind = next) tasks
      ((plan.map binds).getD .empty) tasks
      (replace spawn tasks plan finished forceReload).2 := by
  refine Reconcile.settled_of_placed (fun key bind hget => (hfiled key bind hget).1)
    (fun _ hnone => hnone) fun key => ?_
  have hnames : ∀ bind ∈ (Reconcile.plan (leavesAlone finished forceReload) tasks
      ((plan.map binds).getD .empty)).start, bindListenerNames bind ≠ [] := by
    intro bind hbind
    obtain ⟨address, hget, -⟩ := Reconcile.mem_start_iff.mp hbind
    exact (hfiled address bind hget).2
  rw [replace, listenerUpdates_eq] at h ⊢
  generalize Reconcile.plan (leavesAlone finished forceReload) tasks
    ((plan.map binds).getD .empty) = updates at hnames h ⊢
  split at h
  next hidle =>
    rw [if_pos hidle]
    simp only [Bool.and_eq_true, List.isEmpty_iff] at hidle
    rw [hidle.1, hidle.2]
    exact .inr ⟨fun _ hmem => absurd hmem not_mem_nil, (if_neg not_mem_nil).symm⟩
  next hbusy =>
    rw [if_neg hbusy]
    have hplaced := (placed_foldl_startStep hnames h).2 key
    rwa [BTreeMap.get_foldl_erase] at hplaced

theorem get_replace_of_no_failures (key : String) :
    (replace spawn tasks plan finished forceReload).2.get key
      = ((plan.map binds).getD .empty).get key := by
  have hsettled := settled_replace_of_no_failures hfiled h
  cases hget : ((plan.map binds).getD .empty).get key with
  | none => exact hsettled.undesired key hget
  | some bind =>
    by_cases hkept : Reconcile.Kept (leavesAlone finished forceReload) tasks key bind
    · rw [hsettled.kept key bind hget hkept]
      obtain ⟨running, hrun, hkeep⟩ := hkept
      rw [leavesAlone, Bool.and_eq_true] at hkeep
      rw [hrun, of_decide_eq_true hkeep.2]
    · obtain ⟨started, hstar, rfl⟩ := hsettled.started key bind hget hkept
      exact hstar

end

/-! ## A turn of the TLS runtime -/

/-- What a turn finds: the binds whose accept loops have ended, whether the configuration has
changed, whether the HTTP service could be made, and which addresses can be bound. -/
structure TurnInput where
  finished : List String := []
  forceReload : Bool := false
  httpApp : Except SharedTlsError Unit := .ok ()
  spawn : PlannedSharedTlsBind → Except SharedTlsError Unit := fun _ => .ok ()

/-- The binds of the TLS runtime and its registers. -/
structure TlsRuntime where
  tasks : BTreeMap PlannedSharedTlsBind := .empty
  registers : Xds.PlaneRegisters := {}

def sharedTlsListenerFailures (snapshot : PlanSnapshot) (message : String) :
    List Xds.RuntimeListenerFailure :=
  (snapshot.listeners.filter fun listener => sharedTlsListenerProtocol listener.protocol).map
    fun listener => ⟨listener.name, message⟩

section

variable (pem : PemReader) (runtime : RuntimeOptions)

/-- One turn of the loop of `run`, on the snapshot it has loaded.  An error ends the runtime. -/
def turn (st : TlsRuntime) (snapshot : PlanSnapshot) (input : TurnInput) :
    Except SharedTlsError TlsRuntime :=
  let tlsRequired := snapshot.listeners.any fun listener =>
    sharedTlsListenerProtocol listener.protocol
  let (desired, failures) : Option ListenerPlan × List Xds.RuntimeListenerFailure :=
    match desiredListenerPlan pem snapshot runtime with
    | .ok plan => (plan, [])
    | .error error => (none, sharedTlsListenerFailures snapshot error.toText)
  if desired.isNone && !failures.isEmpty then
    .ok { st with registers := st.registers.observe snapshot.id failures }
  else if needsReload st.tasks desired input.finished input.forceReload then
    match input.httpApp with
    | .error error => .error error
    | .ok () =>
      let (result, tasks) := replace input.spawn st.tasks desired input.finished input.forceReload
      .ok ⟨tasks, st.registers.observe snapshot.id result.failures⟩
  else if desired.isSome || tlsRequired then
    .ok { st with registers := st.registers.observe snapshot.id [] }
  else .ok st

end

theorem lastGood_observe (registers : Xds.PlaneRegisters) (version : String)
    (failures : List Xds.RuntimeListenerFailure) :
    (registers.observe version failures).lastGoodReloadVersion = registers.lastGoodReloadVersion ∨
      (failures = [] ∧ (registers.observe version failures).lastGoodReloadVersion = version) := by
  cases failures with
  | nil => exact .inr ⟨rfl, rfl⟩
  | cons first rest => exact .inl rfl

section

variable {pem : PemReader} {runtime : RuntimeOptions} {snapshot : PlanSnapshot}

theorem lastGood_turn {st st' : TlsRuntime} {input : TurnInput}
    (h : turn pem runtime st snapshot input = .ok st') :
    st'.registers.lastGoodReloadVersion = st.registers.lastGoodReloadVersion ∨
      st'.registers.lastGoodReloadVersion = snapshot.id := by
  have hobserve : ∀ failures, (st.registers.observe snapshot.id failures).lastGoodReloadVersion
        = st.registers.lastGoodReloadVersion ∨
      (st.registers.observe snapshot.id failures).lastGoodReloadVersion = snapshot.id :=
    fun failures => (lastGood_observe st.registers snapshot.id failures).imp_right And.right
  rw [turn] at h
  generalize (match desiredListenerPlan pem snapshot runtime with
    | .ok plan => (plan, [])
    | .error error => (none, sharedTlsListenerFailures snapshot error.toText)) = wanted at h
  obtain ⟨desired, failures⟩ := wanted
  simp only at h
  split at h
  · obtain rfl := Except.ok.inj h
    exact hobserve _
  · split at h
    · split at h
      · cases h
      · obtain rfl := Except.ok.inj h
        exact hobserve _
    · split at h
      · obtain rfl := Except.ok.inj h
        exact hobserve _
      · obtain rfl := Except.ok.inj h
        exact .inl rfl

variable (pem runtime snapshot) in
structure PlanDue (plan : ListenerPlan) : Prop where
  planned : buildListenerPlan pem snapshot runtime = .ok plan
  binds : plan.binds.entries ≠ []
  shared : ∃ listener ∈ snapshot.listeners, sharedTlsListenerProtocol listener.protocol = true

theorem PlanDue.desiredListenerPlan_eq {plan : ListenerPlan}
    (hdue : PlanDue pem runtime snapshot plan) :
    desiredListenerPlan pem snapshot runtime = .ok (some plan) := by
  have hany : (snapshot.listeners.any fun listener =>
      sharedTlsListenerProtocol listener.protocol) = true := any_eq_true.mpr hdue.shared
  rw [desiredListenerPlan, hany, hdue.planned]
  simp [isEmpty_eq_false_iff.mpr hdue.binds]

theorem plan_runs_of_turn {plan : ListenerPlan} {st st' : TlsRuntime} {input : TurnInput}
    (hdue : PlanDue pem runtime snapshot plan)
    (h : turn pem runtime st snapshot input = .ok st') :
    st'.registers.lastGoodReloadVersion = st.registers.lastGoodReloadVersion ∨
      ∀ key, st'.tasks.get key = plan.binds.get key := by
  have hfiled : WellFiled ((some plan).map binds |>.getD .empty) :=
    wellFiled_of_buildListenerPlan hdue.planned
  rw [turn, hdue.desiredListenerPlan_eq] at h
  simp only [Option.isNone_some, Bool.false_and, Bool.false_eq_true, if_false, Option.isSome_some,
    Bool.true_or, if_true] at h
  split at h
  next hreload =>
    split at h
    · cases h
    · obtain rfl := Except.ok.inj h
      rcases lastGood_observe st.registers snapshot.id
        (replace input.spawn st.tasks (some plan) input.finished input.forceReload).1.failures
        with hsame | ⟨hnone, -⟩
      · exact .inl hsame
      · exact .inr (get_replace_of_no_failures hfiled hnone)
  next hreload =>
    -- nothing to start and nothing to stop: the plan runs already
    obtain rfl := Except.ok.inj h
    refine .inr fun key => ?_
    have hreplace := @get_replace_of_no_failures input.spawn st.tasks (some plan) input.finished
      input.forceReload hfiled
    have hidle : ((listenerUpdates st.tasks (some plan) input.finished
        input.forceReload).start.isEmpty && (listenerUpdates st.tasks (some plan) input.finished
          input.forceReload).stop.isEmpty) = true := by
      simpa [needsReload] using hreload
    rw [replace, if_pos hidle] at hreplace
    exact hreplace rfl key

end

/-! ## Waiting for the TLS runtime -/

/-- The runtimes while the stream waits for them: the TLS runtime with its binds, and the
registers of every plane.  The TLS runtime may have ended. -/
structure Planes where
  tasks : BTreeMap PlannedSharedTlsBind := .empty
  registers : Xds.RuntimePlane → Xds.PlaneRegisters := fun _ => {}
  ended : Bool := false

/-- What happens meanwhile: the TLS runtime makes a turn, on the snapshot it has loaded, or
another runtime reports. -/
inductive PlaneEvent where
  | turn (loaded : PlanSnapshot) (input : TurnInput)
  | reportHttp (version : String) (failures : List Xds.RuntimeListenerFailure)
  | reportStream (version : String) (failures : List Xds.RuntimeListenerFailure)

def Planes.report (st : Planes) (plane : Xds.RuntimePlane) (version : String)
    (failures : List Xds.RuntimeListenerFailure) : Planes :=
  { st with
    registers := Function.update st.registers plane
      ((st.registers plane).observe version failures) }

section

variable (pem : PemReader) (runtime : RuntimeOptions)

def Planes.step (st : Planes) : PlaneEvent → Planes
  | .turn loaded input =>
    if st.ended then st
    else
      match turn pem runtime ⟨st.tasks, st.registers .tls⟩ loaded input with
      | .ok next =>
        { st with
          tasks := next.tasks
          registers := Function.update st.registers .tls next.registers }
      | .error _ =>
        -- the accept loops end with the runtime that started them
        { st with tasks := .empty, ended := true }
  | .reportHttp version failures => st.report .http version failures
  | .reportStream version failures => st.report .stream version failures

def Planes.run (st : Planes) (events : List PlaneEvent) : Planes :=
  events.foldl (Planes.step pem runtime) st

end

def PlanSnapshot.stored (snapshot : PlanSnapshot) : Xds.StoredSnapshot :=
  ⟨snapshot.id, snapshot.listeners.map fun listener => listener.protocol⟩

def ListenerPlan.Runs (plan : ListenerPlan) (tasks : BTreeMap PlannedSharedTlsBind) : Prop :=
  ∀ key bind, plan.binds.get key = some bind → tasks.get key = some bind

/-- **An acknowledgement waits for the plan**: if the stream acknowledges the version, there was a
moment at which all binds of the plan were running. -/
def AwaitsPlan (pem : PemReader) (runtime : RuntimeOptions) (snapshot : PlanSnapshot)
    (version : String) (plan : ListenerPlan) (st : Planes) : Prop :=
  ∀ (events : List PlaneEvent) (nonce : String),
    (∀ loaded input, PlaneEvent.turn loaded input ∈ events →
      loaded = snapshot ∨ loaded.id ≠ version) →
    (Xds.poll { stored := snapshot.stored, runtime := (st.run pem runtime events).registers }
      ⟨version, Xds.snapshotRuntimeApplyRequirements snapshot.stored, nonce⟩).2
        = some (.ack version nonce) →
    ∃ before, before <+: events ∧ plan.Runs (st.run pem runtime before).tasks

theorem poll_eq_ack_iff {stream : Xds.StreamState} {waiting : Xds.Waiting} :
    (Xds.poll stream waiting).2 = some (.ack waiting.version waiting.nonce) ↔
      ∀ plane, waiting.requirements.needs plane = true →
        (stream.runtime plane).lastGoodReloadVersion = waiting.version := by
  rw [← Xds.applyResult_eq_ok_iff, Xds.poll]
  split <;> simp_all

theorem needs_tls_iff {snapshot : PlanSnapshot} :
    (Xds.snapshotRuntimeApplyRequirements snapshot.stored).tls = true ↔
      ∃ listener ∈ snapshot.listeners, sharedTlsListenerProtocol listener.protocol = true := by
  -- the two tests list the same names
  simp only [Xds.snapshotRuntimeApplyRequirements, PlanSnapshot.stored, any_map, any_eq_true]
  rfl

section

variable {pem : PemReader} {runtime : RuntimeOptions} {snapshot : PlanSnapshot}
  {version : String} {plan : ListenerPlan} {st : Planes}

theorem plan_runs_of_step {event : PlaneEvent}
    (hdue : PlanDue pem runtime snapshot plan)
    (hloaded : ∀ loaded input, event = .turn loaded input → loaded = snapshot ∨ loaded.id ≠ version)
    (hold : (st.registers .tls).lastGoodReloadVersion ≠ version)
    (hnew : ((st.step pem runtime event).registers .tls).lastGoodReloadVersion = version) :
    plan.Runs (st.step pem runtime event).tasks := by
  cases event with
  | reportHttp reported failures =>
    exact absurd hnew (by simpa [Planes.step, Planes.report] using hold)
  | reportStream reported failures =>
    exact absurd hnew (by simpa [Planes.step, Planes.report] using hold)
  | turn loaded input =>
    rw [Planes.step] at hnew ⊢
    split at hnew
    · exact absurd hnew hold
    · next hended =>
      rw [if_neg hended]
      cases hturn : turn pem runtime ⟨st.tasks, st.registers .tls⟩ loaded input with
      | error error =>
        rw [hturn] at hnew
        exact absurd hnew hold
      | ok next =>
        rw [hturn] at hnew
        simp only [Function.update_self] at hnew ⊢
        rcases hloaded loaded input rfl with rfl | hid
        · rcases plan_runs_of_turn hdue hturn with hsame | hruns
          · exact absurd (hsame.symm.trans hnew) hold
          · intro key bind hget
            rw [hruns, hget]
        · rcases lastGood_turn hturn with hsame | hother
          · exact absurd (hsame.symm.trans hnew) hold
          · exact absurd (hother.symm.trans hnew) hid

theorem tasks_run_of_no_turn {events : List PlaneEvent}
    (h : ∀ loaded input, PlaneEvent.turn loaded input ∉ events) :
    (st.run pem runtime events).tasks = st.tasks := by
  induction events using List.reverseRecOn with
  | nil => rfl
  | append_singleton events event ih =>
    rw [Planes.run, foldl_append]
    have hbefore : (st.run pem runtime events).tasks = st.tasks :=
      ih fun loaded input hmem => h loaded input (mem_append_left _ hmem)
    cases event with
    | turn loaded input =>
      exact absurd (mem_append_right _ (mem_singleton_self _)) (h loaded input)
    | _ => exact hbefore

theorem plan_runs_of_run
    (hdue : PlanDue pem runtime snapshot plan)
    (hst : (st.registers .tls).lastGoodReloadVersion ≠ version ∨ plan.Runs st.tasks)
    {events : List PlaneEvent}
    (hloaded : ∀ loaded input, PlaneEvent.turn loaded input ∈ events →
      loaded = snapshot ∨ loaded.id ≠ version)
    (hlast : ((st.run pem runtime events).registers .tls).lastGoodReloadVersion = version) :
    ∃ before, before <+: events ∧ plan.Runs (st.run pem runtime before).tasks := by
  induction events using List.reverseRecOn with
  | nil => exact ⟨[], prefix_rfl, hst.resolve_left fun hne => hne hlast⟩
  | append_singleton events event ih =>
    by_cases hearlier : ((st.run pem runtime events).registers .tls).lastGoodReloadVersion = version
    · obtain ⟨before, hbefore, hruns⟩ := ih (fun loaded input hmem =>
        hloaded loaded input (mem_append_left _ hmem)) hearlier
      exact ⟨before, hbefore.trans (prefix_append _ _), hruns⟩
    · have hstep : st.run pem runtime (events ++ [event])
          = (st.run pem runtime events).step pem runtime event := by
        rw [Planes.run, foldl_append]
        rfl
      refine ⟨events ++ [event], prefix_rfl, ?_⟩
      rw [hstep] at hlast ⊢
      refine plan_runs_of_step hdue (fun loaded input h => ?_) hearlier hlast
      exact hloaded loaded input (h ▸ mem_append_right _ (mem_singleton_self _))

end

/-! ## The result -/

/-- **A plan with a bind is desired and awaited exactly if some listener's protocol is one of those
that both tests know**, and the version is not the last good one already, unless the plan runs. -/
theorem plannedBinds_awaited_iff (pem : PemReader) (snapshot : PlanSnapshot)
    (runtime : RuntimeOptions) (plan : ListenerPlan) (version : String) (st : Planes)
    (hplan : buildListenerPlan pem snapshot runtime = .ok plan)
    (hbinds : plan.binds.entries ≠ []) :
    (desiredListenerPlan pem snapshot runtime = .ok (some plan) ∧
      (Xds.snapshotRuntimeApplyRequirements snapshot.stored).tls = true ∧
      AwaitsPlan pem runtime snapshot version plan st) ↔
    (∃ listener ∈ snapshot.listeners, sharedTlsListenerProtocol listener.protocol = true) ∧
      ((st.registers .tls).lastGoodReloadVersion ≠ version ∨ plan.Runs st.tasks) := by
  constructor
  · rintro ⟨-, hneeds, hawaits⟩
    refine ⟨needs_tls_iff.mp hneeds, or_iff_not_imp_left.mpr fun hsame => ?_⟩
    rw [not_not] at hsame
    -- the other runtimes report, and the stream acknowledges before the TLS runtime moves
    obtain ⟨before, hbefore, hruns⟩ :=
      hawaits [.reportHttp version [], .reportStream version []] "" (by simp)
        (poll_eq_ack_iff.mpr fun plane _ => by
          cases plane <;>
            simp [Planes.run, Planes.step, Planes.report, Xds.PlaneRegisters.observe, hsame])
    rwa [tasks_run_of_no_turn fun loaded input hmem => by simpa using hbefore.subset hmem] at hruns
  · rintro ⟨hshared, hst⟩
    have hdue : PlanDue pem runtime snapshot plan := ⟨hplan, hbinds, hshared⟩
    refine ⟨hdue.desiredListenerPlan_eq, needs_tls_iff.mpr hshared, ?_⟩
    intro events nonce hloaded hack
    exact plan_runs_of_run hdue hst hloaded
      (poll_eq_ack_iff.mp hack .tls (needs_tls_iff.mpr hshared))

def plainPem : PemReader where
  stackFromPem _ := .ok [{ commonName := some "example.org" }]
  privateKeyFromPem _ := .ok ()

def oneTlsListener (protocol : String) : PlanSnapshot where
  id := "v1"
  listeners :=
    [{ name := "gw/tls", protocol := protocol, port := 443,
       tls := some { enabled := true, secretRefs := ["gw/cert"] } }]
  secrets := [{ «namespace» := "gw", name := "cert", certPem := "cert", keyPem := "key" }]

def planned (protocol : String) : ListenerPlan :=
  (buildListenerPlan plainPem (oneTlsListener protocol) {}).toOption.getD {}

theorem plannedBinds_awaited_https :
    buildListenerPlan plainPem (oneTlsListener "HTTPS") {} = .ok (planned "HTTPS") ∧
    (planned "HTTPS").binds.entries ≠ [] ∧
    desiredListenerPlan plainPem (oneTlsListener "HTTPS") {} = .ok (some (planned "HTTPS")) ∧
    (Xds.snapshotRuntimeApplyRequirements (oneTlsListener "HTTPS").stored).tls = true ∧
    AwaitsPlan plainPem {} (oneTlsListener "HTTPS") "v1" (planned "HTTPS") {} := by
  have hplan : buildListenerPlan plainPem (oneTlsListener "HTTPS") {} = .ok (planned "HTTPS") := by
    decide +kernel
  have hbinds : (planned "HTTPS").binds.entries ≠ [] := by decide +kernel
  exact ⟨hplan, hbinds, (plannedBinds_awaited_iff plainPem (oneTlsListener "HTTPS") {}
    (planned "HTTPS") "v1" {} hplan hbinds).mpr ⟨by decide +kernel, .inl (by decide +kernel)⟩⟩

/-- A mixed listener is planned, and its plan is not desired: the TLS runtime is not needed, and the
stream acknowledges before any turn. -/
theorem plannedBinds_unawaited_mixed :
    buildListenerPlan plainPem (oneTlsListener "LISTENER_PROTOCOL_TLS") {}
        = .ok (planned "LISTENER_PROTOCOL_TLS") ∧
    (planned "LISTENER_PROTOCOL_TLS").binds.entries.map Prod.fst = ["0.0.0.0:443"] ∧
    desiredListenerPlan plainPem (oneTlsListener "LISTENER_PROTOCOL_TLS") {} = .ok none ∧
    (Xds.snapshotRuntimeApplyRequirements (oneTlsListener "LISTENER_PROTOCOL_TLS").stored).tls
        = false ∧
    ¬ AwaitsPlan plainPem {} (oneTlsListener "LISTENER_PROTOCOL_TLS") "v1"
        (planned "LISTENER_PROTOCOL_TLS") {} := by
  refine ⟨by decide +kernel, by decide +kernel, by decide +kernel, by decide +kernel, ?_⟩
  intro hawaits
  obtain ⟨before, hbefore, hruns⟩ :=
    hawaits [] "" (by simp) (poll_eq_ack_iff.mpr fun plane hneeds =>
    absurd hneeds (by cases plane <;> decide +kernel))
  obtain rfl := prefix_nil.mp hbefore
  have hbind : ∃ bind, (planned "LISTENER_PROTOCOL_TLS").binds.get "0.0.0.0:443" = some bind := by
    rw [← Option.isSome_iff_exists]
    decide +kernel
  obtain ⟨bind, hget⟩ := hbind
  cases hruns "0.0.0.0:443" bind hget

end NantianGateway.SharedTls
