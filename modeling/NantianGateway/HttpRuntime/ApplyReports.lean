import NantianGateway.HttpRuntime.ListenerSet
import NantianGateway.Lib.Machines

/-!
# What the HTTP runtime reports

In every turn the loop of `spawn` makes a plan from the shared snapshot, reconciles its servers with
it, and reports a version with the failures of the starts.  **A turn reads the shared snapshot
twice**, once for the plan and once for the version it reports, so a turn is two events here.

Which ids the two reads of a turn meet is decided by the order of the events alone: `TurnIds` goes
through them and knows nothing of plans and reports.
-/

namespace NantianGateway.HttpRuntime

open SharedTls (TlsListener PlanSnapshot)

/-! ## The loop -/

/-- A plan that has been made and is not yet applied, with what it was made from. -/
structure Planned (M : Type) where
  ctx : PlanContext
  desired : ListenerPlanBuildResult M

structure HttpLoop (S M : Type) where
  shared : S
  runtime : RuntimeOptions := {}
  tasks : BTreeMap (ActiveServer M) := .empty
  threads : ℕ := 0
  forceReload : Bool := true
  planned : Option (Planned M) := none

inductive LoopEvent (S : Type) where
  | publish (snapshot : S)
  /-- A turn begins: changed options are taken over, and a plan is made. -/
  | plan (config : Option RuntimeOptions) (bindChecker : ℕ → String → Option IoError)
      (runtimeState : StreamReports)
  /-- The turn ends: the version is read, the plan is applied, and the result is reported. -/
  | apply (starts : String → Except String Bool)
  | threadEnds (bind : String)

/-- A report, with the turn it is about. -/
structure Report (M : Type) where
  version : String
  result : ListenerReplaceResult
  ctx : PlanContext
  before : BTreeMap (ActiveServer M)
  forceReload : Bool
  starts : String → Except String Bool
  tasks : BTreeMap (ActiveServer M)

section

variable {S M : Type} [DecidableEq M]
  (view : S → PlanSnapshot) (material : PlanSnapshot → TlsListener → Option M)
  (st : HttpLoop S M)

def HttpLoop.plan (config : Option RuntimeOptions)
    (bindChecker : ℕ → String → Option IoError) (runtimeState : StreamReports) : HttpLoop S M :=
  let runtime := config.getD st.runtime
  let ctx : PlanContext :=
    { snapshot := view st.shared
      runtime
      activeBinds := st.tasks.values.map fun server => server.listener.bind
      bindChecker
      runtimeState }
  { st with
    runtime
    forceReload := st.forceReload || config.isSome
    planned := some ⟨ctx, buildListenerPlanForRuntime material ctx⟩ }

def HttpLoop.replaced (planned : Planned M) (starts : String → Except String Bool) : Replacing M :=
  replace planned.ctx.runtime starts st.tasks st.threads planned.desired.plan st.forceReload

def HttpLoop.step : LoopEvent S → HttpLoop S M
  | .publish snapshot => { st with shared := snapshot }
  | .plan config bindChecker runtimeState =>
    match st.planned with
    | some _ => st
    | none => st.plan view material config bindChecker runtimeState
  | .apply starts =>
    match st.planned with
    | none => st
    | some planned =>
      let out := st.replaced planned starts
      { st with
        tasks := out.tasks, threads := out.threads, forceReload := false, planned := none }
  | .threadEnds bind =>
    match st.tasks.get bind with
    | none => st
    | some server => { st with tasks := st.tasks.insert bind { server with finished := true } }

/-- `observe_http_listener_reload_result` is called unless the turn is to be repeated and nothing
has failed. -/
def HttpLoop.report : LoopEvent S → Option (Report M)
  | .apply starts =>
    st.planned.bind fun planned =>
      let out := st.replaced planned starts
      if !planned.desired.retryStart || !out.result.failures.isEmpty then
        some
          { version := (view st.shared).id
            result := out.result
            ctx := planned.ctx
            before := st.tasks
            forceReload := st.forceReload
            starts
            tasks := out.tasks }
      else none
  | _ => none

def loopMachine : Machine (HttpLoop S M) (LoopEvent S) (Report M) where
  step := HttpLoop.step view material
  emit := HttpLoop.report view

end

/-! ## Truthful reports -/

section

variable {M : Type}

def Runs (tasks : BTreeMap (ActiveServer M)) (bind : String) : Prop :=
  (tasks.get bind).any ActiveServer.running = true

def SkippedForFamily (ctx : PlanContext) (position : ℕ) (bind : String) : Prop :=
  (checkBind ctx position bind).any (shouldSuppressUnavailableBindWarning bind) = true

instance (tasks : BTreeMap (ActiveServer M)) (bind : String) : Decidable (Runs tasks bind) :=
  inferInstanceAs (Decidable (_ = true))

instance (ctx : PlanContext) (position : ℕ) (bind : String) :
    Decidable (SkippedForFamily ctx position bind) :=
  inferInstanceAs (Decidable (_ = true))

variable (report : Report M)

/-- **What a report without failures says**: the plan is one of the reported version, and the
addresses of its plain listeners are served, unless their family is not supported. -/
def Report.Truthful : Prop :=
  report.ctx.snapshot.id = report.version ∧
    ∀ listener ∈ report.ctx.snapshot.listeners.zipIdx,
      isPlainHttpProtocol listener.1.protocol = true →
      ∀ bind ∈ listenerBindAddrs listener.1 report.ctx.runtime,
        Runs report.tasks bind ∨ SkippedForFamily report.ctx listener.2 bind

instance (report : Report M) : Decidable report.Truthful :=
  inferInstanceAs (Decidable (_ ∧ _))

/-- The server that an address had before the turn stays there, for a plain listener. -/
def Report.Stays (bind : String) (server : ActiveServer M) : Prop :=
  report.forceReload = false ∧ report.before.get bind = some server ∧ server.finished = false ∧
    server.listener.protocol = .plain

/-- The server that stays listens, or the new one gets its socket. -/
def Report.Listens (bind : String) : Prop :=
  (∃ server, report.Stays bind server ∧ server.listening = true) ∨
    ((¬ ∃ server, report.Stays bind server) ∧ report.starts bind = .ok true)

/-- Every address of a plain listener has passed its probe and has a server that listens, or its
family is not supported. -/
def Report.Served : Prop :=
  ∀ listener ∈ report.ctx.snapshot.listeners.zipIdx,
    isPlainHttpProtocol listener.1.protocol = true →
    ∀ bind ∈ listenerBindAddrs listener.1 report.ctx.runtime,
      (Accepted report.ctx bind ∧ report.Listens bind) ∨
        SkippedForFamily report.ctx listener.2 bind

end

/-! ## The ids a turn meets -/

/-- The id of the snapshot that is shared, and of the one that was shared when the turn that is
going on made its plan. -/
structure TurnIds where
  shared : String
  planned : Option String := none

def TurnIds.step {S : Type} (view : S → PlanSnapshot) (ids : TurnIds) : LoopEvent S → TurnIds
  | .publish snapshot => { ids with shared := (view snapshot).id }
  | .plan .. => { ids with planned := ids.planned.or (some ids.shared) }
  | .apply _ => { ids with planned := none }
  | .threadEnds _ => ids

/-- **No snapshot of another id has been published since the plan of the turn was made**, or at
least the last one that was has the same id again. -/
def SameId {S : Type} (view : S → PlanSnapshot) (snapshot : S) (events : List (LoopEvent S)) :
    Prop :=
  ∀ id ∈ (events.foldl (TurnIds.step view) { shared := (view snapshot).id }).planned,
    (events.foldl (TurnIds.step view) { shared := (view snapshot).id }).shared = id

/-! ## When the reports are truthful -/

section

variable {S M : Type} [DecidableEq M]
  {view : S → PlanSnapshot} {material : PlanSnapshot → TlsListener → Option M}

section

variable (material : PlanSnapshot → TlsListener → Option M)

def Report.replaced (report : Report M) (threads : ℕ) : Replacing M :=
  replace report.ctx.runtime report.starts report.before threads
    (buildListenerPlanForRuntime material report.ctx).plan report.forceReload

/-- The report is about a turn that applied the plan of its context. -/
def Report.Made (report : Report M) : Prop :=
  ∃ threads, report.result = (report.replaced material threads).result ∧
    report.tasks = (report.replaced material threads).tasks

def HttpLoop.PlanMade (st : HttpLoop S M) : Prop :=
  ∀ planned, st.planned = some planned →
    planned.desired = buildListenerPlanForRuntime material planned.ctx

end

theorem planMade_step {st : HttpLoop S M} (h : st.PlanMade material) (event : LoopEvent S) :
    (st.step view material event).PlanMade material := by
  cases event with
  | publish snapshot => exact h
  | plan config bindChecker runtimeState =>
    intro planned hplanned
    rw [HttpLoop.step] at hplanned
    split at hplanned
    · exact h planned hplanned
    · obtain rfl := Option.some.inj hplanned
      rfl
  | apply starts =>
    intro planned hplanned
    rw [HttpLoop.step] at hplanned
    split at hplanned
    · exact h planned hplanned
    · cases hplanned
  | threadEnds bind =>
    intro planned hplanned
    rw [HttpLoop.step] at hplanned
    split at hplanned <;> exact h planned hplanned

variable {report : Report M}

theorem made_of_report {st : HttpLoop S M} (h : st.PlanMade material) {event : LoopEvent S}
    (hreport : st.report view event = some report) : report.Made material := by
  cases event with
  | apply starts =>
    obtain ⟨planned, hplanned, hsome⟩ := Option.bind_eq_some_iff.mp hreport
    simp only at hsome
    split at hsome
    · obtain rfl := Option.some.inj hsome
      refine ⟨st.threads, ?_⟩
      rw [Report.replaced, ← h planned hplanned]
      exact ⟨rfl, rfl⟩
    · cases hsome
  | _ => cases hreport

theorem made_of_mem_log {init : HttpLoop S M} (hinit : init.planned = none)
    (history : List (LoopEvent S)) :
    ∀ report ∈ (loopMachine view material).log init history, report.Made material := by
  have hplan : init.PlanMade material := by
    intro planned h
    rw [hinit] at h
    cases h
  refine (@Machine.invariant _ _ _ (loopMachine view material) init
    (fun st log => st.PlanMade material ∧ ∀ report ∈ log, report.Made material)
    ⟨hplan, fun report h => absurd h List.not_mem_nil⟩ ?_ history).2
  rintro st log event ⟨hplan, hlog⟩
  refine ⟨planMade_step hplan event, fun report hmem => ?_⟩
  rcases List.mem_append.mp hmem with hnew | hold
  · exact made_of_report hplan (Option.mem_toList.mp hnew)
  · exact hlog report hold

theorem running_iff (hmade : report.Made material)
    (hnone : report.result.failures = []) (hdeclared : hasDeclaredL7 report.ctx = true)
    (bind : String) : Runs report.tasks bind ↔ Accepted report.ctx bind ∧ report.Listens bind := by
  obtain ⟨threads, hresult, htasks⟩ := hmade
  rw [hresult] at hnone
  have hsettled := settled_of_no_failures hnone
  rw [Report.replaced] at htasks
  rw [← htasks] at hsettled
  rw [← @planned_iff M material report.ctx hdeclared, ListenerPlanBuildResult.listeners,
    ← isSome_desiredByBind_iff, Runs]
  cases hget : (desiredByBind (buildListenerPlanForRuntime material report.ctx).plan).get bind with
  | none => simp [hsettled.undesired bind hget]
  | some next =>
    obtain ⟨hbind, hmem⟩ := get_desiredByBind hget
    have hplain := (runtime_plan material report.ctx).1 next hmem
    simp only [Option.isSome_some, true_and]
    by_cases hkept : Kept report.before report.forceReload bind next
    · rw [hsettled.kept bind next hget (reconcile_kept_iff.mpr hkept)]
      obtain ⟨hforce, server, hserver, hfinished, hprotocol⟩ := hkept
      have hstays : report.Stays bind server := ⟨hforce, hserver, hfinished, hprotocol.trans hplain⟩
      have honly : ∀ other, report.Stays bind other → other = server := fun other hother =>
        Option.some.inj (hother.2.1.symm.trans hserver)
      rw [hserver, Option.any_some, ActiveServer.running, hfinished, Bool.not_false, Bool.and_true]
      constructor
      · exact fun hlist => .inl ⟨server, hstays, hlist⟩
      · rintro (⟨other, hother, hlist⟩ | ⟨hno, -⟩)
        · rwa [← honly other hother]
        · exact absurd ⟨server, hstays⟩ hno
    · obtain ⟨server, hserver, hstar⟩ := hsettled.started bind next hget
          (mt reconcile_kept_iff.mp hkept)
      have hno : ¬ ∃ other, report.Stays bind other := by
        rintro ⟨other, hforce, hother, hfinished, hprotocol⟩
        exact hkept ⟨hforce, other, hother, hfinished, hprotocol.trans hplain.symm⟩
      have hst := hstar.start_eq
      rw [hbind] at hst
      rw [hserver, Option.any_some, ActiveServer.running, hstar.finished_eq, Bool.not_false,
        Bool.and_true, Report.Listens, hst]
      constructor
      · intro hlist
        exact .inr ⟨hno, by rw [hlist]⟩
      · rintro (⟨other, hother, -⟩ | ⟨-, hlist⟩)
        · exact absurd ⟨other, hother⟩ hno
        · exact Except.ok.inj hlist

theorem binds_iff_served (hmade : report.Made material) (hnone : report.result.failures = []) :
    (∀ listener ∈ report.ctx.snapshot.listeners.zipIdx,
      isPlainHttpProtocol listener.1.protocol = true →
      ∀ bind ∈ listenerBindAddrs listener.1 report.ctx.runtime,
        Runs report.tasks bind ∨ SkippedForFamily report.ctx listener.2 bind) ↔ report.Served := by
  refine forall₂_congr fun listener hlistener => imp_congr_right fun hplain =>
    forall₂_congr fun bind _ => or_congr_left ?_
  refine running_iff hmade hnone ?_ bind
  have hmem : listener.1 ∈ report.ctx.snapshot.listeners := List.fst_mem_of_mem_zipIdx hlistener
  exact List.any_eq_true.mpr ⟨listener.1, hmem, by rw [isL7Protocol, hplain]; rfl⟩

theorem turnIds_eq (view : S → PlanSnapshot) (material : PlanSnapshot → TlsListener → Option M)
    (init : HttpLoop S M) (hinit : init.planned = none) (events : List (LoopEvent S)) :
    events.foldl (TurnIds.step view) { shared := (view init.shared).id }
      = { shared := (view ((loopMachine view material).run init events).shared).id
          planned := ((loopMachine view material).run init events).planned.map
            fun planned => planned.ctx.snapshot.id } := by
  induction events using List.reverseRecOn with
  | nil => rw [List.foldl_nil, Machine.run_nil, hinit]; rfl
  | append_singleton events event ih =>
    rw [List.foldl_append, ih, Machine.run_concat]
    generalize (loopMachine view material).run init events = st
    change TurnIds.step view _ event = TurnIds.mk
      (view (st.step view material event).shared).id
      ((st.step view material event).planned.map fun planned => planned.ctx.snapshot.id)
    cases event with
    | publish snapshot => rfl
    | plan config bindChecker runtimeState =>
      rw [HttpLoop.step]
      cases hplanned : st.planned with
      | none => rfl
      | some planned => simp only [TurnIds.step, hplanned, Option.map_some, Option.some_or]
    | apply starts =>
      rw [HttpLoop.step]
      cases hplanned : st.planned with
      | none => simp only [TurnIds.step, hplanned, Option.map_none]
      | some planned => rfl
    | threadEnds bind =>
      rw [HttpLoop.step]
      cases st.tasks.get bind <;> rfl

/-- The version of a report is the id of its plan exactly if no other id came between. -/
theorem version_eq_iff {snapshot : S} {runtime : RuntimeOptions} {events : List (LoopEvent S)}
    {event : LoopEvent S}
    (hreport : ((loopMachine view material).run { shared := snapshot, runtime } events).report view
      event = some report) :
    report.ctx.snapshot.id = report.version ↔ SameId view snapshot events := by
  rw [SameId, turnIds_eq view material { shared := snapshot, runtime } rfl events]
  generalize (loopMachine view material).run { shared := snapshot, runtime } events
      = st at hreport ⊢
  cases event with
  | apply starts =>
    obtain ⟨planned, hplanned, hsome⟩ := Option.bind_eq_some_iff.mp hreport
    simp only at hsome
    split at hsome
    · obtain rfl := Option.some.inj hsome
      simp [hplanned, eq_comm]
    · cases hsome
  | _ => cases hreport

/-- **When the reports of the runtime are truthful**: no other id is published between the two reads
of a turn that reports, and every address is served. -/
theorem reports_truthful_iff (view : S → PlanSnapshot)
    (material : PlanSnapshot → TlsListener → Option M) (snapshot : S) (runtime : RuntimeOptions)
    (history : List (LoopEvent S)) :
    (∀ report ∈ (loopMachine view material).log { shared := snapshot, runtime } history,
        report.result.failures = [] → report.Truthful) ↔
      ∀ before event after, history = before ++ event :: after → ∀ report,
        ((loopMachine view material).run { shared := snapshot, runtime } before).report view event
            = some report → report.result.failures = [] →
        SameId view snapshot before ∧ report.Served := by
  constructor
  · intro h before event after hhistory report hreport hnone
    have hmem : report ∈ (loopMachine view material).log { shared := snapshot, runtime } history :=
      Machine.mem_log_iff.mpr ⟨before, event, after, hhistory, hreport⟩
    have hmade := made_of_mem_log rfl history report hmem
    obtain ⟨hid, hbinds⟩ := h report hmem hnone
    exact ⟨(version_eq_iff hreport).mp hid, (binds_iff_served hmade hnone).mp hbinds⟩
  · intro h report hmem hnone
    have hmade := made_of_mem_log rfl history report hmem
    obtain ⟨before, event, after, hhistory, hreport⟩ := Machine.mem_log_iff.mp hmem
    obtain ⟨hsame, hserved⟩ := h before event after hhistory report hreport hnone
    exact ⟨(version_eq_iff hreport).mpr hsame, (binds_iff_served hmade hnone).mpr hserved⟩

end

/-! ## Two reports that are not -/

def oneListener (id : String) (port : UInt32) : PlanSnapshot :=
  { id
    listeners := [{ name := "web", port, protocol := "HTTP", address := "127.0.0.1" }] }

def reportsFrom (history : List (LoopEvent PlanSnapshot)) : List (Report Unit) :=
  (loopMachine id fun _ _ => none).log { shared := oneListener "v1" 80 } history

/-- **Two reports without failures that are not truthful.**  A second version is published between
the two reads and reported; and an address in use by another process is left out of the plan. -/
theorem untruthful_reports :
    (∃ report ∈ reportsFrom [.plan none (fun _ _ => none) {}, .publish (oneListener "v2" 81),
        .apply fun _ => .ok true],
      report.result.failures = [] ∧ report.version = "v2" ∧ report.ctx.snapshot.id = "v1" ∧
        ¬ report.Truthful) ∧
    ∃ report ∈ reportsFrom [
        .plan none (fun _ _ => some { rawOsError := some 98, addrInUse := true }) {},
        .apply fun _ => .ok true],
      report.result.failures = [] ∧ report.version = "v1" ∧ report.ctx.snapshot.id = "v1" ∧
        ¬ report.Truthful := by
  have hany : ∀ (reports : List (Report Unit)) (version : String),
      (reports.any fun report => report.result.failures.isEmpty && report.version == version &&
        report.ctx.snapshot.id == "v1" && !decide report.Truthful) = true →
      ∃ report ∈ reports, report.result.failures = [] ∧ report.version = version ∧
        report.ctx.snapshot.id = "v1" ∧ ¬ report.Truthful := by
    intro reports version h
    obtain ⟨report, hmem, hreport⟩ := List.any_eq_true.mp h
    simp only [Bool.and_eq_true, List.isEmpty_iff, beq_iff_eq, Bool.not_eq_true',
      decide_eq_false_iff_not] at hreport
    exact ⟨report, hmem, hreport.1.1.1, hreport.1.1.2, hreport.1.2, hreport.2⟩
  exact ⟨hany _ "v2" (by decide +kernel), hany _ "v1" (by decide +kernel)⟩

end NantianGateway.HttpRuntime
