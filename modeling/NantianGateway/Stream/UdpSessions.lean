import NantianGateway.Lib.Tasks

/-!
# The sessions of one UDP key

The dispatcher gives all datagrams of a key to one worker, which looks the key up in the registry,
inserts a session if there is none, and offers the datagram to the session's queue.  The session
ends by itself, and takes its entry out.  A step is one section of the registry, one operation on a
channel or socket, or one update of the counters.
-/

namespace NantianGateway.Stream

open List Tasks

variable {δ : Type}

inductive UdpEnd where
  | idle
  | failed
  | closed
  deriving DecidableEq

inductive UdpPhase where
  | created
  | waiting (active : Bool)
  | sending
  | leaving (reason : UdpEnd)
  | removed (reason : UdpEnd)
  | over (reason : UdpEnd)
  deriving DecidableEq

def UdpPhase.isOver : UdpPhase → Bool
  | .over _ => true
  | _ => false

structure UdpSession (δ : Type) where
  phase : UdpPhase := .created
  queue : List δ := []
  current : Option δ := none
  sent : List δ := []

def UdpSession.enter (phase : UdpPhase) (session : UdpSession δ) : UdpSession δ :=
  { session with phase }

def UdpSession.enqueue (datagram : δ) (session : UdpSession δ) : UdpSession δ :=
  { session with queue := session.queue ++ [datagram] }

inductive UdpEvent where
  | recv
  | send (ok : Bool)
  | timeout
  | error

/-- One turn of the loop of `run_udp_session`. The queue ends when it is empty and no sender is
left. -/
def UdpSession.loop (unreferenced : Bool) (event : UdpEvent) (session : UdpSession δ) :
    UdpSession δ :=
  match session.phase, event with
  | .waiting _, .recv =>
    match session.queue with
    | datagram :: queue => { session with phase := .sending, queue, current := some datagram }
    | [] => if unreferenced then { session with phase := .leaving .closed } else session
  | .sending, .send true =>
    { session with
      phase := .waiting true
      current := none
      sent := session.sent ++ session.current.toList }
  | .sending, .send false => { session with phase := .leaving .failed }
  | .waiting false, .timeout =>
    if session.queue.isEmpty then { session with phase := .leaving .idle } else session
  | .waiting true, .timeout => { session with phase := .waiting false }
  | .waiting true, .error => { session with phase := .leaving .failed }
  | _, _ => session

inductive UdpWorker (δ : Type) where
  | idle
  | lookup (datagram : δ)
  | insert (datagram : δ)
  | start (datagram : δ) (index : ℕ)
  | connect (datagram : δ) (index : ℕ)
  | retract (index : ℕ)
  | send (datagram : δ) (index : ℕ)
  | remove (datagram : δ)
  | uncount (found : Bool) (retry : Option δ)

def UdpWorker.holds (index : ℕ) : UdpWorker δ → Bool
  | .start _ i | .connect _ i | .send _ i => i == index
  | _ => false

/-- The registry at one key, all sessions there were, and the worker.  `accepted` is what `dispatch`
returned `Ok` for, with the session that took it. -/
structure UdpState (δ : Type) where
  entry : Option ℕ := none
  sessions : List (UdpSession δ) := []
  worker : UdpWorker δ := .idle
  started : ℕ := 0
  ended : ℕ := 0
  overflow : ℕ := 0
  accepted : List (δ × Option ℕ) := []

namespace UdpState

/-- The next step of the worker; `connected` is what `create_upstream` answers. -/
def work (st : UdpState δ) (connected : Bool) : UdpState δ :=
  match st.worker with
  | .idle => st
  | .lookup datagram =>
    match st.entry with
    | some index => { st with worker := .send datagram index }
    | none => { st with worker := .insert datagram }
  | .insert datagram =>
    match st.entry with
    | some index => { st with worker := .send datagram index }
    | none =>
      { st with
        entry := some st.sessions.length
        sessions := st.sessions ++ [{}]
        worker := .start datagram st.sessions.length }
  | .start datagram index =>
    { st with started := st.started + 1, worker := .connect datagram index }
  | .connect datagram index =>
    if connected then
      { st with
        sessions := st.sessions.modify index (.enter (.waiting false))
        worker := .send datagram index }
    else { st with worker := .retract index }
  | .retract index =>
    { st with
      entry := none
      sessions := st.sessions.modify index (.enter (.over .failed))
      worker := .uncount st.entry.isSome none }
  | .send datagram index =>
    match st.sessions[index]? with
    | none => st
    | some session =>
      if session.phase.isOver then { st with worker := .remove datagram }
      else if session.queue.length < 32 then
        { st with
          sessions := st.sessions.modify index (.enqueue datagram)
          worker := .idle
          accepted := st.accepted ++ [(datagram, some index)] }
      else
        { st with
          worker := .idle
          overflow := st.overflow + 1
          accepted := st.accepted ++ [(datagram, none)] }
  | .remove datagram =>
    { st with entry := none, worker := .uncount st.entry.isSome (some datagram) }
  | .uncount found none => { st with ended := st.ended + found.toNat, worker := .idle }
  | .uncount found (some datagram) =>
    { st with ended := st.ended + found.toNat, worker := .lookup datagram }

def turn (st : UdpState δ) (index : ℕ) (event : UdpEvent) : UdpPhase → UdpState δ
  | .leaving reason =>
    { st with
      entry := none
      sessions := st.sessions.modify index
        (.enter (if st.entry.isSome then .removed reason else .over reason)) }
  | .removed reason =>
    { st with
      sessions := st.sessions.modify index (.enter (.over reason))
      ended := st.ended + 1 }
  | _ =>
    { st with
      sessions := st.sessions.modify index
        (.loop (decide (st.entry ≠ some index) && !st.worker.holds index) event) }

end UdpState

inductive UdpAction (δ : Type) where
  | receive (datagram : δ)
  | work (connected : Bool)
  | session (index : ℕ) (event : UdpEvent)

variable (st : UdpState δ)

def UdpState.act : UdpAction δ → UdpState δ
  | .receive datagram =>
    match st.worker with
    | .idle => { st with worker := .lookup datagram }
    | _ => st
  | .work connected => st.work connected
  | .session index event =>
    st.sessions[index]?.elim st fun session => st.turn index event session.phase

def udpRun (actions : List (UdpAction δ)) : UdpState δ := actions.foldl UdpState.act {}

/-! ## One session at a time -/

namespace UdpPhase

/-- The session has not taken itself out of the registry. -/
def present : UdpPhase → Bool
  | .removed _ | .over _ => false
  | _ => true

def pending : UdpPhase → ℕ
  | .removed _ => 1
  | _ => 0

theorem present_of_isOver {phase : UdpPhase} (h : phase.isOver = true) : phase.present = false := by
  cases phase <;> simp_all [isOver, present]

end UdpPhase

theorem loop_phase (unreferenced : Bool) (event : UdpEvent) (session : UdpSession δ) :
    (session.loop unreferenced event).phase.present = session.phase.present ∧
      (session.loop unreferenced event).phase.pending = session.phase.pending ∧
      (session.phase = .created → (session.loop unreferenced event).phase = .created) := by
  fun_cases UdpSession.loop unreferenced event session <;>
    simp_all [UdpPhase.present, UdpPhase.pending]

namespace UdpWorker

def starting : UdpWorker δ → ℕ
  | .start .. => 1
  | _ => 0

def ending : UdpWorker δ → ℕ
  | .uncount found _ => found.toNat
  | _ => 0

end UdpWorker

namespace UdpState

def phaseAt (index : ℕ) : Option UdpPhase :=
  st.sessions[index]?.map UdpSession.phase

/-- The sessions that took themselves out of the registry and are not yet counted as ended. -/
def uncounted : ℕ := total (fun session => session.phase.pending) st.sessions

/-- What the worker can rely on between two of its steps. -/
def Fits : Prop :=
  match st.worker with
  | .start _ index | .connect _ index | .retract index => st.phaseAt index = some .created
  | .send _ index => st.entry = none ∨ st.entry = some index
  | .remove _ => st.entry = none
  | _ => True

structure Sound (st : UdpState δ) : Prop where
  entry : ∀ index, st.entry = some index ↔ (st.phaseAt index).any UdpPhase.present = true
  fits : st.Fits
  balance : st.started + st.worker.starting
    = st.ended + st.worker.ending + st.uncounted + st.entry.toList.length

variable {st : UdpState δ} {index : ℕ} {session : UdpSession δ}

/-- The worker goes on, and neither the registry nor a session changes. -/
theorem Sound.moved (h : st.Sound) {before : UdpWorker δ} (hworker : st.worker = before)
    (after : UdpWorker δ) {overflow : ℕ} {accepted : List (δ × Option ℕ)}
    (hfits : ({ st with worker := after, overflow, accepted } : UdpState δ).Fits)
    (hstarting : after.starting = before.starting) (hending : after.ending = before.ending) :
    ({ st with worker := after, overflow, accepted } : UdpState δ).Sound where
  entry := h.entry
  fits := hfits
  balance := by
    show st.started + after.starting = st.ended + after.ending + st.uncounted + _
    rw [hstarting, hending, ← hworker]
    exact h.balance

theorem phaseAt_modify {f : UdpSession δ → UdpSession δ} (hs : st.sessions[index]? = some session)
    (i : ℕ) : ({ st with sessions := st.sessions.modify index f } : UdpState δ).phaseAt i
      = if i = index then some (f session).phase else st.phaseAt i := by
  rw [phaseAt, getElem?_modify]
  split
  · next hi =>
    subst hi
    rw [if_pos rfl, hs]
    rfl
  · next hi =>
    rw [if_neg (Ne.symm hi)]
    simp [phaseAt]

theorem phaseAt_of_getElem? (hs : st.sessions[index]? = some session) :
    st.phaseAt index = some session.phase := by
  rw [phaseAt, hs]
  rfl

theorem any_present_modify {f : UdpSession δ → UdpSession δ}
    (hs : st.sessions[index]? = some session)
    (hpresent : (f session).phase.present = session.phase.present) (i : ℕ) :
    (({ st with sessions := st.sessions.modify index f } : UdpState δ).phaseAt i).any
      UdpPhase.present = (st.phaseAt i).any UdpPhase.present := by
  rw [phaseAt_modify hs]
  split
  · next hi => rw [hi, phaseAt_of_getElem? hs, Option.any_some, Option.any_some, hpresent]
  · rfl

theorem uncounted_modify (hs : st.sessions[index]? = some session)
    (f : UdpSession δ → UdpSession δ) :
    total (fun session => session.phase.pending) (st.sessions.modify index f)
        + session.phase.pending = st.uncounted + (f session).phase.pending :=
  total_modify hs

/-- A session goes on and stays in the registry, or out of it. -/
theorem Sound.modified (h : st.Sound) {f : UdpSession δ → UdpSession δ}
    (hs : st.sessions[index]? = some session)
    (hpresent : (f session).phase.present = session.phase.present)
    (hpending : (f session).phase.pending = session.phase.pending)
    (hfits : ({ st with sessions := st.sessions.modify index f } : UdpState δ).Fits) :
    ({ st with sessions := st.sessions.modify index f } : UdpState δ).Sound where
  entry i := by rw [any_present_modify hs hpresent, h.entry]
  fits := hfits
  balance := by
    have hsame := uncounted_modify hs f
    rw [hpending] at hsame
    show st.started + st.worker.starting = st.ended + st.worker.ending + total _ _ + _
    rw [Nat.add_right_cancel hsame]
    exact h.balance

/-- A session leaves the registry, and the entry of the key with it. -/
theorem Sound.removed (h : st.Sound) {f : UdpSession δ → UdpSession δ}
    (hs : st.sessions[index]? = some session) (hentry : st.entry = some index)
    (hpresent : (f session).phase.present = false) (i : ℕ) :
    none = some i ↔ (({ st with sessions := st.sessions.modify index f } : UdpState δ).phaseAt
      i).any UdpPhase.present = true := by
  rw [phaseAt_modify hs]
  split
  · simp [hpresent]
  · next hi =>
    rw [← h.entry i, hentry]
    exact iff_of_false nofun fun hsame => hi (Option.some.inj hsame).symm

theorem Sound.inserted (h : st.Sound) {datagram : δ} (hworker : st.worker = .insert datagram)
    (hentry : st.entry = none) :
    ({ st with
      entry := some st.sessions.length
      sessions := st.sessions ++ [{}]
      worker := .start datagram st.sessions.length } : UdpState δ).Sound where
  entry i := by
    have hi := h.entry i
    rw [hentry, phaseAt] at hi
    rw [phaseAt, getElem?_append]
    split
    · next hlt =>
      rw [← hi]
      exact iff_of_false (fun hsame => hlt.ne (Option.some.inj hsame).symm) nofun
    · next hge =>
      by_cases hlast : i = st.sessions.length
      · rw [hlast, Nat.sub_self]
        exact iff_of_true rfl rfl
      · rw [getElem?_eq_none (by simp only [length_singleton]; omega)]
        exact iff_of_false (fun hsame => hlast (Option.some.inj hsame).symm) nofun
  fits := by simp [Fits, phaseAt]
  balance := by
    have hbalance := h.balance
    rw [hworker, hentry] at hbalance
    show st.started + 1 = st.ended + 0 + total _ (st.sessions ++ [_]) + 1
    rw [total_append_singleton]
    exact congrArg (· + 1) hbalance

theorem Sound.work (h : st.Sound) (connected : Bool) : (st.work connected).Sound := by
  have hfits := h.fits
  have hbalance := h.balance
  rw [UdpState.work]
  cases hworker : st.worker with
  | idle => exact h
  | lookup datagram =>
    dsimp only
    split
    · next index hentry => exact h.moved hworker (.send datagram index) (Or.inr hentry) rfl rfl
    · exact h.moved hworker (.insert datagram) trivial rfl rfl
  | insert datagram =>
    dsimp only
    split
    · next index hentry => exact h.moved hworker (.send datagram index) (Or.inr hentry) rfl rfl
    · next hentry => exact h.inserted hworker hentry
  | start datagram index =>
    rw [Fits, hworker] at hfits
    rw [hworker] at hbalance
    exact ⟨h.entry, hfits, hbalance⟩
  | connect datagram index =>
    have hcreated : st.phaseAt index = some .created := by rwa [Fits, hworker] at hfits
    cases connected with
    | true =>
      have hentry : st.entry = some index := (h.entry index).mpr (by rw [hcreated]; rfl)
      obtain ⟨session, hs, hphase⟩ := Option.map_eq_some_iff.mp hcreated
      exact (h.moved hworker (.send datagram index) (Or.inr hentry) rfl rfl).modified hs
        (by rw [hphase]; rfl) (by rw [hphase]; rfl) (Or.inr hentry)
    | false => exact h.moved hworker (.retract index) hcreated rfl rfl
  | retract index =>
    have hcreated : st.phaseAt index = some .created := by rwa [Fits, hworker] at hfits
    have hentry : st.entry = some index := (h.entry index).mpr (by rw [hcreated]; rfl)
    obtain ⟨session, hs, hphase⟩ := Option.map_eq_some_iff.mp hcreated
    have huncounted := uncounted_modify hs (.enter (.over .failed))
    rw [hphase] at huncounted
    refine ⟨h.removed hs hentry rfl, trivial, ?_⟩
    rw [hworker, hentry] at hbalance
    rw [hentry]
    replace hbalance : st.started = st.ended + 0 + st.uncounted + 1 := hbalance
    show st.started = st.ended + 1 + total _ (st.sessions.modify index _)
    rw [Nat.add_right_cancel huncounted]
    omega
  | send datagram index =>
    have hentry : st.entry = none ∨ st.entry = some index := by rwa [Fits, hworker] at hfits
    dsimp only
    split
    · exact h
    · next session hs =>
      split_ifs with hover hroom
      · refine h.moved hworker (.remove datagram) (hentry.resolve_right fun hsome => ?_) rfl rfl
        have hpresent := (h.entry index).mp hsome
        rw [phaseAt_of_getElem? hs, Option.any_some, UdpPhase.present_of_isOver hover] at hpresent
        cases hpresent
      · exact (h.moved hworker .idle trivial rfl rfl).modified (f := .enqueue datagram) hs rfl rfl
          trivial
      · exact h.moved hworker .idle trivial rfl rfl
  | remove datagram =>
    have hgone : st.entry = none := by rwa [Fits, hworker] at hfits
    rw [hworker, hgone] at hbalance
    refine ⟨?_, trivial, ?_⟩
    · rw [← hgone]
      exact h.entry
    · rw [hgone]
      exact hbalance
  | uncount found retry =>
    rw [hworker] at hbalance
    cases retry with
    | none | some datagram => exact ⟨h.entry, trivial, hbalance⟩

/-- The worker can rely on the same after a step of a session. -/
theorem Fits.modified (hfits : st.Fits) {f : UdpSession δ → UdpSession δ}
    (hs : st.sessions[index]? = some session)
    (hcreated : session.phase = .created → (f session).phase = .created) {entry : Option ℕ}
    (hentry : entry = none ∨ entry = st.entry) {ended : ℕ} :
    ({ st with entry, ended, sessions := st.sessions.modify index f } : UdpState δ).Fits := by
  have hkeep (i : ℕ) (hi : st.phaseAt i = some .created) :
      ({ st with sessions := st.sessions.modify index f } : UdpState δ).phaseAt i
        = some .created := by
    rw [phaseAt_modify hs]
    split
    · next hsame =>
      rw [hsame, phaseAt_of_getElem? hs] at hi
      rw [hcreated (Option.some.inj hi)]
    · exact hi
  rw [Fits] at hfits ⊢
  cases hworker : st.worker with
  | start _ i | connect _ i | retract i => exact hkeep i (by rwa [hworker] at hfits)
  | send _ i =>
    rw [hworker] at hfits
    rcases hentry with rfl | rfl
    · exact Or.inl rfl
    · exact hfits
  | remove _ =>
    rw [hworker] at hfits
    rcases hentry with rfl | rfl
    · rfl
    · exact hfits
  | idle | lookup _ | insert _ | uncount _ _ => trivial

theorem Sound.turn (h : st.Sound) (hs : st.sessions[index]? = some session)
    (event : UdpEvent) : (st.turn index event session.phase).Sound := by
  have hloop := loop_phase (decide (st.entry ≠ some index) && !st.worker.holds index) event session
  have hgoes := h.modified hs hloop.1 hloop.2.1 (h.fits.modified hs hloop.2.2 (.inr rfl))
  have hbalance := h.balance
  cases hphase : session.phase with
  | leaving reason =>
    have hentry : st.entry = some index :=
      (h.entry index).mpr (by rw [phaseAt_of_getElem? hs, hphase]; rfl)
    have huncounted := uncounted_modify hs (.enter (.removed reason))
    rw [hphase] at huncounted
    rw [UdpState.turn, if_pos (by rw [hentry]; rfl)]
    refine ⟨h.removed hs hentry rfl, h.fits.modified hs ?_ (.inl rfl), ?_⟩
    · rw [hphase]
      exact nofun
    · rw [hentry] at hbalance
      show st.started + _ = st.ended + _ + total _ (st.sessions.modify index _) + 0
      rw [show total _ (st.sessions.modify index _) = st.uncounted + 1 from huncounted]
      exact hbalance
  | removed reason =>
    have huncounted := uncounted_modify hs (.enter (.over reason))
    rw [hphase] at huncounted
    rw [UdpState.turn]
    refine ⟨fun i => ?_, h.fits.modified hs ?_ (.inr rfl), ?_⟩
    · rw [h.entry, ← any_present_modify (f := .enter (.over reason)) hs (by rw [hphase]; rfl)]
      rfl
    · rw [hphase]
      exact nofun
    · show st.started + st.worker.starting = st.ended + 1 + st.worker.ending
        + total _ (st.sessions.modify index _) + st.entry.toList.length
      rw [hbalance, ← show total _ (st.sessions.modify index _) + 1 = st.uncounted from huncounted]
      omega
  | created | waiting active | sending | «over» reason => exact hgoes

theorem Sound.act (h : st.Sound) (action : UdpAction δ) : (st.act action).Sound := by
  cases action with
  | receive datagram =>
    obtain ⟨hentry, hfits, hbalance⟩ := h
    rw [UdpState.act]
    split
    · next hworker =>
      rw [hworker] at hbalance
      exact ⟨hentry, trivial, hbalance⟩
    · exact ⟨hentry, hfits, hbalance⟩
  | work connected => exact h.work connected
  | session index event =>
    rw [UdpState.act]
    cases hs : st.sessions[index]? with
    | none => exact h
    | some session => exact h.turn hs event

end UdpState

variable (actions : List (UdpAction δ))

theorem udpRun_concat (action : UdpAction δ) :
    udpRun (actions ++ [action]) = (udpRun actions).act action :=
  foldl_concat _ _ _ _

theorem sound_udpRun : (udpRun actions).Sound := by
  induction actions using List.reverseRecOn with
  | nil => exact ⟨fun i => ⟨nofun, nofun⟩, trivial, rfl⟩
  | append_singleton actions action ih =>
    rw [udpRun_concat]
    exact ih.act action

/-- **One session at a time.** At most one session is not out of the registry, the entry of the key
is its entry, and the sessions started are those ended and that entry, as soon as the counters are
updated. -/
theorem udp_session_unique (actions : List (UdpAction δ)) :
    (∀ i j, ((udpRun actions).phaseAt i).any UdpPhase.present = true →
        ((udpRun actions).phaseAt j).any UdpPhase.present = true → i = j) ∧
      (∀ i, (udpRun actions).entry = some i ↔
        ((udpRun actions).phaseAt i).any UdpPhase.present = true) ∧
      (udpRun actions).started + (udpRun actions).worker.starting
        = (udpRun actions).ended + (udpRun actions).worker.ending + (udpRun actions).uncounted
          + (udpRun actions).entry.toList.length := by
  have h := sound_udpRun actions
  refine ⟨fun i j hi hj => ?_, h.entry, h.balance⟩
  rw [← h.entry] at hi hj
  exact Option.some.inj (hi.symm.trans hj)

/-- The worker has inserted a session; it is not yet counted, and has no task. -/
theorem entry_before_task : (udpRun [.receive (), .work true, .work true]).entry = some 0 ∧
      (udpRun [.receive (), .work true, .work true]).started = 0 ∧
      (udpRun [.receive (), .work true, .work true]).phaseAt 0 = some .created := by
  decide

/-! ## Datagrams that are lost -/

namespace UdpPhase

def reason : UdpPhase → Option UdpEnd
  | .leaving reason | .removed reason | .over reason => some reason
  | _ => none

def quits (phase : UdpPhase) : Bool := phase.reason.any (· ≠ .failed)

end UdpPhase

namespace UdpSession

variable (session : UdpSession δ)

def taken : List δ :=
  session.sent ++ session.current.toList ++ session.queue

/-- A session that is not sending, and has not failed to, has no datagram in its hands. -/
def Settled : Prop :=
  session.phase ≠ .sending → session.phase.reason ≠ some .failed → session.current = none

def Lossless : Prop := session.phase.quits = true → session.queue = []

theorem Settled.enter {session : UdpSession δ} (h : session.Settled) {reason : UdpEnd}
    {phase : UdpPhase} (hleft : session.phase.reason = some reason)
    (hreason : phase.reason = some reason) : (session.enter phase).Settled := by
  intro _ hend
  refine h (fun hsending => ?_) ?_
  · rw [hsending] at hleft
    cases hleft
  · rw [hleft, ← hreason]
    exact hend

theorem loop_spec {session : UdpSession δ} (h : session.Settled) (unreferenced : Bool)
    (event : UdpEvent) :
    (session.loop unreferenced event).Settled ∧
      (session.loop unreferenced event).taken = session.taken ∧
      (session.Lossless → (session.loop unreferenced event).Lossless) := by
  rw [Settled] at h
  refine ⟨?_, ?_, ?_⟩
  · fun_cases UdpSession.loop unreferenced event session <;>
      simp_all [Settled, UdpPhase.reason]
  · fun_cases UdpSession.loop unreferenced event session <;>
      simp_all [taken, UdpPhase.reason]
  · fun_cases UdpSession.loop unreferenced event session <;>
      simp_all [Lossless, UdpPhase.quits, UdpPhase.reason]

end UdpSession

namespace UdpState

variable {st : UdpState δ} {index : ℕ} {session : UdpSession δ}

def takenBy (st : UdpState δ) (taker : Option ℕ) : List δ :=
  (st.accepted.filter fun entry => entry.2 = taker).map Prod.fst

/-- Everything accepted is with the session that took it, or counted. -/
structure Tallied (st : UdpState δ) : Prop where
  taken : ∀ (i : ℕ) session, st.sessions[i]? = some session →
    st.takenBy (some i) = session.taken ∧ session.Settled
  fresh : ∀ i, st.sessions.length ≤ i → st.takenBy (some i) = []
  overflow : st.overflow = (st.takenBy none).length

/-- Neither a session nor what is accepted changes. -/
theorem Tallied.kept (h : st.Tallied) {entry : Option ℕ} {worker : UdpWorker δ}
    {started ended : ℕ} : ({ st with entry, worker, started, ended } : UdpState δ).Tallied :=
  ⟨h.taken, h.fresh, h.overflow⟩

/-- A property of all sessions is one of all but one, and of what becomes of that one. -/
theorem forall_modify {P : ℕ → UdpSession δ → Prop} {f : UdpSession δ → UdpSession δ}
    (hs : st.sessions[index]? = some session)
    (h : ∀ i other, i ≠ index → st.sessions[i]? = some other → P i other)
    (hf : P index (f session)) (i : ℕ) (other : UdpSession δ)
    (hother : (st.sessions.modify index f)[i]? = some other) : P i other := by
  rw [getElem?_modify] at hother
  by_cases hi : index = i
  · subst hi
    obtain rfl : f session = other := by simpa [hs] using hother
    exact hf
  · exact h i other (Ne.symm hi) (by simpa [hi] using hother)

/-- A session goes on with what it has taken. -/
theorem Tallied.modified (h : st.Tallied) {f : UdpSession δ → UdpSession δ}
    (hs : st.sessions[index]? = some session) (htaken : (f session).taken = session.taken)
    (hsettled : (f session).Settled) {entry : Option ℕ} {worker : UdpWorker δ} {ended : ℕ} :
    ({ st with entry, worker, ended, sessions := st.sessions.modify index f } :
      UdpState δ).Tallied where
  taken := forall_modify (P := fun i session => st.takenBy (some i) = session.taken ∧
      session.Settled) hs (fun i other _ => h.taken i other)
    ⟨(h.taken index session hs).1.trans htaken.symm, hsettled⟩
  fresh i hi := h.fresh i (by rwa [length_modify] at hi)
  overflow := h.overflow

theorem takenBy_accept (datagram : δ) (taker other : Option ℕ) :
    ({ st with accepted := st.accepted ++ [(datagram, taker)] } : UdpState δ).takenBy other
      = st.takenBy other ++ if taker = other then [datagram] else [] := by
  simp only [takenBy, filter_append, map_append]
  split
  · next hsame => simp [hsame]
  · next hother => simp [hother]

theorem Tallied.work (h : st.Tallied) (hfits : st.Fits) (connected : Bool) :
    (st.work connected).Tallied := by
  rw [UdpState.work]
  cases hworker : st.worker with
  | idle => exact h
  | lookup datagram =>
    dsimp only
    split
    · exact h.kept
    · exact h.kept
  | insert datagram =>
    dsimp only
    split
    · exact h.kept
    · refine ⟨fun i session hs => ?_, fun i hi => h.fresh i ?_, h.overflow⟩
      · rw [getElem?_append] at hs
        split at hs
        · exact h.taken i session hs
        · next hge =>
          -- the session that was inserted has taken nothing
          obtain rfl := mem_singleton.mp (mem_of_getElem? hs)
          exact ⟨h.fresh i (Nat.le_of_not_lt hge), fun _ _ => rfl⟩
      · rw [length_append] at hi
        exact (Nat.le_add_right _ _).trans hi
  | start datagram index => exact h.kept
  | connect datagram index =>
    cases connected with
    | true =>
      rw [Fits, hworker] at hfits
      obtain ⟨session, hs, hphase⟩ := Option.map_eq_some_iff.mp hfits
      refine h.modified hs rfl fun _ _ => (h.taken index session hs).2 ?_ ?_
      · simp [hphase]
      · simp [hphase, UdpPhase.reason]
    | false => exact h.kept
  | retract index =>
    rw [Fits, hworker] at hfits
    obtain ⟨session, hs, -⟩ := Option.map_eq_some_iff.mp hfits
    exact h.modified hs rfl fun _ hreason => absurd rfl hreason
  | send datagram index =>
    dsimp only
    split
    · exact h
    · next session hs =>
      split_ifs with hover hroom
      · exact h.kept
      · obtain ⟨htaken, hsettled⟩ := h.taken index session hs
        refine ⟨forall_modify hs (fun i other hi hother => ?_) ⟨?_, hsettled⟩, fun i hi => ?_, ?_⟩
        · obtain ⟨htaken, hsettled⟩ := h.taken i other hother
          refine ⟨(takenBy_accept datagram (some index) (some i)).trans ?_, hsettled⟩
          rw [if_neg fun hsame => hi (Option.some.inj hsame).symm, append_nil, htaken]
        · refine (takenBy_accept datagram (some index) (some index)).trans ?_
          rw [if_pos rfl, htaken]
          exact append_assoc _ _ _
        · rw [length_modify] at hi
          refine (takenBy_accept datagram (some index) (some i)).trans ?_
          rw [h.fresh i hi, if_neg fun hsame => ?_, append_nil]
          rw [← Option.some.inj hsame, ← getElem?_eq_none_iff, hs] at hi
          cases hi
        · refine h.overflow.trans (congrArg length ?_)
          refine ((takenBy_accept datagram (some index) none).trans ?_).symm
          rw [if_neg nofun, append_nil]
      · refine ⟨fun i other hother => ?_, fun i hi => ?_, ?_⟩
        · obtain ⟨htaken, hsettled⟩ := h.taken i other hother
          refine ⟨(takenBy_accept datagram none (some i)).trans ?_, hsettled⟩
          rw [if_neg nofun, append_nil, htaken]
        · refine (takenBy_accept datagram none (some i)).trans ?_
          rw [h.fresh i hi, if_neg nofun, append_nil]
        · refine Eq.trans ?_ (congrArg length (takenBy_accept datagram none none)).symm
          rw [if_pos rfl, length_append, ← h.overflow]
          rfl
  | remove datagram => exact h.kept
  | uncount found retry =>
    cases retry with
    | none => exact h.kept
    | some datagram => exact h.kept

theorem Tallied.turn (h : st.Tallied) (hs : st.sessions[index]? = some session)
    (event : UdpEvent) : (st.turn index event session.phase).Tallied := by
  have hsettled := (h.taken index session hs).2
  have hloop := UdpSession.loop_spec hsettled
    (decide (st.entry ≠ some index) && !st.worker.holds index) event
  cases hphase : session.phase with
  | leaving reason =>
    refine h.modified hs rfl (hsettled.enter (by rw [hphase]; rfl) ?_)
    split <;> rfl
  | removed reason => exact h.modified hs rfl (hsettled.enter (by rw [hphase]; rfl) rfl)
  | created | waiting active | sending | «over» reason => exact h.modified hs hloop.2.1 hloop.1

def AllLossless (st : UdpState δ) : Prop :=
  ∀ (i : ℕ) session, st.sessions[i]? = some session → session.Lossless

/-- The next step of the worker offers a datagram to a session that has ended without an error, and
whose queue is not closed yet. -/
def SendsLate (st : UdpState δ) : Prop :=
  ∃ datagram index session, st.worker = .send datagram index ∧
    st.sessions[index]? = some session ∧ session.phase.quits = true ∧
    session.phase.isOver = false ∧ session.queue.length < 32

theorem allLossless_work_iff (hfits : st.Fits) (h : st.AllLossless) (connected : Bool) :
    (st.work connected).AllLossless ↔ ¬ st.SendsLate := by
  constructor
  · rintro hwork ⟨datagram, index, session, hworker, hs, hquits, hover, hroom⟩
    have hqueue := hwork index (session.enqueue datagram) (by
      simp [work, hworker, hs, hover, hroom]) hquits
    simp [UdpSession.enqueue] at hqueue
  · intro hlate
    rw [UdpState.work]
    cases hworker : st.worker with
    | idle => exact h
    | lookup datagram =>
      dsimp only
      split <;> exact h
    | insert datagram =>
      dsimp only
      split
      · exact h
      · intro i session hs
        rw [getElem?_append] at hs
        split at hs
        · exact h i session hs
        · obtain rfl := mem_singleton.mp (mem_of_getElem? hs)
          exact nofun
    | start datagram index => exact h
    | connect datagram index =>
      cases connected with
      | true =>
        rw [Fits, hworker] at hfits
        obtain ⟨session, hs, -⟩ := Option.map_eq_some_iff.mp hfits
        exact forall_modify hs (fun i other _ => h i other) nofun
      | false => exact h
    | retract index =>
      rw [Fits, hworker] at hfits
      obtain ⟨session, hs, -⟩ := Option.map_eq_some_iff.mp hfits
      exact forall_modify hs (fun i other _ => h i other) nofun
    | send datagram index =>
      dsimp only
      split
      · exact h
      · next session hs =>
        split_ifs with hover hroom
        · exact h
        · refine forall_modify hs (fun i other _ => h i other) fun hquits => absurd ?_ hlate
          exact ⟨datagram, index, session, hworker, hs, hquits, Bool.eq_false_iff.mpr hover, hroom⟩
        · exact h
    | remove datagram => exact h
    | uncount found retry =>
      cases retry with
      | none => exact h
      | some datagram => exact h

theorem allLossless_turn (h : st.AllLossless) (hs : st.sessions[index]? = some session)
    (hsettled : session.Settled) (event : UdpEvent) :
    (st.turn index event session.phase).AllLossless := by
  have hindex := h index session hs
  have hloop := (UdpSession.loop_spec hsettled
    (decide (st.entry ≠ some index) && !st.worker.holds index) event).2.2 hindex
  rw [UdpSession.Lossless] at hindex
  cases hphase : session.phase with
  | leaving reason =>
    rw [hphase] at hindex
    refine forall_modify hs (fun i other _ => h i other) fun hquits => hindex ?_
    rw [UdpSession.enter] at hquits
    split at hquits <;> exact hquits
  | removed reason =>
    rw [hphase] at hindex
    exact forall_modify hs (fun i other _ => h i other) hindex
  | created | waiting active | sending | «over» reason =>
    exact forall_modify hs (fun i other _ => h i other) hloop

theorem Tallied.act (h : st.Tallied) (hfits : st.Fits) (action : UdpAction δ) :
    (st.act action).Tallied := by
  cases action with
  | receive datagram =>
    obtain ⟨htaken, hfresh, hoverflow⟩ := h
    rw [UdpState.act]
    split <;> exact ⟨htaken, hfresh, hoverflow⟩
  | work connected => exact h.work hfits connected
  | session index event =>
    rw [UdpState.act]
    cases hs : st.sessions[index]? with
    | none => exact h
    | some session => exact h.turn hs event

theorem Tallied.allLossless_iff (h : st.Tallied) :
    st.AllLossless ↔ ∀ (i : ℕ) session, st.sessions[i]? = some session →
      session.phase.quits = true → session.sent = st.takenBy (some i) := by
  refine forall₄_congr fun i session hs hquits => ?_
  obtain ⟨htaken, hsettled⟩ := h.taken i session hs
  have hcurrent : session.current = none := by
    refine hsettled (fun hphase => ?_) fun hreason => ?_
    · simp [hphase, UdpPhase.quits, UdpPhase.reason] at hquits
    · simp [hreason, UdpPhase.quits] at hquits
  rw [htaken, UdpSession.taken, hcurrent]
  simp

end UdpState

theorem tallied_udpRun (actions : List (UdpAction δ)) : (udpRun actions).Tallied := by
  induction actions using List.reverseRecOn with
  | nil => exact ⟨nofun, fun _ _ => rfl, rfl⟩
  | append_singleton actions action ih =>
    rw [udpRun_concat]
    exact ih.act (sound_udpRun actions).fits action

/-- **What `dispatch` returned `Ok` for is sent, unless the session fails or the worker is late.**
It is an overflow, or taken by a session; and every session that ends without an error has sent all
it took, exactly if the worker offers nothing to a session that has left its loop. -/
theorem udp_datagrams_sent_iff (actions : List (UdpAction δ)) :
    (udpRun actions).overflow = ((udpRun actions).takenBy none).length ∧
      ((∀ past, past <+: actions → ∀ (i : ℕ) session, (udpRun past).sessions[i]? = some session →
          session.phase.quits = true → session.sent = (udpRun past).takenBy (some i)) ↔
        ∀ past connected, past ++ [.work connected] <+: actions → ¬ (udpRun past).SendsLate) := by
  refine ⟨(tallied_udpRun actions).overflow, ?_⟩
  simp only [← (tallied_udpRun _).allLossless_iff]
  constructor
  · intro h past connected hprefix
    have hpast := h past ((prefix_append past _).trans hprefix)
    have hwork := h _ hprefix
    rw [udpRun_concat] at hwork
    exact (UdpState.allLossless_work_iff (sound_udpRun past).fits hpast connected).mp hwork
  · intro h past hprefix
    induction past using List.reverseRecOn with
    | nil => exact nofun
    | append_singleton past action ih =>
      have hpast := ih ((prefix_append past [action]).trans hprefix)
      rw [udpRun_concat]
      cases action with
      | receive datagram =>
        rw [UdpState.act]
        split <;> exact hpast
      | work connected =>
        exact (UdpState.allLossless_work_iff (sound_udpRun past).fits hpast connected).mpr
          (h past connected hprefix)
      | session index event =>
        rw [UdpState.act]
        cases hs : (udpRun past).sessions[index]? with
        | none => exact hpast
        | some session =>
          exact UdpState.allLossless_turn hpast hs
            ((tallied_udpRun past).taken index session hs).2 event

/-- The worker has found the session, the session times out, and then takes the datagram. -/
theorem idle_session_loses_datagram :
    let st := udpRun [.receive 0, .work true, .work true, .work true, .work true, .work true,
      .session 0 .recv, .session 0 (.send true), .session 0 .timeout, .receive 1, .work true,
      .session 0 .timeout, .work true, .session 0 .recv, .session 0 .recv]
    st.sessions.map (fun session => (session.phase, session.sent)) = [(.over .idle, [0])] ∧
      st.takenBy (some 0) = [0, 1] ∧ st.overflow = 0 := by
  decide

end NantianGateway.Stream
