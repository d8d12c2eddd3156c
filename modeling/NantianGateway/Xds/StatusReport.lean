import NantianGateway.Xds.Stream

/-!
# Status reports

`build_status_report` looks at the id of the stored snapshot and at the failure registers.  **That a
runtime has applied the snapshot stands in registers it does not look at.**
-/

namespace NantianGateway.Xds

structure StatusReport where
  nodeId : String
  version : String
  ready : Bool
  message : String
  observedAt : ℕ

def PlaneRegisters.rejection (registers : PlaneRegisters) (version : String) : Option String :=
  if registers.lastReloadFailureVersion = version ∧ registers.lastReloadFailureMessage ≠ "" then
    some registers.lastReloadFailureMessage
  else none

section

variable (runtime : RuntimePlane → PlaneRegisters) (version : String)

def currentRuntimeRejectionMessage : Option String :=
  if version = "" then none
  else
    match (runtime .http).rejection version, (runtime .tls).rejection version,
      (runtime .stream).rejection version with
    | none, none, none => none
    | some http, none, none => some http
    | none, some tls, none => some tls
    | none, none, some stream => some stream
    | http, tls, stream => some ("; ".intercalate ((http.map ("HTTP runtime: " ++ ·)).toList ++
        (tls.map ("TLS runtime: " ++ ·)).toList ++ (stream.map ("stream runtime: " ++ ·)).toList))

def runtimeHasLastGoodConfiguration : Bool :=
  (runtime .http).lastGoodReloadVersion != "" || (runtime .tls).lastGoodReloadVersion != "" ||
    (runtime .stream).lastGoodReloadVersion != ""

theorem currentRuntimeRejectionMessage_eq_none_iff :
    currentRuntimeRejectionMessage runtime version = none ↔
      version = "" ∨ ∀ plane, (runtime plane).rejection version = none := by
  rw [currentRuntimeRejectionMessage]
  split
  · next hempty => exact iff_of_true rfl (.inl hempty)
  · next hempty =>
    have hplanes : (∀ plane, (runtime plane).rejection version = none) ↔
        (runtime .http).rejection version = none ∧ (runtime .tls).rejection version = none ∧
          (runtime .stream).rejection version = none :=
      ⟨fun h => ⟨h .http, h .tls, h .stream⟩, fun ⟨hhttp, htls, hstream⟩ plane => by
        cases plane <;> assumption⟩
    rw [or_iff_right hempty, hplanes]
    split <;> simp_all

end

section

variable (nodeId : String) (current : StoredSnapshot) (runtime : RuntimePlane → PlaneRegisters)
  (includeVersion : Bool) (now : ℕ)

def buildStatusReport : StatusReport :=
  let rejectionMessage := currentRuntimeRejectionMessage runtime current.id
  let ready :=
    if rejectionMessage.isSome then runtimeHasLastGoodConfiguration runtime else current.id != ""
  { nodeId
    version := if includeVersion then current.id else ""
    ready
    message :=
      match rejectionMessage with
      | some message => "snapshot rejected: " ++ message
      | none => if ready then "snapshot applied" else "waiting for snapshot"
    observedAt := now }

theorem message_eq_applied_iff :
    (buildStatusReport nodeId current runtime includeVersion now).message = "snapshot applied" ↔
      current.id ≠ "" ∧ ∀ plane, (runtime plane).rejection current.id = none := by
  have hnone := currentRuntimeRejectionMessage_eq_none_iff runtime current.id
  rw [buildStatusReport]
  cases hmessage : currentRuntimeRejectionMessage runtime current.id with
  | none =>
    rcases hnone.mp hmessage with hempty | hplanes
    · simp [hempty]
    · by_cases hempty : current.id = ""
      · simp [hempty]
      · simp [hempty, hplanes]
  | some message =>
    rw [hmessage] at hnone
    refine iff_of_false (fun h => ?_) fun h => nomatch hnone.mpr (.inr h.2)
    -- the tenth letters differ
    have hletter := congrArg (fun text : String => text.toList[9]?) h
    simp [String.toList_append] at hletter

/-- **A report tells the truth** if it says that the snapshot is applied only when every runtime
that the snapshot needs has applied it. -/
def StatusReport.Truthful (report : StatusReport) : Prop :=
  report.message = "snapshot applied" → ∀ plane,
    (snapshotRuntimeApplyRequirements current).needs plane = true →
      (runtime plane).lastGoodReloadVersion = current.id

/-- **When a report tells the truth**: there is no snapshot, its failure is on record, or it is
applied.  An apply that is still pending is none of these. -/
theorem status_report_truthful_iff :
    (buildStatusReport nodeId current runtime includeVersion now).Truthful current runtime ↔
      current.id = "" ∨
      (∃ plane, (runtime plane).lastReloadFailureVersion = current.id ∧
        (runtime plane).lastReloadFailureMessage ≠ "") ∨
      ∀ plane, (snapshotRuntimeApplyRequirements current).needs plane = true →
        (runtime plane).lastGoodReloadVersion = current.id := by
  rw [StatusReport.Truthful, message_eq_applied_iff, imp_iff_not_or, not_and_or, not_not, or_assoc]
  simp only [not_forall, PlaneRegisters.rejection, ite_eq_right_iff, reduceCtorEq, imp_false,
    not_not]

end

/-- A heartbeat between the swap of a snapshot and the report of the runtime that it needs. -/
theorem pending_apply_reported_applied :
    let st := (receive (fun _ => "HTTP") [] {}
      { version := "1", nonce := "a", snapshot := some ⟨"1", [.http], []⟩ }).1
    st.waiting.isSome = true ∧
      ¬ (buildStatusReport "node" st.stored st.runtime true 0).Truthful st.stored st.runtime := by
  refine ⟨by decide +kernel, fun h => ?_⟩
  exact absurd (h (by decide +kernel) .http (by decide +kernel)) (by decide +kernel)

end NantianGateway.Xds
