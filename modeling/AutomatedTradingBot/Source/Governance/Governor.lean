import AutomatedTradingBot.Source.Governance.Evidence
import AutomatedTradingBot.Source.Governance.Journal

/-!
# The research governor

`ResearchGovernor` of `research/research_governance.py`: it accepts plans, admits trials
and moves them on, decides on requests of a protected holdout, records contamination,
and assesses evidence. Every operation is code over the directory of the journal: each
`self._journal.recover()` is a call, and so is each step of `_append`.

`perform` runs one operation while nobody else writes; `governors` lets any number of
them run their operations over one directory, one call at a time.
-/

namespace ATB.Governance

open Calls (Program)

/-- A governor: the journal object that it was given. The trust context is the journal's. -/
structure ResearchGovernor where
  journal : ResearchJournal

namespace ResearchGovernor

variable (py : Platform) (rules : PitRules) (g : ResearchGovernor)

/-! ## Accepted plans -/

/-- One iteration of `_accepted_plans`. -/
def acceptedPlan (plans : List (String × FrozenResearchPlan)) (event : JournalEvent) :
    Except Raised (List (String × FrozenResearchPlan)) :=
  if event.kind ≠ .planAccepted then .ok plans
  else do
    let details ← detailMap event
    raiseIf (detail "assurance_mode" details ≠ g.journal.trust.assuranceMode.value)
      (.governance "plan trust context is inconsistent")
    raiseIf (detail "trust_context" details ≠ g.journal.trust.identity)
      (.governance "plan trust identity is inconsistent")
    let plan ← planOfDetails py details
    let approval ← approvalOfDetails details
    g.journal.trust.requireApproval approval plan
    return Dict.set event.planDigest plan plans

/-- `_accepted_plans`, of the history that was read. -/
def acceptedPlansOf (events : List JournalEvent) : Except Raised (List (String × FrozenResearchPlan)) :=
  events.foldlM (g.acceptedPlan py) []

/-- `_accepted_plans`. -/
def acceptedPlans : Action (List (String × FrozenResearchPlan)) := do
  let events ← Action.history .governor
  Action.lift (g.acceptedPlansOf py events)

/-- `_lineage`, of the plans that were read. -/
def lineageIn (plans : List (String × FrozenResearchPlan)) (plan : FrozenResearchPlan) :
    Except Raised (List FrozenResearchPlan) := do
  raiseIf (Dict.get? plan.planDigest plans ≠ some plan) (.governance "plan is not accepted durable evidence")
  orRaise (.governance "plan lineage cycle") (lineageOf plans plan)

/-- `_lineage`. -/
def lineage (plan : FrozenResearchPlan) : Action (List FrozenResearchPlan) := do
  let plans ← g.acceptedPlans py
  Action.lift (lineageIn plans plan)

/-- `_plan_events`. -/
def planEvents (plan : FrozenResearchPlan) : Action (List JournalEvent) := do
  let lineage ← g.lineage py plan
  let events ← Action.history .governor
  return events.filter fun e => e.planDigest ∈ lineage.map FrozenResearchPlan.planDigest

/-- `TrialState(item.disposition)`. -/
def stateOf (e : JournalEvent) : Except Raised TrialState :=
  orRaise (valueError ("'" ++ e.disposition ++ "' is not a valid TrialState")) (trialStateOf? e.disposition)

/-- `trial_state`, of the history that was read. -/
def trialStateIn (events : List JournalEvent) (runId : ResearchRunId) : Except Raised (Option TrialState) := do
  let states ← (events.filter fun e => e.runId = some runId.value ∧ e.kind.isTrial = true).mapM stateOf
  return states.getLast?

/-- `trial_state`. -/
def trialState (runId : ResearchRunId) : Action (Option TrialState) := do
  let _ ← g.acceptedPlans py
  let events ← Action.history .governor
  Action.lift (trialStateIn events runId)

/-! ## Operations -/

/-- The operation that the approval of a plan must name. -/
def requiredOperation (plan : FrozenResearchPlan) : String :=
  if plan.predecessorPlanDigest = none then "S4_08_PLAN_APPROVAL" else "S4_08_BUDGET_EXPANSION"

/-- The texts of the details of a plan's acceptance. -/
def planDetails (plan : FrozenResearchPlan) (approval : ApprovalEvidence) : Except Raised (List String) := do
  let approvalText ← Raised.ofOutcome (py.canonicalJson approval.canonicalBody)
  let planText ← Raised.ofOutcome (py.canonicalJson plan.canonicalBody)
  return ["approval=" ++ String.ofList approvalText, "assurance_mode=" ++ g.journal.trust.assuranceMode.value,
    "plan=" ++ String.ofList planText, "trust_context=" ++ g.journal.trust.identity]

/-- `accept_plan`. -/
def acceptPlan (plan : FrozenResearchPlan) (approval : ApprovalEvidence) : Action JournalEvent := do
  Action.lift (g.journal.trust.requireApproval approval plan)
  Action.lift (raiseIf (approval.operation ≠ requiredOperation plan)
    (.governance "approval operation does not authorize plan"))
  match plan.predecessorPlanDigest with
  | none => pure ()
  | some digest =>
    let plans ← g.acceptedPlans py
    Action.lift (raiseIf (Dict.get? digest plans = none) (.governance "exact predecessor plan is not accepted"))
  let details ← Action.lift (g.planDetails py plan approval)
  Proposal.append py {
    eventId := "plan:" ++ plan.planDigest
    kind := .planAccepted
    experimentId := plan.experimentId
    runId := none
    plan := plan
    disposition := "ACCEPTED"
    reasons := []
    details := details }

/-- `str(n)`. -/
def natText (n : Nat) : String := String.ofList (Nat.toDigits 10 n)

/-- The texts of the details of an admission. -/
def admissionDetails (plan : FrozenResearchPlan) (run : ResearchRun) : List String :=
  ["replay_of=" ++ (run.replayOf.map ResearchRunId.value).getD "none", "maximum=" ++ natText plan.maximumAdmittedTrials,
    "reproducibility=" ++ run.reproducibilityDigest]

/-- What `admit` asks `_append` to add. -/
def admission (plan : FrozenResearchPlan) (run : ResearchRun) : Proposal where
  eventId := "trial:" ++ run.runId.value ++ ":admitted"
  kind := .trialAdmitted
  experimentId := plan.experimentId
  runId := some run.runId
  plan := plan
  disposition := TrialState.admitted.value
  reasons := []
  details := admissionDetails plan run

/-- The event is an admission of the run. -/
def isAdmissionOf (run : String) (e : JournalEvent) : Prop := e.runId = some run ∧ e.kind = .trialAdmitted

instance (run : String) (e : JournalEvent) : Decidable (isAdmissionOf run e) := by
  unfold isAdmissionOf
  infer_instance

/-- `existing` is what this call would add. -/
def isDuplicate (plan : FrozenResearchPlan) (run : ResearchRun) (existing : JournalEvent) : Prop :=
  existing.eventId = (admission plan run).eventId ∧ (admission plan run).sameSemantic existing

instance (plan : FrozenResearchPlan) (run : ResearchRun) (existing : JournalEvent) :
    Decidable (isDuplicate plan run existing) := by
  unfold isDuplicate
  infer_instance

/-- The check of the admissions of the experiment, against the lineage of the plan. -/
def checkAdmissions (plan : FrozenResearchPlan) (run : ResearchRun) (lineage : List String)
    (admissions : List JournalEvent) : Except Raised Unit := do
  raiseIf (∃ e ∈ admissions, e.planDigest ∉ lineage) (.governance "conflicting plan lineage")
  match run.replayOf with
  | none => .ok ()
  | some replay =>
    match admissions.find? fun e => e.runId = some replay.value with
    | none => .error (.governance "replay target is not an attributable admitted run")
    | some target =>
      raiseIf (target.planDigest ∉ lineage) (.governance "replay target is not an attributable admitted run")
  raiseIf (plan.maximumAdmittedTrials ≤ admissions.length) (.governance "search budget exhausted")

/-- The admissions of an experiment. -/
def admissionsOf (experiment : String) (events : List JournalEvent) : List JournalEvent :=
  events.filter fun e => e.experimentId = experiment ∧ e.kind = .trialAdmitted

/-- `admit`. -/
def admitRun (plan : FrozenResearchPlan) (run : ResearchRun) : Action JournalEvent := do
  Action.lift (raiseIf (run.experimentId ≠ plan.experimentId) (.governance "experiment substitution"))
  let lineage ← g.lineage py plan
  match ← g.trialState py run.runId with
  | some _ =>
    let events ← Action.history .governor
    let existing ← Action.lift (orRaise (valueError "StopIteration") (events.find? fun e => isAdmissionOf run.runId.value e))
    Action.lift (raiseIf (¬ isDuplicate plan run existing) (.governance "conflicting duplicate admission"))
    return existing
  | none =>
    let events ← Action.history .governor
    Action.lift (checkAdmissions plan run (lineage.map FrozenResearchPlan.planDigest)
      (admissionsOf plan.experimentId.value events))
    (admission plan run).append py

/-- `target in {TrialState.FAILED, TrialState.INTERRUPTED}`. -/
def needsReasons (target : TrialState) : Prop := target = .failed ∨ target = .interrupted

instance (target : TrialState) : Decidable (needsReasons target) := by
  unfold needsReasons
  infer_instance

/-- `target.value.lower()`. -/
def lower : TrialState → String
  | .admitted => "admitted"
  | .running => "running"
  | .completed => "completed"
  | .failed => "failed"
  | .interrupted => "interrupted"

/-- `transition`. -/
def transition (plan : FrozenResearchPlan) (runId : ResearchRunId) (target : TrialState) (reasons : List String) :
    Action JournalEvent := do
  let _ ← g.lineage py plan
  let current ← Action.lift (orRaise (.governance "invalid trial lifecycle transition")
    (← g.trialState py runId))
  Action.lift (raiseIf (target ∉ current.transitions) (.governance "invalid trial lifecycle transition"))
  Action.lift (uniqueText "reasons" reasons)
  Action.lift (raiseIf (needsReasons target ∧ reasons = []) (.governance "failure and interruption require reasons"))
  Action.lift (raiseIf (¬ needsReasons target ∧ reasons ≠ [])
    (.governance "successful lifecycle states cannot carry reasons"))
  let events ← Action.history .governor
  let admitted ← Action.lift (orRaise (.governance "trial transition plan substitution")
    (events.find? fun e => isAdmissionOf runId.value e))
  Action.lift (raiseIf (admitted.planDigest ≠ plan.planDigest) (.governance "trial transition plan substitution"))
  Proposal.append py {
    eventId := "trial:" ++ runId.value ++ ":" ++ lower target
    kind := target.kind
    experimentId := plan.experimentId
    runId := some runId
    plan := plan
    disposition := target.value
    reasons := reasons
    details := [] }

/-- What a caller of `request_holdout` gives. -/
structure HoldoutRequest where
  plan : FrozenResearchPlan
  qualification : DatasetQualification
  qualificationPredecessors : List DatasetQualification
  requestId : String
  approval : ApprovalEvidence
  purpose : String

/-- `valid`: the policy for access to the holdout. -/
def HoldoutRequest.valid (r : HoldoutRequest) : Prop :=
  r.plan.partitionRole = .protectedHoldout ∧ r.qualification.datasetId = r.plan.datasetId ∧
    r.qualification.datasetVersion = r.plan.datasetVersion ∧ r.qualification.lifecycle = .current ∧
    permitsClaim r.qualification .economicValidation = true ∧
    r.approval.approvalReference = r.plan.ownerApprovalReference

instance (r : HoldoutRequest) : Decidable r.valid := by
  unfold HoldoutRequest.valid
  infer_instance

/-- The checks that `request_holdout` makes before it reads the history. -/
def checkRequest (r : HoldoutRequest) : Except Raised Unit := do
  safeId "request_id" r.requestId
  text "purpose" r.purpose
  validateQualificationChain py r.qualification r.qualificationPredecessors
  g.journal.trust.requireApproval r.approval r.plan
  raiseIf (r.approval.operation ≠ "S4_08_HOLDOUT_ACCESS")
    (.governance "approval operation does not authorize holdout")

/-- The event is an authorized access to the dataset of the plan. -/
def isAuthorization (plan : FrozenResearchPlan) (e : JournalEvent) : Prop :=
  e.kind = .holdoutAuthorized ∧ ("dataset=" ++ plan.datasetId) ∈ e.details

instance (plan : FrozenResearchPlan) (e : JournalEvent) : Decidable (isAuthorization plan e) := by
  unfold isAuthorization
  infer_instance

/-- The decision on a request and its reasons, from the events of the plan's lineage. -/
def HoldoutRequest.decide (r : HoldoutRequest) (events : List JournalEvent) : HoldoutDecision × List String :=
  if ∃ e ∈ events, isAuthorization r.plan e then
    (.repeatedAccess, ["independent confirmatory exposure already consumed"])
  else if ¬ r.valid then (.unauthorizedAccess, ["holdout access policy not satisfied"])
  else (.authorizedAccess, [])

/-- What `request_holdout` asks `_append` to add. -/
def HoldoutRequest.proposal (r : HoldoutRequest) (decision : HoldoutDecision) (reasons : List String) : Proposal where
  eventId := "holdout:" ++ r.requestId
  kind := if decision = .authorizedAccess then .holdoutAuthorized else .holdoutRejected
  experimentId := r.plan.experimentId
  runId := none
  plan := r.plan
  disposition := decision.value
  reasons := reasons
  details := ["dataset=" ++ r.plan.datasetId, "version=" ++ r.plan.datasetVersion,
    "partition=" ++ r.plan.partitionRole.value, "purpose=" ++ r.purpose]

/-- `HoldoutAccessRecord`. -/
structure HoldoutAccessRecord where
  decision : HoldoutDecision
  disclose : Bool
  event : JournalEvent
  assuranceMode : AssuranceMode

/-- `request_holdout`. -/
def requestHoldout (r : HoldoutRequest) : Action HoldoutAccessRecord := do
  Action.lift (g.checkRequest py r)
  let events ← g.planEvents py r.plan
  let (decision, reasons) := r.decide events
  let event ← (r.proposal decision reasons).append py
  return ⟨decision, false, event, g.journal.trust.assuranceMode⟩

/-- The checks of `consume_holdout`, of the history that was read. -/
def checkConsumption (plan : FrozenResearchPlan) (authorization : JournalEvent) (events : List JournalEvent) :
    Except Raised Unit := do
  raiseIf (∃ e ∈ events, e.kind = .holdoutConsumed ∧
      ("authorization_event_digest=" ++ authorization.contentDigest) ∈ e.details)
    (.governance "holdout authorization already consumed")
  raiseIf (authorization.kind ≠ .holdoutAuthorized ∨
      authorization.disposition ≠ HoldoutDecision.authorizedAccess.value ∨
      authorization.planDigest ≠ plan.planDigest ∨ authorization ∉ events)
    (.governance "holdout authorization is invalid")
  g.journal.requireCheckpointed events
  raiseIf (¬ ∃ checkpoint ∈ g.journal.checkpoint, checkpoint.acceptedSequence = authorization.sequence ∧
      checkpoint.terminalDigest = some authorization.contentDigest)
    (.governance "checkpoint does not bind the exact holdout authorization")

/-- `consume_holdout`. -/
def consumeHoldout (plan : FrozenResearchPlan) (authorization : JournalEvent) : Action HoldoutAccessRecord := do
  let events ← Action.history .governor
  Action.lift (g.checkConsumption plan authorization events)
  let details ← Action.lift (detailMap authorization)
  let event ← Proposal.append py {
    eventId := "holdout-consumption:" ++ authorization.eventId
    kind := .holdoutConsumed
    experimentId := plan.experimentId
    runId := none
    plan := plan
    disposition := "CONSUMED_NO_DELIVERY"
    reasons := ["production delivery not established"]
    details := ["authorization_event_digest=" ++ authorization.contentDigest,
      "authorization_event_id=" ++ authorization.eventId, "dataset=" ++ detail "dataset" details,
      "partition=" ++ detail "partition" details, "version=" ++ detail "version" details] }
  return ⟨.authorizedAccess, false, event, g.journal.trust.assuranceMode⟩

/-- `record_contamination`. -/
def recordContamination (plan : FrozenResearchPlan) (contaminationId : String) (reasons : List String) :
    Action JournalEvent := do
  let _ ← g.lineage py plan
  Action.lift (uniqueText "reasons" reasons)
  Action.lift (raiseIf (reasons = []) (.governance "contamination requires reasons"))
  Action.lift (safeId "contamination_id" contaminationId)
  Proposal.append py {
    eventId := "contamination:" ++ contaminationId
    kind := .contaminationRecorded
    experimentId := plan.experimentId
    runId := none
    plan := plan
    disposition := "CONTAMINATED_EVIDENCE"
    reasons := reasons
    details := [] }

/-! ## Assessment -/

inductive EvidenceState where
  | technicallyValidEvidence
  | eligibleConfirmatoryEvidence
  | ineligibleEvidence
deriving DecidableEq

/-- `EvidenceEligibility`, without its constant fields. -/
structure EvidenceEligibility where
  state : EvidenceState
  reasons : List String
  assuranceMode : AssuranceMode
deriving DecidableEq

/-- `if c: reasons.append(reason)`. -/
def reasonIf (c : Prop) [Decidable c] (reason : String) : List String := if c then [reason] else []

/-- What a caller of `assess_evidence` gives. -/
structure Assessment where
  plan : FrozenResearchPlan
  manifest : ResearchEvidenceManifest
  qualification : DatasetQualification
  qualificationPredecessors : List DatasetQualification
  reconciliation : ReconciliationResult Decimal
  pitEvidence : PitEligibilityEvidence

namespace Assessment

variable (a : Assessment)

/-- The validation of the evidence, before the history is read again. -/
def validate : Except Raised Unit := do
  a.manifest.validate py
  validateQualificationChain py a.qualification a.qualificationPredecessors
  a.pitEvidence.validate rules a.plan a.qualification a.manifest
  let _ ← (requirePerformance a.reconciliation).mapError
    fun _ => .governance "S4-06 performance truth is not established"

/-- The admission of the assessed run among the events of the plan's lineage. -/
def admission? (events : List JournalEvent) : Option JournalEvent :=
  events.find? fun e => e.kind = .trialAdmitted ∧ e.runId = some a.manifest.runId.value

/-- `reasons`, from the details of the admission. -/
def reasons (events : List JournalEvent) (details : List (String × String)) (reconciliationIdentity : String) :
    List String :=
  reasonIf (a.manifest.hypothesisId ≠ a.plan.hypothesisId) "hypothesis mismatch" ++
  reasonIf (a.manifest.experimentId ≠ a.plan.experimentId) "experiment mismatch" ++
  reasonIf (Dict.get? "reproducibility" details ≠ some a.manifest.reproducibility.digest)
    "run reproducibility mismatch" ++
  reasonIf (Dict.get? "replay_of" details ≠ some ((a.manifest.replayOf.map ResearchRunId.value).getD "none"))
    "replay identity mismatch" ++
  reasonIf (a.manifest.disposition ≠ .valid) "research evidence is not VALID" ++
  reasonIf (a.manifest.reproducibility.authoritative = false) "source identity is not authoritative" ++
  reasonIf (a.qualification.datasetId ≠ a.plan.datasetId ∨ a.qualification.datasetVersion ≠ a.plan.datasetVersion)
    "dataset qualification substitution" ++
  reasonIf (a.qualification.lifecycle ≠ .current) "dataset qualification is not current" ++
  reasonIf (a.reconciliation.state ≠ .reconciled ∨ a.reconciliation.performance = none)
    "financial evidence is not reconciled" ++
  reasonIf (reconciliationIdentity ∉ a.manifest.outputIdentities)
    "financial evidence is not bound to research run" ++
  reasonIf (¬ ∃ e ∈ events, e.kind = .trialCompleted ∧ e.runId = some a.manifest.runId.value)
    "trial is not completed"

/-- `confirmatory_reasons`. -/
def confirmatoryReasons (events : List JournalEvent) : List String :=
  reasonIf (permitsClaim a.qualification .economicValidation = false)
    "G3 economic-validation qualification required" ++
  reasonIf ((events.filter fun e => e.kind = .holdoutConsumed).length ≠ 1)
    "exactly one checkpointed holdout consumption required" ++
  reasonIf (∃ e ∈ events, e.kind = .holdoutRejected) "repeated or unauthorized holdout access recorded" ++
  reasonIf (∃ e ∈ events, e.kind = .contaminationRecorded) "confirmation lineage is contaminated" ++
  reasonIf (a.plan.partitionRole ≠ .protectedHoldout) "protected holdout partition required"

/-- The state and its reasons, from the events of the plan's lineage. -/
def conclude (events : List JournalEvent) : Except Raised (EvidenceState × List String) := do
  let details ← match a.admission? events with
    | some admission => detailMap admission
    | none => pure []
  let identity ← reconciliationEvidenceIdentity py a.manifest.runId a.reconciliation
  let reasons := a.reasons events details identity
  if reasons ≠ [] then return (.ineligibleEvidence, reasons)
  else
    let confirmatory := a.confirmatoryReasons events
    if confirmatory ≠ [] then return (.technicallyValidEvidence, confirmatory)
    else return (.eligibleConfirmatoryEvidence, [])

end Assessment

/-- `assess_evidence`. -/
def assessEvidence (a : Assessment) : Action EvidenceEligibility := do
  let history ← Action.history .governor
  Action.lift (g.journal.requireCheckpointed history)
  Action.lift (a.validate py rules)
  let events ← g.planEvents py a.plan
  let (state, reasons) ← Action.lift (a.conclude py events)
  return ⟨state, reasons, g.journal.trust.assuranceMode⟩

end ResearchGovernor

/-! ## Histories of calls -/

/-- A plan that its constructor returned. -/
abbrev FrozenPlan (py : Platform) := { plan : FrozenResearchPlan // plan.Constructed py }

/-- A call of an operation that writes, or a restart: a new journal object over the
directory, whose constructor recovers the history. -/
inductive Operation (py : Platform) where
  | restart
  | acceptPlan (plan : FrozenPlan py) (approval : ApprovalEvidence)
  | admitRun (plan : FrozenPlan py) (run : ResearchRun)
  | transition (plan : FrozenPlan py) (runId : ResearchRunId) (target : TrialState) (reasons : List String)
  | requestHoldout (request : ResearchGovernor.HoldoutRequest) (constructed : request.plan.Constructed py)
  | consumeHoldout (plan : FrozenPlan py) (authorization : JournalEvent)
  | recordContamination (plan : FrozenPlan py) (contaminationId : String) (reasons : List String)

variable {py : Platform}

/-- The operation as a governor runs it, with the event that it returns. -/
def Operation.action (g : ResearchGovernor) : Operation py → Action (Option JournalEvent)
  | .restart => (fun _ => none) <$> Action.history .governor
  | .acceptPlan plan approval => some <$> g.acceptPlan py plan approval
  | .admitRun plan run => some <$> g.admitRun py plan run
  | .transition plan runId target reasons => some <$> g.transition py plan runId target reasons
  | .requestHoldout request _ => (fun record => some record.event) <$> g.requestHoldout py request
  | .consumeHoldout plan authorization => (fun record => some record.event) <$> g.consumeHoldout py plan authorization
  | .recordContamination plan contaminationId reasons => some <$> g.recordContamination py plan contaminationId reasons

/-- A call, and the governor that makes it. -/
structure Step (py : Platform) where
  governor : ResearchGovernor
  operation : Operation py

/-- What the call does while nobody else writes: what it returns or raises, and the directory
after it. -/
def Step.perform (step : Step py) (disk : Disk) : Except Raised (Option JournalEvent) × Disk :=
  (step.operation.action step.governor).run.eval (Disk.answer py) disk

/-- The directory, and the events that calls have returned, each once, in the order in which
they were first returned. -/
structure History where
  disk : Disk
  accepted : List JournalEvent

def History.empty : History := ⟨.empty, []⟩

/-- The accepted events after the outcome of a call. -/
def accept (accepted : List JournalEvent) : Except Raised (Option JournalEvent) → List JournalEvent
  | .ok (some event) => if event ∈ accepted then accepted else accepted ++ [event]
  | _ => accepted

/-- The history after a call. -/
def History.after (h : History) (step : Step py) : History :=
  ⟨(step.perform h.disk).2, accept h.accepted (step.perform h.disk).1⟩

/-! ## Interleavings of governors -/

/-- The directory, and the history that each governor read last before it called `_append`. -/
structure Shared (T : Type) where
  disk : Disk
  saw : T → List JournalEvent

/-- The shared state after a call of a governor. -/
def Shared.after {T : Type} [DecidableEq T] (s : Shared T) (t : T) (c : Call) (disk : Disk) : Shared T where
  disk := disk
  saw :=
    match c with
    | .recover .governor =>
      match recover py s.disk with
      | .ok events => Function.update s.saw t events
      | .error _ => s.saw
    | _ => s.saw

/-- Governors that share the directory. -/
def governors (py : Platform) (T : Type) [DecidableEq T] : Calls.System T (Shared T) Unit Empty Call Reply where
  answer t s c _ := some ((s.disk.answer py c).1, @Shared.after py _ _ s t c (s.disk.answer py c).2)
  other _ e := e.elim

/-- What a governor does: calls, one after the other, whatever they return or raise. -/
def session : List (Step py) → Program Call Reply Unit
  | [] => .ret ()
  | step :: steps => (step.operation.action step.governor).run.bind fun _ => session steps

end ATB.Governance
