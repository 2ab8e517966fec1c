import AutomatedTradingBot.Source.Governance.Governor

/-!
# Admitted trials

`ResearchRun.create` of `research/identity.py`, and `ResearchGovernor.require_admitted`, by which
a strategy checks that its run is a trial that was admitted and has not moved on.
-/

namespace ATB.Governance

/-- `ResearchRun.create`. -/
def ResearchRun.create (py : Platform) (experimentId : ExperimentId) (reproducibilityDigest : String)
    (replayOf : Option ResearchRunId) : Outcome ResearchRun := do
  raiseIf (isDigest reproducibilityDigest = false) ⟨.researchIdentityError, "reproducibility_digest must be SHA-256"⟩
  let value ← derive py "run" "ATIS-S4-01-RUN-V1"
    (.obj [("experiment_id", .str experimentId.value), ("replay_of", .ofOption (fun r => .str r.value) replayOf),
      ("reproducibility_digest", .str reproducibilityDigest)])
  let identity ← ResearchRunId.make value
  raiseIf (replayOf = some identity) ⟨.researchIdentityError, "a run cannot replay itself"⟩
  return ⟨identity, experimentId, reproducibilityDigest, replayOf⟩

namespace ResearchGovernor

variable (py : Platform) (g : ResearchGovernor)

/-- The admissions of a run. -/
def admissionsOfRun (runId : ResearchRunId) (events : List JournalEvent) : List JournalEvent :=
  events.filter fun e => e.kind = .trialAdmitted ∧ e.runId = some runId.value

/-- The details that the admission of a run must have. -/
def expectedDetails (plan : FrozenResearchPlan) (run : ResearchRun) : List (String × String) :=
  [("maximum", natText plan.maximumAdmittedTrials), ("replay_of", (run.replayOf.map ResearchRunId.value).getD "none"),
    ("reproducibility", run.reproducibilityDigest)]

/-- `details == expected`. -/
def sameDetails (details expected : List (String × String)) : Prop :=
  details.length = expected.length ∧ ∀ d ∈ expected, Dict.get? d.1 details = some d.2

instance (details expected : List (String × String)) : Decidable (sameDetails details expected) :=
  inferInstanceAs (Decidable (_ ∧ _))

/-- The event admits the run under the plan. -/
def binds (plan : FrozenResearchPlan) (run : ResearchRun) (details : List (String × String)) (e : JournalEvent) : Prop :=
  e.eventId = "trial:" ++ run.runId.value ++ ":admitted" ∧ e.experimentId = plan.experimentId.value ∧
    e.planDigest = plan.planDigest ∧ e.policyIdentity = plan.policyIdentity ∧
    e.approvalReference = plan.ownerApprovalReference ∧ e.disposition = TrialState.admitted.value ∧ e.reasons = [] ∧
    sameDetails details (expectedDetails plan run)

instance (plan : FrozenResearchPlan) (run : ResearchRun) (details : List (String × String)) (e : JournalEvent) :
    Decidable (binds plan run details e) :=
  inferInstanceAs (Decidable (_ ∧ _ ∧ _ ∧ _ ∧ _ ∧ _ ∧ _ ∧ _))

/-- The one admission of a run. -/
def onlyAdmission (runId : ResearchRunId) (events : List JournalEvent) : Except Raised JournalEvent :=
  match admissionsOfRun runId events with
  | [event] => .ok event
  | _ => .error (.governance "exactly one attributable trial admission is required")

/-- The checks of a run before the history is read. -/
def checkRun (plan : FrozenResearchPlan) (run : ResearchRun) : Except Raised Unit := do
  let rebuilt ← Raised.ofOutcome (ResearchRun.create py run.experimentId run.reproducibilityDigest run.replayOf)
  raiseIf (rebuilt ≠ run) (.governance "research run identity is invalid")
  raiseIf (run.experimentId ≠ plan.experimentId) (.governance "experiment substitution")
  raiseIf (g.journal.trust.assuranceMode ≠ .engineeringSimulation)
    (.governance "engineering admission assurance is NOT_ESTABLISHED")

/-- `require_admitted`. -/
def requireAdmitted (plan : FrozenResearchPlan) (run : ResearchRun) : Action JournalEvent := do
  Action.lift (g.checkRun py plan run)
  let lineage ← g.lineage py plan
  let events ← Action.history .governor
  Action.lift (g.journal.requireCheckpointed events)
  let event ← Action.lift (onlyAdmission run.runId events)
  let details ← Action.lift (detailMap event)
  Action.lift (raiseIf (¬ binds plan run details event) (.governance "trial admission binding is invalid"))
  let state ← g.trialState py run.runId
  Action.lift (raiseIf (state ≠ some .admitted) (.governance "trial admission binding is invalid"))
  Action.lift (raiseIf
    (plan.maximumAdmittedTrials < (events.filter fun e =>
      e.kind = .trialAdmitted ∧ e.planDigest ∈ lineage.map FrozenResearchPlan.planDigest).length)
    (.governance "cumulative search budget is invalid"))
  return event

end ResearchGovernor

end ATB.Governance
