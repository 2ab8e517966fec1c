import AutomatedTradingBot.Source.Calendars
import AutomatedTradingBot.Source.Governance.Plan
import AutomatedTradingBot.Source.Portfolio

/-!
# The evidence that governance reads

Dataset qualifications (`research/dataset_qualification.py`), research evidence manifests
(`research/evidence.py`), the identity of a reconciliation, and point-in-time evidence,
with the functions of `research/research_governance.py` that rebuild each of them.

Of a reproducibility record a manifest holds what is read of it: its digest and whether
its source is authoritative. What `create_feature_observation` and
`assess_decision_input` make of point-in-time evidence is a parameter. The exceptions of
the three modules are subclasses of `ValueError`.
-/

namespace ATB.Governance

open Calendars (LocalDate)

/-- An exception of a module that governance calls. -/
def valueError (message : String) : Raised := .python ⟨.valueError, message⟩

/-! ## Dataset qualifications -/

inductive AssessmentState where
  | pass
  | restricted
  | fail
  | unknown
  | notApplicable
deriving DecidableEq

def AssessmentState.value : AssessmentState → String
  | .pass => "PASS"
  | .restricted => "RESTRICTED"
  | .fail => "FAIL"
  | .unknown => "UNKNOWN"
  | .notApplicable => "NOT_APPLICABLE"

inductive QualificationLevel where
  | g0
  | g1
  | g2
  | g3
deriving DecidableEq

def QualificationLevel.name : QualificationLevel → String
  | .g0 => "G0"
  | .g1 => "G1"
  | .g2 => "G2"
  | .g3 => "G3"

/-- `QualificationLevel(level - 1)`. -/
def QualificationLevel.previous : QualificationLevel → QualificationLevel
  | .g0 | .g1 => .g0
  | .g2 => .g1
  | .g3 => .g2

inductive ClaimCeiling where
  | contractOnly
  | engineeringOnly
  | exploratoryResearch
  | economicValidation
deriving DecidableEq

/-- `order.index(ceiling)`. -/
def ClaimCeiling.rank : ClaimCeiling → Nat
  | .contractOnly => 0
  | .engineeringOnly => 1
  | .exploratoryResearch => 2
  | .economicValidation => 3

/-- `CEILINGS[level]`. -/
def QualificationLevel.ceiling : QualificationLevel → ClaimCeiling
  | .g0 => .contractOnly
  | .g1 => .engineeringOnly
  | .g2 => .exploratoryResearch
  | .g3 => .economicValidation

inductive QualificationLifecycle where
  | current
  | invalidated
  | superseded
deriving DecidableEq

def dimensions : List String :=
  ["Q01_IDENTITY", "Q02_PROVENANCE", "Q03_COVERAGE", "Q04_QUALITY_QUARANTINE", "Q05_CURRENTNESS",
    "Q06_INSTRUMENT_CALENDAR", "Q07_PIT_KNOWLEDGE_TIME", "Q08_SURVIVORSHIP_HISTORICAL_UNIVERSE",
    "Q09_CORPORATE_ACTIONS", "Q10_DELISTING_TERMINAL_TREATMENT"]

/-- `_ID.fullmatch(value)` of a text that is an identity. -/
def isIdentity (value : String) : Bool := Datasets.isIdentity (Text.chars value)

structure QualificationPolicy where
  policyId : String
  version : String
  evidenceRef : String
  policyId_identity : isIdentity policyId = true
  version_identity : isIdentity version = true
  evidenceRef_identity : isIdentity evidenceRef = true
deriving DecidableEq

structure DimensionAssessment where
  dimension : String
  state : AssessmentState
  evidenceRefs : List String
  reasons : List String
  known : dimension ∈ dimensions
  evidenceRefs_nonempty : evidenceRefs ≠ []
  evidenceRefs_nodup : evidenceRefs.Nodup
  evidenceRefs_identity : ∀ ref ∈ evidenceRefs, isIdentity ref = true
  explained : state ≠ .pass → reasons ≠ []
deriving DecidableEq

structure EligibleCoverage where
  start : LocalDate
  stop : LocalDate
  ordered : start.key ≤ stop.key
deriving DecidableEq

structure DatasetQualification where
  qualificationId : String
  datasetId : String
  datasetVersion : String
  manifestDigest : String
  provenanceDigest : String
  policy : QualificationPolicy
  level : QualificationLevel
  claimCeiling : ClaimCeiling
  assessments : List DimensionAssessment
  coverage : EligibleCoverage
  limitations : List String
  predecessorQualificationId : Option String
  lifecycle : QualificationLifecycle
  invalidationReasons : List String
  supersededBy : Option String
deriving DecidableEq

/-- `permits_claim`. -/
def permitsClaim (q : DatasetQualification) (requested : ClaimCeiling) : Bool :=
  decide (q.lifecycle = .current) && decide (requested.rank ≤ q.claimCeiling.rank)

section Qualify

variable (py : Platform)

/-- `_descriptive_text`. -/
def descriptiveText (name value : String) : Except Raised Unit :=
  raiseIf (value = "" ∨ Text.strip (Text.chars value) ≠ Text.chars value ∨ ¬ py.isNfc value)
    (valueError (name ++ " must be nonempty canonical text"))

/-- `_text` of `dataset_qualification.py`. -/
def qualificationText (name value : String) : Except Raised Unit :=
  raiseIf (isIdentity value = false) (valueError (name ++ " must be a canonical attributable identity"))

/-- `_digest` of `dataset_qualification.py`. -/
def qualificationDigest (name value : String) : Except Raised Unit := do
  qualificationText name value
  raiseIf (isDigest value = false) (valueError (name ++ " must be SHA-256"))

/-- The check of the predecessor of a qualification: its identity. -/
def checkPredecessor (datasetId datasetVersion : String) (level : QualificationLevel) :
    Option DatasetQualification → Except Raised (Option String)
  | none => do
    raiseIf (level ≠ .g1) (valueError "qualification level skipping is prohibited")
    return none
  | some predecessor => do
    raiseIf (predecessor.lifecycle ≠ .current) (valueError "current predecessor required")
    raiseIf (predecessor.datasetId ≠ datasetId ∨ predecessor.datasetVersion ≠ datasetVersion)
      (valueError "predecessor dataset substitution")
    raiseIf (predecessor.level ≠ level.previous) (valueError "qualification level skipping is prohibited")
    return some predecessor.qualificationId

/-- The check of one of the dimensions that count. -/
def checkMaterial (a : DimensionAssessment) : Except Raised Unit := do
  raiseIf (a.state = .fail ∨ a.state = .unknown) (valueError ("material " ++ a.state.value ++ " prohibits qualification"))
  raiseIf (a.state = .notApplicable) (valueError "material dimension cannot be NOT_APPLICABLE")

/-- `_assessment_body`. -/
def assessmentBody (a : DimensionAssessment) : Json :=
  .obj [("dimension", .str a.dimension), ("evidence_refs", .arr (a.evidenceRefs.map .str)),
    ("reasons", .arr (a.reasons.map .str)), ("state", .str a.state.value)]

/-- What a caller of `qualify_dataset` gives. -/
structure QualificationRequest where
  datasetId : String
  datasetVersion : String
  manifestDigest : String
  provenanceDigest : String
  policy : QualificationPolicy
  level : QualificationLevel
  assessments : List DimensionAssessment
  coverage : EligibleCoverage
  limitations : List String

/-- The assessments in the order of their dimensions. -/
def QualificationRequest.sortedAssessments (q : QualificationRequest) : List DimensionAssessment :=
  q.assessments.insertionSort fun a b => dimensions.idxOf a.dimension ≤ dimensions.idxOf b.dimension

/-- The body that a qualification's identity is hashed from. -/
def QualificationRequest.body (q : QualificationRequest) (predecessorId : Option String) : Json :=
  .obj [("assessments", .arr (q.sortedAssessments.map assessmentBody)),
    ("coverage", .obj [("end", .str q.coverage.stop.isoformat), ("start", .str q.coverage.start.isoformat)]),
    ("dataset_id", .str q.datasetId),
    ("dataset_version", .str q.datasetVersion),
    ("level", .str q.level.name),
    ("limitations", .arr (q.limitations.map .str)),
    ("manifest_digest", .str q.manifestDigest),
    ("policy", .obj [("id", .str q.policy.policyId), ("version", .str q.policy.version)]),
    ("predecessor", .ofOption .str predecessorId),
    ("provenance_digest", .str q.provenanceDigest)]

/-- `qualify_dataset`. -/
def qualifyDataset (q : QualificationRequest) (predecessor : Option DatasetQualification) :
    Except Raised DatasetQualification := do
  qualificationText "dataset_id" q.datasetId
  qualificationText "dataset_version" q.datasetVersion
  qualificationDigest "manifest_digest" q.manifestDigest
  qualificationDigest "provenance_digest" q.provenanceDigest
  raiseIf (q.level = .g0) (valueError "G0 is the contract state, not a dataset qualification")
  let predecessorId ← checkPredecessor q.datasetId q.datasetVersion q.level predecessor
  raiseIf (¬ (q.assessments.map DimensionAssessment.dimension).Perm dimensions)
    (valueError "exactly ten unique dimension assessments are required")
  let material := q.sortedAssessments.take (if q.level = .g1 then 6 else 10)
  material.forM checkMaterial
  raiseIf (q.level = .g3 ∧ ∃ a ∈ q.sortedAssessments, a.state ≠ .pass) (valueError "G3 requires all dimensions PASS")
  raiseIf ((∃ a ∈ material, a.state = .restricted) ∧ q.limitations = [])
    (valueError "restricted qualification requires limitations")
  raiseIf (¬ q.limitations.Nodup) (valueError "limitations must be a unique tuple")
  q.limitations.forM (descriptiveText py "limitation")
  let identity ← Raised.ofOutcome (py.digest "ATIS-S4-02-QUALIFICATION-V1" (q.body predecessorId))
  return {
    qualificationId := "atis:research:dataset-qualification:v1:" ++ identity
    datasetId := q.datasetId
    datasetVersion := q.datasetVersion
    manifestDigest := q.manifestDigest
    provenanceDigest := q.provenanceDigest
    policy := q.policy
    level := q.level
    claimCeiling := q.level.ceiling
    assessments := q.sortedAssessments
    coverage := q.coverage
    limitations := q.limitations
    predecessorQualificationId := predecessorId
    lifecycle := .current
    invalidationReasons := []
    supersededBy := none }

/-- What a qualification says it was made from. -/
def DatasetQualification.request (q : DatasetQualification) : QualificationRequest :=
  ⟨q.datasetId, q.datasetVersion, q.manifestDigest, q.provenanceDigest, q.policy, q.level, q.assessments, q.coverage,
    q.limitations⟩

/-- One iteration of `_validate_qualification_chain`. -/
def rebuildQualification (current : Option DatasetQualification) (supplied : DatasetQualification) :
    Except Raised (Option DatasetQualification) := do
  let rebuilt ← qualifyDataset py supplied.request current
  raiseIf (rebuilt ≠ supplied) (.governance "dataset qualification identity is invalid")
  return some supplied

/-- `_validate_qualification_chain`. -/
def validateQualificationChain (qualification : DatasetQualification) (predecessors : List DatasetQualification) :
    Except Raised Unit := do
  let _ ← (predecessors ++ [qualification]).foldlM (rebuildQualification py) none

end Qualify

/-! ## Manifests -/

inductive EvidenceDisposition where
  | valid
  | invalid
  | unknown
  | failed
  | rejected
deriving DecidableEq

def EvidenceDisposition.value : EvidenceDisposition → String
  | .valid => "VALID"
  | .invalid => "INVALID"
  | .unknown => "UNKNOWN"
  | .failed => "FAILED"
  | .rejected => "REJECTED"

/-- What is read of a `ReproducibilityRecord`. -/
structure ReproducibilityRecord where
  digest : String
  authoritative : Bool
deriving DecidableEq

structure ResearchEvidenceManifest where
  projectId : ResearchProjectId
  hypothesisId : HypothesisId
  experimentId : ExperimentId
  runId : ResearchRunId
  reproducibility : ReproducibilityRecord
  inputIdentities : List String
  outputIdentities : List String
  replayOf : Option ResearchRunId
  disposition : EvidenceDisposition
  reasons : List String
  authority : String
  manifestDigest : String
deriving DecidableEq

namespace ResearchEvidenceManifest

/-- The check of one of the three tuples of `create`. -/
def checkTexts (values : List String) (name : String) : Except Raised Unit := do
  raiseIf (¬ values.Nodup) (valueError (name ++ " must be a unique tuple"))
  raiseIf (∃ v ∈ values, v = "" ∨ Text.strip (Text.chars v) ≠ Text.chars v)
    (valueError (name ++ " contains an invalid value"))

def body (m : ResearchEvidenceManifest) : Json :=
  .obj [("authority", .str m.authority),
    ("disposition", .str m.disposition.value),
    ("experiment_id", .str m.experimentId.value),
    ("hypothesis_id", .str m.hypothesisId.value),
    ("inputs", .arr (m.inputIdentities.map .str)),
    ("outputs", .arr (m.outputIdentities.map .str)),
    ("project_id", .str m.projectId.value),
    ("replay_of", .ofOption (fun r => .str r.value) m.replayOf),
    ("reproducibility_digest", .str m.reproducibility.digest),
    ("run_id", .str m.runId.value),
    ("reasons", .arr (m.reasons.map .str))]

variable (py : Platform)

/-- The digest that `create` gives to a manifest of these fields. -/
def digest (m : ResearchEvidenceManifest) : Except Raised String := do
  raiseIf (m.authority ≠ "RESEARCH_ONLY_NO_TRADING_AUTHORITY") (valueError "trading authority is prohibited")
  checkTexts m.inputIdentities "inputs"
  checkTexts m.outputIdentities "outputs"
  checkTexts m.reasons "reasons"
  if m.disposition = .valid then
    raiseIf (m.reproducibility.authoritative = false) (valueError "VALID evidence requires a clean source")
    raiseIf (m.reasons ≠ []) (valueError "VALID evidence cannot carry failure reasons")
  else
    raiseIf (m.reasons = []) (valueError "non-VALID evidence requires reasons")
  Raised.ofOutcome (py.digest "ATIS-S4-01-RESEARCH-EVIDENCE-V1" m.body)

/-- `_validate_manifest`. -/
def validate (m : ResearchEvidenceManifest) : Except Raised Unit := do
  let digest ← m.digest py
  raiseIf ({ m with manifestDigest := digest } ≠ m) (.governance "research evidence manifest identity is invalid")

end ResearchEvidenceManifest

/-! ## Reconciliations -/

/-- The amounts of a performance, in the order in which they are bound. -/
def numeric (p : PerformanceTruth Decimal) : List Decimal :=
  [p.grossPnl, p.executionCostDrag.commissionFees, p.executionCostDrag.bidAskSpread, p.executionCostDrag.slippage,
    p.executionCostDrag.marketImpact, p.executionCostDrag.additionalFriction, p.netPnl, p.realisedPnl, p.unrealisedPnl,
    p.portfolioValue, p.turnover]

def reconciliationStateValue : ReconciliationState → String
  | .reconciled => "RECONCILED"
  | .discrepancy => "DISCREPANCY"
  | .invalidOrUnknown => "INVALID_OR_UNKNOWN"

/-- `reconciliation_evidence_identity`. -/
def reconciliationEvidenceIdentity (py : Platform) (runId : ResearchRunId) (result : ReconciliationResult Decimal) :
    Except Raised String := do
  let performance ← Raised.ofOutcome (requirePerformance result)
  raiseIf ((performance.netPnl == performance.grossPnl - performance.executionCostDrag.total) = false)
    (.governance "S4-06 performance arithmetic is inconsistent")
  let digest ← Raised.ofOutcome (py.digest "ATIS-S4-08-S4-06-BINDING-V1"
    (.obj [("authority", .str result.authority),
      ("performance", .arr ((numeric performance).map fun d => .str d.str)),
      ("run_id", .str runId.value),
      ("state", .str (reconciliationStateValue result.state))]))
  return "reconciliation:" ++ digest

/-! ## Point-in-time evidence -/

/-- `PitEligibilityEvidence`, as far as governance reads it itself. -/
structure PitEligibilityEvidence where
  researchRunId : ResearchRunId
  configurationDigest : String
  observationId : String
  inputIds : List String

/-- What `create_feature_observation` and `assess_decision_input` make of the evidence:
whether the observation is rebuilt, and whether the eligibility is and is eligible. -/
structure PitRules where
  observationRebuilt : PitEligibilityEvidence → DatasetQualification → Except Raised Bool
  eligible : PitEligibilityEvidence → DatasetQualification → Except Raised Bool

/-- `PitEligibilityEvidence.validate`. -/
def PitEligibilityEvidence.validate (rules : PitRules) (e : PitEligibilityEvidence) (plan : FrozenResearchPlan)
    (qualification : DatasetQualification) (manifest : ResearchEvidenceManifest) : Except Raised Unit := do
  raiseIf (e.researchRunId ≠ manifest.runId) (.governance "S4-03 PIT evidence run substitution")
  raiseIf (e.configurationDigest ≠ plan.configurationDigest) (.governance "S4-03 feature configuration substitution")
  raiseIf ((← rules.observationRebuilt e qualification) = false) (.governance "S4-03 observation identity is invalid")
  raiseIf ((← rules.eligible e qualification) = false) (.governance "S4-03 PIT eligibility is not established")
  raiseIf (¬ ∀ i ∈ e.observationId :: e.inputIds, i ∈ manifest.inputIdentities)
    (.governance "S4-03 PIT evidence is not bound to manifest")

end ATB.Governance
