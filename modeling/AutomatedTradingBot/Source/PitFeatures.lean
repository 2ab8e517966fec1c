import AutomatedTradingBot.Source.Governance.Evidence

/-!
# Point-in-time features

`research/pit_features.py`: feature definitions, the observation of a feature, and
whether it can be used for a decision. What the annotations and the type checks demand
is in the types; a `FeatureContractError` is a `ValueError`.
-/

namespace ATB.PitFeatures

open Governance
open Calendars (LocalDate)

inductive MissingDataPolicy where
  | reject
  | explicitMissing
deriving DecidableEq

def MissingDataPolicy.value : MissingDataPolicy → String
  | .reject => "REJECT"
  | .explicitMissing => "EXPLICIT_MISSING"

inductive AvailabilityPolicy where
  | atKnowledge
  | afterEvent
deriving DecidableEq

def AvailabilityPolicy.value : AvailabilityPolicy → String
  | .atKnowledge => "AT_KNOWLEDGE"
  | .afterEvent => "AFTER_EVENT"

inductive InputState where
  | valid
  | missing
  | stale
  | conflicting
  | invalid
deriving DecidableEq

def InputState.value : InputState → String
  | .valid => "VALID"
  | .missing => "MISSING"
  | .stale => "STALE"
  | .conflicting => "CONFLICTING"
  | .invalid => "INVALID"

/-- `_identity`. -/
def identity (name value : String) : Except Raised Unit :=
  raiseIf (isIdentity value = false) (valueError (name ++ " must be a canonical identity"))

/-- `_digest`. -/
def digest (name value : String) : Except Raised Unit :=
  raiseIf (isDigest value = false) (valueError (name ++ " must be a SHA-256 digest"))

/-! ## Definitions -/

structure FeatureDefinition where
  featureId : String
  version : String
  algorithmId : String
  configurationDigest : String
  requiredInputs : List String
  lookback : Int
  minimumHistory : Int
  missingDataPolicy : MissingDataPolicy
  availabilityPolicy : AvailabilityPolicy
  outputSemantics : String
deriving DecidableEq

/-- The body of a definition. -/
def FeatureDefinition.body (d : FeatureDefinition) : Json := .obj
  [("algorithm_id", .str d.algorithmId), ("availability_policy", .str d.availabilityPolicy.value),
    ("configuration_digest", .str d.configurationDigest), ("lookback", .int d.lookback),
    ("minimum_history", .int d.minimumHistory), ("missing_data_policy", .str d.missingDataPolicy.value),
    ("output_semantics", .str d.outputSemantics), ("required_inputs", .arr (d.requiredInputs.map .str)),
    ("version", .str d.version)]

/-- `FeatureDefinition.create`, of the fields but the identity. -/
def FeatureDefinition.create (py : Platform) (d : FeatureDefinition) : Except Raised FeatureDefinition := do
  identity "version" d.version
  identity "algorithm_id" d.algorithmId
  digest "configuration_digest" d.configurationDigest
  identity "output_semantics" d.outputSemantics
  raiseIf (d.requiredInputs = [] ∨ ¬ d.requiredInputs.Nodup)
    (valueError "required_inputs must be a nonempty unique tuple")
  d.requiredInputs.forM (identity "required_input")
  raiseIf (d.lookback < 1 ∨ d.minimumHistory < 1 ∨ d.lookback < d.minimumHistory)
    (valueError "invalid lookback or minimum history")
  let derived ← Raised.ofOutcome (py.digest "ATIS-S4-03-FEATURE-DEFINITION-V1" d.body)
  return { d with featureId := "atis:research:feature:v1:" ++ derived }

/-! ## Observations -/

structure PitInput where
  inputId : String
  inputKind : String
  datasetId : String
  sourceIdentity : String
  evidenceDigest : String
  eventTime : Timestamp
  knowledgeTime : Option Timestamp
  state : InputState
  retrospectiveCorrection : Bool
  identities : ∀ value ∈ [inputId, inputKind, datasetId, sourceIdentity], isIdentity value = true
  evidenceDigest_digest : isDigest evidenceDigest = true
deriving DecidableEq

/-- `_time`. -/
def timeText (t : Timestamp) : String := Instruments.timeText t

/-- What the body of an observation holds of an input. -/
def PitInput.body (v : PitInput) : Json := .obj
  [("evidence_digest", .str v.evidenceDigest), ("event_time", .str (timeText v.eventTime)), ("id", .str v.inputId),
    ("knowledge_time", .ofOption (fun t => .str (timeText t)) v.knowledgeTime), ("source", .str v.sourceIdentity),
    ("state", .str v.state.value)]

structure FeatureObservation where
  observationId : String
  featureId : String
  instrumentId : InstrumentId
  listingId : Instruments.ListingId
  datasetId : String
  qualificationId : String
  inputIds : List String
  inputWindowStart : Timestamp
  inputWindowEnd : Timestamp
  availableAt : Timestamp
  valueDigest : String
  evidenceDigest : String
deriving DecidableEq

/-- What a caller of `create_feature_observation` gives. -/
structure ObservationRequest where
  definition : FeatureDefinition
  instrumentId : InstrumentId
  listingId : Instruments.ListingId
  qualification : DatasetQualification
  inputs : List PitInput
  availableAt : Timestamp
  valueDigest : String

namespace ObservationRequest

variable (r : ObservationRequest)

/-- `ordered`. -/
def ordered : List PitInput :=
  r.inputs.insertionSort fun v w => timeText v.eventTime < timeText w.eventTime ∨
    timeText v.eventTime = timeText w.eventTime ∧ v.inputId ≤ w.inputId

def body : Json := .obj
  [("available_at", .str (timeText r.availableAt)), ("dataset_id", .str r.qualification.datasetId),
    ("definition", .str r.definition.featureId), ("inputs", .arr (r.ordered.map PitInput.body)),
    ("instrument_id", .str r.instrumentId.toString), ("listing_id", .str r.listingId.toString),
    ("qualification_id", .str r.qualification.qualificationId), ("value_digest", .str r.valueDigest)]

end ObservationRequest

/-- `create_feature_observation`. -/
def createFeatureObservation (py : Platform) (r : ObservationRequest) : Except Raised FeatureObservation := do
  raiseIf (r.inputs = []) (valueError "inputs must be a nonempty tuple")
  raiseIf (¬ (r.inputs.map PitInput.inputId).Nodup) (valueError "duplicate input identity")
  raiseIf (∃ v ∈ r.inputs, v.datasetId ≠ r.qualification.datasetId) (valueError "dataset substitution")
  digest "value_digest" r.valueDigest
  let evidence ← Raised.ofOutcome (py.digest "ATIS-S4-03-FEATURE-OBSERVATION-EVIDENCE-V1" r.body)
  let identity ← Raised.ofOutcome (py.digest "ATIS-S4-03-FEATURE-OBSERVATION-V1" r.body)
  let first ← orRaise (valueError "inputs must be a nonempty tuple") r.ordered.head?
  let last ← orRaise (valueError "inputs must be a nonempty tuple") r.ordered.getLast?
  return ⟨"atis:research:feature-observation:v1:" ++ identity, r.definition.featureId, r.instrumentId, r.listingId,
    r.qualification.datasetId, r.qualification.qualificationId, r.ordered.map PitInput.inputId, first.eventTime,
    last.eventTime, r.availableAt, r.valueDigest, evidence⟩

/-! ## Eligibility -/

structure DecisionInputEligibility where
  state : EligibilityState
  reasons : List String
  observationId : String
  decisionTime : Timestamp
  requestedClaim : ClaimCeiling
  authority : String := "RESEARCH_INPUT_ONLY_NO_TRADING_AUTHORITY"

/-- What a caller of `assess_decision_input` gives. -/
structure DecisionRequest where
  definition : FeatureDefinition
  observation : FeatureObservation
  qualification : DatasetQualification
  inputs : List PitInput
  decisionTime : Timestamp
  requestedClaim : ClaimCeiling
  causalSameInstantEstablished : Bool := false

/-- `value.date()`. -/
def dateKey (t : Timestamp) : Nat := (t.value.year * 13 + t.value.month) * 32 + t.value.day

/-- `if condition: reasons.append(reason)`. -/
def reasonIf (condition : Bool) (reason : String) : List String := if condition then [reason] else []

namespace DecisionRequest

variable (r : DecisionRequest)

/-- The reasons that one input gives. -/
def inputReasons (value : PitInput) : List String :=
  let unknown := value.knowledgeTime.isNone
  let future := value.knowledgeTime.any fun t => decide (r.decisionTime.value < t.value)
  reasonIf unknown "UNKNOWN_KNOWLEDGE_TIME" ++ reasonIf future "FUTURE_KNOWLEDGE" ++
    reasonIf (decide (value.state ≠ .valid)) ("INPUT_" ++ value.state.value) ++
    reasonIf (value.retrospectiveCorrection && (unknown || future)) "RETROSPECTIVE_CORRECTION_NOT_KNOWN" ++
    reasonIf (decide (value.eventTime.value = r.decisionTime.value) && !r.causalSameInstantEstablished)
      "UNSUPPORTED_SAME_INSTANT_USE"

/-- `reasons`. -/
def reasons : List String :=
  reasonIf (decide (r.observation.featureId ≠ r.definition.featureId)) "FEATURE_DEFINITION_SUBSTITUTION" ++
    reasonIf (decide (r.observation.datasetId ≠ r.qualification.datasetId)) "DATASET_SUBSTITUTION" ++
    reasonIf (decide (r.observation.qualificationId ≠ r.qualification.qualificationId)) "QUALIFICATION_SUBSTITUTION" ++
    reasonIf (decide (r.qualification.lifecycle ≠ .current)) "QUALIFICATION_NOT_CURRENT" ++
    reasonIf (decide (r.requestedClaim = .contractOnly) || !permitsClaim r.qualification r.requestedClaim)
      "CLAIM_NOT_PERMITTED" ++
    reasonIf (!(decide (r.qualification.coverage.start.key ≤ dateKey r.observation.inputWindowStart) &&
      decide (dateKey r.observation.inputWindowEnd ≤ r.qualification.coverage.stop.key))) "OUTSIDE_QUALIFICATION_COVERAGE" ++
    reasonIf (decide (r.decisionTime.value < r.observation.availableAt.value)) "FEATURE_AFTER_DECISION" ++
    reasonIf (decide ((r.inputs.length : Int) < r.definition.minimumHistory)) "INSUFFICIENT_HISTORY" ++
    reasonIf (decide ((r.inputs.map PitInput.inputId).insertionSort (· ≤ ·) ≠
      r.observation.inputIds.insertionSort (· ≤ ·))) "INPUT_LINEAGE_SUBSTITUTION" ++
    r.inputs.flatMap r.inputReasons

end DecisionRequest

/-- `assess_decision_input`. -/
def assessDecisionInput (r : DecisionRequest) : DecisionInputEligibility :=
  let canonical := Text.sortedSet r.reasons
  { state := if canonical = [] then .eligible else .ineligible
    reasons := canonical
    observationId := r.observation.observationId
    decisionTime := r.decisionTime
    requestedClaim := r.requestedClaim }

end ATB.PitFeatures
