import AutomatedTradingBot.Framework.Decimal
import AutomatedTradingBot.Source.Datasets.Dependencies
import AutomatedTradingBot.Source.Versioning

/-!
# Production quality

`market_data/quality.py`: the evidence that the production evaluation of a cohort
takes, with what the constructors require, and `evaluate_production_quality`. SHA-256
of bytes is a parameter, and of an exception only the message is kept. What the
evaluation does not read of a compatibility descriptor is left out.
-/

namespace ATB.MarketData

open Instruments (EvidenceRef EvidenceKey ValidationState)
open Datasets (canonicalizeEvidenceRefs refItems EvidenceError)
open Versioning (ContractVersion)

def maxProductionCohort : Nat := 4096
def maxProductionMetrics : Nat := 256

/-- `ContractVersion(family, version)`, equal to one whose fields these are. -/
def isVersion (v : ContractVersion) (family : String) (version : Nat) : Prop := v.family = family ∧ v.version = version

instance (v : ContractVersion) (family : String) (version : Nat) : Decidable (isVersion v family version) :=
  inferInstanceAs (Decidable (_ ∧ _))

def productionPolicyFamily : String := "ATIS_C05_PRODUCTION_QUALITY_POLICY"
def productionSequenceFamily : String := "ATIS_C05_PRODUCTION_SEQUENCE_EVIDENCE"
def productionMetricFamily : String := "ATIS_C05_PRODUCTION_METRIC_INPUT"

/-! ## States -/

inductive OutlierState where
  | withinPolicy
  | outsidePolicy
  | notEstablished
  | notApplicable
deriving DecidableEq

def OutlierState.value : OutlierState → String
  | .withinPolicy => "WITHIN_POLICY"
  | .outsidePolicy => "OUTSIDE_POLICY"
  | .notEstablished => "NOT_ESTABLISHED"
  | .notApplicable => "NOT_APPLICABLE"

inductive SequenceCoverageState where
  | complete
  | gap
  | notEstablished
  | notApplicable
deriving DecidableEq

def SequenceCoverageState.value : SequenceCoverageState → String
  | .complete => "COMPLETE"
  | .gap => "GAP"
  | .notEstablished => "NOT_ESTABLISHED"
  | .notApplicable => "NOT_APPLICABLE"

inductive SequenceOrderState where
  | consistent
  | reordered
  | ambiguousOrder
  | notEstablished
  | notApplicable
deriving DecidableEq

def SequenceOrderState.value : SequenceOrderState → String
  | .consistent => "CONSISTENT"
  | .reordered => "REORDERED"
  | .ambiguousOrder => "AMBIGUOUS_ORDER"
  | .notEstablished => "NOT_ESTABLISHED"
  | .notApplicable => "NOT_APPLICABLE"

inductive ProductionEvidenceState where
  | available
  | unavailable
  | notApplicable
  | incompatible
  | ambiguousConflicting
deriving DecidableEq

/-! ## Evidence -/

/-- What a collection of evidence is after its constructor. -/
def Canonicalized (refs : List EvidenceRef) : Prop := ∃ given, canonicalizeEvidenceRefs given = .ok refs

def isPadded (text : String) : Prop := text = "" ∨ Text.strip (Text.chars text) ≠ Text.chars text

instance (text : String) : Decidable (isPadded text) := inferInstanceAs (Decidable (_ ∨ _))

structure ProductionSequenceEvidence where
  state : ProductionEvidenceState
  version : Option ContractVersion
  expectationRef : Option EvidenceRef
  calendarRef : Option EvidenceRef
  knowledgeBoundRef : Option EvidenceRef
  expectedLogicalKeys : List String
  observedLogicalKeys : List String
  evidenceRefs : List EvidenceRef
  bounded : expectedLogicalKeys.length ≤ maxProductionCohort ∧ observedLogicalKeys.length ≤ maxProductionCohort
  wellFormed : ∀ k ∈ expectedLogicalKeys ++ observedLogicalKeys, ¬ isPadded k
  distinct : expectedLogicalKeys.Nodup ∧ observedLogicalKeys.Nodup
  refs : Canonicalized evidenceRefs
  available : state = .available → (∃ v, version = some v ∧ isVersion v productionSequenceFamily 1) ∧
    expectedLogicalKeys ≠ [] ∧ ∀ ref ∈ [expectationRef, calendarRef, knowledgeBoundRef], ∃ e ∈ evidenceRefs, ref = some e
  withheld : state ≠ .available → expectedLogicalKeys = [] ∧ observedLogicalKeys = []

structure ProductionMetric where
  descriptorDigest : EvidenceContentDigest
  name : String
  value : String
  unpadded : ¬ isPadded name
  finite : Decimal.parse? value ≠ none
deriving DecidableEq

def ProductionMetric.decimal (m : ProductionMetric) : Decimal := (Decimal.parse? m.value).getD 0

structure ProductionMetricEvidence where
  state : ProductionEvidenceState
  version : Option ContractVersion
  metricsRef : Option EvidenceRef
  knowledgeBoundRef : Option EvidenceRef
  metrics : List ProductionMetric
  evidenceRefs : List EvidenceRef
  bounded : metrics.length ≤ maxProductionMetrics
  distinct : (metrics.map fun m => (m.descriptorDigest, m.name)).Nodup
  refs : Canonicalized evidenceRefs
  available : state = .available → (∃ v, version = some v ∧ isVersion v productionMetricFamily 1) →
    ∀ ref ∈ [metricsRef, knowledgeBoundRef], ∃ e ∈ evidenceRefs, ref = some e
  withheld : state ≠ .available → metrics = []

structure ApprovedMetricRule where
  name : String
  minimum : Option String
  maximum : Option String
  named : name ≠ ""
  bounded : minimum ≠ none ∨ maximum ≠ none
  finite : ∀ t, minimum = some t ∨ maximum = some t → Decimal.parse? t ≠ none
  ordered : ∀ s t a b, minimum = some s → maximum = some t → Decimal.parse? s = some a → Decimal.parse? t = some b →
    ¬ b < a
deriving DecidableEq

/-- A bound of a rule, when it has one. -/
def ApprovedMetricRule.decimal (bound : Option String) : Option Decimal := bound.bind Decimal.parse?

/-- `value < Decimal(minimum)` or `value > Decimal(maximum)`. -/
def ApprovedMetricRule.outside (rule : ApprovedMetricRule) (value : Decimal) : Bool :=
  (ApprovedMetricRule.decimal rule.minimum).any (fun m => decide (value < m)) ||
    (ApprovedMetricRule.decimal rule.maximum).any fun m => decide (m < value)

structure ApprovedProductionQualityPolicy where
  version : ContractVersion
  policyRef : EvidenceRef
  applicabilityRef : EvidenceRef
  knowledgeBoundRef : EvidenceRef
  rules : List ApprovedMetricRule
  evidenceRefs : List EvidenceRef
  bounded : rules.length ≤ maxProductionMetrics
  distinct : (rules.map (·.name)).Nodup
  refs : Canonicalized evidenceRefs
  attributable : ∀ ref ∈ [policyRef, applicabilityRef, knowledgeBoundRef], ref ∈ evidenceRefs

structure ProductionQualityResult where
  descriptorDigests : List EvidenceContentDigest
  sequenceCoverage : SequenceCoverageState
  sequenceOrder : SequenceOrderState
  outlierStates : List (EvidenceContentDigest × OutlierState)
  missingLogicalKeys : List String
  reasons : List String
  evidenceRefs : List EvidenceRef
  validationState : ValidationState
deriving DecidableEq

/-! ## Descriptors -/

structure QualityLogicalIdentity where
  namespaceRef : EvidenceRef
  key : String
deriving DecidableEq

structure AbstractSemanticContent where
  contractRef : EvidenceRef
  canonicalBytesRef : EvidenceRef
  digest : EvidenceContentDigest
  bound : canonicalBytesRef.contentDigest = digest
deriving DecidableEq

structure QualityInputDescriptor where
  descriptorVersion : ContractVersion
  cohortRef : EvidenceRef
  evaluationScopeRef : EvidenceRef
  expectedSequenceRef : Option EvidenceRef
  inputRef : Option EvidenceRef
  logicalIdentity : Option QualityLogicalIdentity
  metricInputsRef : Option EvidenceRef
  orderEvidenceRef : Option EvidenceRef
  representationContractRef : Option EvidenceRef
  semanticContent : Option AbstractSemanticContent
  validationPolicyId : String
  validationPolicyRef : EvidenceRef
  evaluatedAt : Timestamp
  malformedEvidenceRef : Option EvidenceRef
deriving DecidableEq

/-- `_ref_mapping`. -/
def refMapping (ref : Option EvidenceRef) : Json := ref.elim .null EvidenceRef.mapping

/-- `_compute_digest`. -/
def QualityInputDescriptor.mapping (d : QualityInputDescriptor) : Json := .obj
  [("cohort_ref", d.cohortRef.mapping),
    ("descriptor_version", .obj
      [("family", .str d.descriptorVersion.family), ("version", .int d.descriptorVersion.version)]),
    ("evaluated_at", .str (Instruments.timeText d.evaluatedAt)), ("evaluation_scope_ref", d.evaluationScopeRef.mapping),
    ("expected_sequence_ref", refMapping d.expectedSequenceRef), ("input_ref", refMapping d.inputRef),
    ("logical_identity", d.logicalIdentity.elim .null fun l => .obj
      [("key", .str l.key), ("namespace_ref", l.namespaceRef.mapping)]),
    ("malformed_evidence_ref", refMapping d.malformedEvidenceRef),
    ("metric_inputs_ref", refMapping d.metricInputsRef), ("order_evidence_ref", refMapping d.orderEvidenceRef),
    ("record_kind", .str "ATIS_C05_QUALITY_INPUT_DESCRIPTOR"),
    ("representation_contract_ref", refMapping d.representationContractRef),
    ("semantic_content", d.semanticContent.elim .null fun s => .obj
      [("canonical_bytes_ref", s.canonicalBytesRef.mapping), ("contract_ref", s.contractRef.mapping),
        ("digest", .str s.digest.value)]),
    ("validation_policy_id", .str d.validationPolicyId), ("validation_policy_ref", d.validationPolicyRef.mapping)]

/-- What the evaluation reads of a `CompatibilityDescriptor`. -/
structure CompatibilityDescriptor where
  expectedSequenceEvidenceRef : Option EvidenceRef
  qualityInput : QualityInputDescriptor
deriving DecidableEq

/-- SHA-256 of texts and of bytes. -/
structure Hashes where
  py : Platform
  sha256Bytes : List UInt8 → Fin (2 ^ 256)

section Hashes

variable (hashes : Hashes)

/-- `EvidenceContentDigest.from_bytes`. -/
def fromBytes (content : List UInt8) : EvidenceContentDigest :=
  ⟨"sha256:" ++ String.ofList (Uuid.hexChars 64 (hashes.sha256Bytes content))⟩

def QualityInputDescriptor.descriptorDigest (d : QualityInputDescriptor) : EvidenceContentDigest :=
  ⟨"sha256:" ++ hashes.py.hexdigest d.mapping.dumps⟩

structure ResolvedQualityEvidence where
  ref : EvidenceRef
  content : List UInt8
  exact : fromBytes hashes content = ref.contentDigest

/-! ## The evaluation -/

def evidenceMessage : EvidenceError → String
  | .valueError message => message
  | .identityConflict message => message

def canonicalRefs (refs : List EvidenceRef) : Except String (List EvidenceRef) :=
  (canonicalizeEvidenceRefs refs).mapError evidenceMessage

/-- `_resolved_index`. -/
def resolvedIndex (values : List (ResolvedQualityEvidence hashes)) : Except String (List (EvidenceKey × List UInt8)) := do
  let refs ← canonicalRefs (values.map (·.ref))
  raiseIf (refs.length ≠ values.length) "DUPLICATE_RESOLVED_EVIDENCE"
  return Dict.ofList (values.map fun v => (v.ref.key, v.content))

/-- `_require_resolved`. -/
def requireResolved (resolved : List (EvidenceKey × List UInt8)) (ref : EvidenceRef) : Except String Unit := do
  let content ← orRaise "MISSING_RESOLVED_EVIDENCE" (Dict.get? ref.key resolved)
  raiseIf (fromBytes hashes content ≠ ref.contentDigest) "EVIDENCE_CONTENT_DIGEST_MISMATCH"

end Hashes

/-- The logical keys of a cohort; inputs that share one have one meaning. -/
def logicalKeys (inputs : List QualityInputDescriptor) : Except String (List String) := do
  let keys ← inputs.mapM fun i => orRaise "LOGICAL_IDENTITY_NOT_ESTABLISHED" (i.logicalIdentity.map (·.key))
  raiseIf (¬ keys.Nodup ∧ ∃ i ∈ inputs, i.semanticContent = none) "LOGICAL_IDENTITY_NOT_ESTABLISHED"
  raiseIf (¬ keys.Nodup ∧ ∃ i ∈ inputs, ∃ j ∈ inputs, i.logicalIdentity.map (·.key) = j.logicalIdentity.map (·.key) ∧
    i.semanticContent.map (·.digest) ≠ j.semanticContent.map (·.digest)) "MATERIAL_SEMANTIC_CONFLICT"
  return keys

/-- What one of the two parts of the evaluation establishes. -/
structure Flags where
  incompatible : Bool
  unresolved : Bool
  invalid : Bool
deriving DecidableEq

structure SequenceFindings extends Flags where
  coverage : SequenceCoverageState
  order : SequenceOrderState
  missing : List String
  reasons : List String
deriving DecidableEq

/-- The sequence of the cohort against the expected one. -/
def evaluateSequence (descriptors : List CompatibilityDescriptor) (sequence : ProductionSequenceEvidence)
    (keys : List String) : Except String SequenceFindings :=
  match sequence.state with
  | .available => do
    raiseIf (∃ d ∈ descriptors, d.expectedSequenceEvidenceRef ≠ sequence.expectationRef)
      "EXPECTED_SEQUENCE_BINDING_MISMATCH"
    let observed := sequence.observedLogicalKeys
    raiseIf (¬ ((∀ k ∈ observed, k ∈ keys) ∧ ∀ k ∈ keys, k ∈ observed)) "OBSERVED_COHORT_BINDING_MISMATCH"
    let missing := sortedSetOn id (sequence.expectedLogicalKeys.filter fun k => decide (k ∉ observed))
    let order : SequenceOrderState :=
      if observed = sequence.expectedLogicalKeys.filter (fun k => decide (k ∈ observed)) then .consistent else .reordered
    return {
      incompatible := false
      unresolved := false
      invalid := decide (missing ≠ []) || decide (order = .reordered)
      coverage := if missing = [] then .complete else .gap
      order
      missing
      reasons := ["AUTHORITATIVE_SEQUENCE_EVALUATED", "AUTHORITATIVE_ORDER_EVALUATED"] }
  | .notApplicable =>
    .ok ⟨⟨false, false, false⟩, .notApplicable, .notApplicable, [], ["SEQUENCE_NOT_APPLICABLE"]⟩
  | .incompatible =>
    .ok ⟨⟨true, false, false⟩, .notEstablished, .notEstablished, [], ["SEQUENCE_EVIDENCE_INCOMPATIBLE"]⟩
  | .ambiguousConflicting =>
    .ok ⟨⟨false, false, true⟩, .notEstablished, .ambiguousOrder, [], ["SEQUENCE_EVIDENCE_CONFLICTING"]⟩
  | .unavailable =>
    .ok ⟨⟨false, true, false⟩, .notEstablished, .notEstablished, [], ["AUTHORITATIVE_SEQUENCE_UNAVAILABLE"]⟩

structure MetricFindings extends Flags where
  states : List (EvidenceContentDigest × OutlierState)
  reason : String
deriving DecidableEq

/-- The metrics of one descriptor against the rules: one of them is outside. -/
def anyOutside (rules : List ApprovedMetricRule) (supplied : List ProductionMetric) : Except String Bool :=
  supplied.foldlM (fun outside metric => do
    let rule ← orRaise "UNAPPROVED_METRIC" (rules.find? fun r => decide (r.name = metric.name))
    return outside || rule.outside metric.decimal) false

/-- The state of one descriptor. -/
def outlierState (rules : List ApprovedMetricRule) (metrics : List ProductionMetric) (digest : EvidenceContentDigest) :
    Except String OutlierState :=
  let supplied := metrics.filter fun m => decide (m.descriptorDigest = digest)
  if supplied = [] then .ok .notEstablished
  else do
    let outside ← anyOutside rules supplied
    return if outside then .outsidePolicy else .withinPolicy

/-- The metrics of the cohort against the approved policy. -/
def applyPolicy (digests : List EvidenceContentDigest) (metrics : List ProductionMetric)
    (rules : List ApprovedMetricRule) : Except String MetricFindings := do
  raiseIf (∃ m ∈ metrics, m.descriptorDigest ∉ digests) "METRIC_DESCRIPTOR_BINDING_MISMATCH"
  let states ← digests.mapM fun digest => do return (digest, ← outlierState rules metrics digest)
  return {
    incompatible := false
    unresolved := states.any fun s => decide (s.2 = .notEstablished)
    invalid := states.any fun s => decide (s.2 = .outsidePolicy)
    states
    reason := "APPROVED_POLICY_EVALUATED" }

def evaluateMetrics (digests : List EvidenceContentDigest) (evidence : ProductionMetricEvidence)
    (policy : Option ApprovedProductionQualityPolicy) : Except String MetricFindings :=
  let withheld (flags : Flags) (reason : String) : Except String MetricFindings :=
    .ok ⟨flags, digests.map fun digest => (digest, .notEstablished), reason⟩
  if evidence.state = .incompatible ∨
      (evidence.state = .available ∧ ¬ ∃ v ∈ evidence.version, isVersion v productionMetricFamily 1) then
    withheld ⟨true, false, false⟩ "METRIC_VERSION_INCOMPATIBLE"
  else if evidence.state ≠ .available then withheld ⟨false, true, false⟩ "METRIC_EVIDENCE_NOT_ESTABLISHED"
  else
    match policy with
    | none => withheld ⟨false, true, false⟩ "APPROVED_POLICY_NOT_ESTABLISHED"
    | some policy =>
      if ¬ isVersion policy.version productionPolicyFamily 1 then
        withheld ⟨true, false, false⟩ "POLICY_VERSION_INCOMPATIBLE"
      else applyPolicy digests evidence.metrics policy.rules

/-- `ProductionQualityResult(...)`, whose reasons here are all of its pattern. -/
def ProductionQualityResult.make (digests : List EvidenceContentDigest) (sequence : SequenceFindings)
    (metrics : MetricFindings) (refs : List EvidenceRef) (state : ValidationState) :
    Except String ProductionQualityResult := do
  let evidenceRefs ← canonicalRefs refs
  return {
    descriptorDigests := sortedSetOn EvidenceContentDigest.value digests
    sequenceCoverage := sequence.coverage
    sequenceOrder := sequence.order
    outlierStates := metrics.states.insertionSort fun a b => a.1.value ≤ b.1.value
    missingLogicalKeys := sortedSetOn id sequence.missing
    reasons := sortedSetOn id (sequence.reasons ++ [metrics.reason])
    evidenceRefs
    validationState := state }

/-- The state that the flags of both parts add up to. -/
def stateOf (sequence metrics : Flags) : ValidationState :=
  if sequence.invalid || metrics.invalid then .invalid
  else if sequence.incompatible || metrics.incompatible then .incompatible
  else if sequence.unresolved || metrics.unresolved then .notEstablished
  else .valid

/-- `evaluate_production_quality`. -/
def evaluateProductionQuality (hashes : Hashes) (descriptors : List CompatibilityDescriptor)
    (sequence : ProductionSequenceEvidence) (metricEvidence : ProductionMetricEvidence)
    (policy : Option ApprovedProductionQualityPolicy) (resolvedEvidence : List (ResolvedQualityEvidence hashes)) :
    Except String ProductionQualityResult := do
  raiseIf (descriptors = []) "descriptors must be a nonempty tuple"
  raiseIf (maxProductionCohort < descriptors.length) "RESOURCE_BOUND_EXHAUSTED"
  let resolved ← resolvedIndex hashes resolvedEvidence
  let refs := sequence.evidenceRefs ++ metricEvidence.evidenceRefs ++ policy.elim [] (·.evidenceRefs)
  let canonical ← canonicalRefs refs
  canonical.forM (requireResolved hashes resolved)
  let inputs := descriptors.map (·.qualityInput)
  let digests := inputs.map (QualityInputDescriptor.descriptorDigest hashes)
  let keys ← logicalKeys inputs
  let sequenceFindings ← evaluateSequence descriptors sequence keys
  let metricFindings ← evaluateMetrics digests metricEvidence policy
  ProductionQualityResult.make digests sequenceFindings metricFindings refs
    (stateOf sequenceFindings.toFlags metricFindings.toFlags)

end ATB.MarketData
