import AutomatedTradingBot.Source.Datasets.Foundation

/-!
# Invalidation propagation

`datasets/lifecycle.py`: the affected set of an invalidation, the invalidation event,
the checkpoints of its propagation, and the currentness of a dataset version under an
event. A digest that a constructor computes and compares again is computed once.
-/

namespace ATB.Datasets

open Instruments (EvidenceRef)

local instance lawfulBEq_opaqueId {kind : IdKind} : LawfulBEq (OpaqueId kind) := inferInstance

/-- What the module raises: an exception of `_text`, a `LifecycleError`, a
`PropagationError`, or the `IndexError` of an empty tuple. -/
inductive LifecycleError where
  | python (error : PyError)
  | lifecycle (message : String)
  | propagation (message : String)
  | indexError
deriving DecidableEq

inductive PropagationRecordState where
  | notStarted
  | inProgress
  | complete
  | failed
  | notEstablished
deriving DecidableEq

def PropagationRecordState.value : PropagationRecordState → String
  | .notStarted => "NOT_STARTED"
  | .inProgress => "IN_PROGRESS"
  | .complete => "COMPLETE"
  | .failed => "FAILED"
  | .notEstablished => "NOT_ESTABLISHED"

inductive CurrentnessState where
  | current
  | stale
  | unknown
deriving DecidableEq

section Helpers

variable (py : Platform)

def text (name value : String) : Except LifecycleError Unit := (py.text name value).mapError .python

/-- `_ref`. -/
def ref (e : EvidenceRef) : Json := e.mapping

/-- `_refs`. -/
def refs (values : List EvidenceRef) (allowEmpty : Bool) : Except LifecycleError (List EvidenceRef) :=
  if values = [] then
    if allowEmpty then .ok [] else .error (.lifecycle "EVIDENCE_NOT_ESTABLISHED")
  else
    (canonicalizeEvidenceRefs values).mapError fun
      | .valueError message => .lifecycle message
      | .identityConflict message => .lifecycle message

/-- `_reasons`. -/
def reasons (values : List String) (policy : DatasetLifecycleResourcePolicy) :
    Except LifecycleError (List String) := do
  values.forM (text py "reason")
  let canonical := Text.sortedSet values
  raiseIf (policy.value .maxReasonsPerRecord < canonical.length) (.lifecycle "MAX_REASONS_PER_RECORD_EXHAUSTED")
  raiseIf (∃ item ∈ canonical, policy.value .maxReasonLength < (Text.chars item).length)
    (.lifecycle "MAX_REASON_LENGTH_EXHAUSTED")
  return canonical

/-- `_versions`. -/
def versions (values : List DatasetVersionId) : List DatasetVersionId := sortedSetOn OpaqueId.value values

def ids {kind : IdKind} (values : List (OpaqueId kind)) : Json := .arr (values.map fun i => .str i.value)

def evidence (values : List EvidenceRef) : Json := .arr (values.map ref)

/-- `_set_digest`. -/
def setDigest (domain : String) (values : List DatasetVersionId) : EvidenceContentDigest :=
  digest py domain (ids values)

end Helpers

/-! ## Affected sets -/

structure DatasetVersionMapping where
  mappingId : DatasetVersionMappingId
  contractVersion : String
  provenanceNodeId : ProvenanceNodeId
  datasetVersionId : DatasetVersionId
  evidenceRefs : List EvidenceRef
deriving DecidableEq

/-- The fields of an `InvalidationAssessment` that are read. -/
structure InvalidationAssessment where
  triggerIds : List InvalidationTriggerId
  graphId : ProvenanceGraphId
  resourcePolicyId : DatasetLifecycleResourcePolicyId
  affectedNodeIds : List ProvenanceNodeId
  establishesCompleteScope : Bool

structure AffectedSet where
  affectedSetId : AffectedSetId
  contentDigest : EvidenceContentDigest
  contractVersion : String
  triggerIds : List InvalidationTriggerId
  provenanceGraphId : ProvenanceGraphId
  affectedNodeIds : List ProvenanceNodeId
  datasetVersionIds : List DatasetVersionId
  mappingIds : List DatasetVersionMappingId
  mappingEvidenceRefs : List EvidenceRef
  scopeEvidenceRefs : List EvidenceRef
  resourcePolicyId : DatasetLifecycleResourcePolicyId

def affectedSetLead : Lead := ⟨"c10-affected-set", by decide, by decide⟩
def invalidationEventLead : Lead := ⟨"c10-invalidation-event", by decide, by decide⟩
def propagationLead : Lead := ⟨"c10-propagation", by decide, by decide⟩

/-- The loop over `mappings`. -/
def byNode (mappings : List DatasetVersionMapping) :
    Except LifecycleError (List (ProvenanceNodeId × DatasetVersionMapping)) :=
  mappings.foldlM (fun known mapping => do
    raiseIf ((Dict.get? mapping.provenanceNodeId known).any fun existing => decide (existing ≠ mapping))
      (.lifecycle "CONFLICTING_DATASET_VERSION_MAPPING")
    return Dict.set mapping.provenanceNodeId mapping known) []

section Create

variable (py : Platform)

def createAffectedSet (contractVersion : String) (assessment : InvalidationAssessment)
    (graphIdentity : ProvenanceGraphId) (mappings : List DatasetVersionMapping)
    (scopeEvidenceRefs : List EvidenceRef) (policy : DatasetLifecycleResourcePolicy) :
    Except LifecycleError AffectedSet := do
  raiseIf (¬ assessment.establishesCompleteScope) (.lifecycle "EXACT_AFFECTED_SET_NOT_ESTABLISHED")
  raiseIf (graphIdentity ≠ assessment.graphId) (.lifecycle "INVALIDATION_GRAPH_SUBSTITUTION")
  raiseIf (policy.policyId ≠ assessment.resourcePolicyId) (.lifecycle "AFFECTED_SET_RESOURCE_POLICY_IDENTITY_CONFLICT")
  let nodes := assessment.affectedNodeIds.insertionSort fun a b => a.value ≤ b.value
  raiseIf (policy.value .maxAffectedSetMembers < nodes.length) (.lifecycle "MAX_AFFECTED_SET_MEMBERS_EXHAUSTED")
  let known ← byNode mappings
  raiseIf (∃ node ∈ Dict.keys known, node ∉ nodes) (.lifecycle "UNRELATED_DATASET_VERSION_MAPPING")
  raiseIf (∃ node ∈ nodes, node ∉ Dict.keys known) (.lifecycle "MISSING_DATASET_VERSION_MAPPING")
  let canonicalMappings := nodes.filterMap fun node => Dict.get? node known
  let versionIds := versions (canonicalMappings.map (·.datasetVersionId))
  raiseIf (versionIds.length ≠ nodes.length) (.lifecycle "CONFLICTING_DATASET_VERSION_MAPPING")
  let mappingRefs ← refs (canonicalMappings.flatMap (·.evidenceRefs)) (canonicalMappings = [])
  let scopeRefs ← refs scopeEvidenceRefs false
  text py "contract_version" contractVersion
  let triggerIds := assessment.triggerIds.insertionSort fun a b => a.value ≤ b.value
  let body := Json.obj
    [("contract_version", .str contractVersion), ("trigger_ids", ids triggerIds),
      ("provenance_graph_id", .str graphIdentity.value), ("affected_node_ids", ids nodes),
      ("dataset_version_ids", ids versionIds), ("mapping_ids", ids (canonicalMappings.map (·.mappingId))),
      ("mapping_evidence_refs", evidence mappingRefs), ("scope_evidence_refs", evidence scopeRefs),
      ("resource_policy_id", .str policy.policyId.value)]
  return {
    affectedSetId := derived py affectedSetLead "ATIS:C10:AFFECTED_SET:1" body
    contentDigest := digest py "ATIS:C10:AFFECTED_SET:1" body
    contractVersion
    triggerIds
    provenanceGraphId := graphIdentity
    affectedNodeIds := nodes
    datasetVersionIds := versionIds
    mappingIds := canonicalMappings.map (·.mappingId)
    mappingEvidenceRefs := mappingRefs
    scopeEvidenceRefs := scopeRefs
    resourcePolicyId := policy.policyId }

end Create

/-! ## Invalidation events -/

structure InvalidationEvent where
  eventId : InvalidationEventId
  contractVersion : String
  triggerIdentity : InvalidationTriggerId
  triggerKind : String
  predecessorEvidenceRef : EvidenceRef
  successorOrCorrectionRef : EvidenceRef
  knowledgeFrom : Timestamp
  effectiveFrom : Option Timestamp
  dependencyGraphRef : EvidenceRef
  graphIdentity : ProvenanceGraphId
  affectedSetId : AffectedSetId
  affectedDatasetVersionIds : List DatasetVersionId
  scopeRef : EvidenceRef
  reasons : List String
  evidenceRefs : List EvidenceRef
  contentDigest : EvidenceContentDigest

/-- The arguments of `create_invalidation_event` but the affected set and the policy. -/
structure InvalidationCause where
  contractVersion : String
  triggerKind : String
  predecessorEvidenceRef : EvidenceRef
  successorOrCorrectionRef : EvidenceRef
  knowledgeFrom : Timestamp
  effectiveFrom : Option Timestamp
  dependencyGraphRef : EvidenceRef
  scopeRef : EvidenceRef
  reasons : List String
  evidenceRefs : List EvidenceRef

def timestampText (t : Timestamp) : Json := .str t.value.isoformat

def createInvalidationEvent (py : Platform) (cause : InvalidationCause) (affected : AffectedSet)
    (policy : DatasetLifecycleResourcePolicy) : Except LifecycleError InvalidationEvent := do
  let canonicalReasons ← reasons py cause.reasons policy
  let evidenceRefs ← refs cause.evidenceRefs false
  raiseIf (affected.resourcePolicyId ≠ policy.policyId) (.lifecycle "AFFECTED_SET_RESOURCE_POLICY_IDENTITY_CONFLICT")
  text py "contract_version" cause.contractVersion
  let trigger ← orRaise .indexError affected.triggerIds.head?
  text py "trigger_kind" cause.triggerKind
  let body := Json.obj
    [("contract_version", .str cause.contractVersion), ("trigger_identity", .str trigger.value),
      ("trigger_kind", .str cause.triggerKind), ("predecessor_evidence_ref", ref cause.predecessorEvidenceRef),
      ("successor_or_correction_ref", ref cause.successorOrCorrectionRef),
      ("knowledge_from", timestampText cause.knowledgeFrom),
      ("effective_from", (cause.effectiveFrom.map timestampText).getD .null),
      ("dependency_graph_ref", ref cause.dependencyGraphRef), ("graph_identity", .str affected.provenanceGraphId.value),
      ("affected_set_id", .str affected.affectedSetId.value),
      ("affected_dataset_version_ids", ids affected.datasetVersionIds), ("scope_ref", ref cause.scopeRef),
      ("reasons", .arr (canonicalReasons.map .str)), ("evidence_refs", evidence evidenceRefs)]
  return {
    eventId := derived py invalidationEventLead "ATIS:C10:INVALIDATION_EVENT:1" body
    contractVersion := cause.contractVersion
    triggerIdentity := trigger
    triggerKind := cause.triggerKind
    predecessorEvidenceRef := cause.predecessorEvidenceRef
    successorOrCorrectionRef := cause.successorOrCorrectionRef
    knowledgeFrom := cause.knowledgeFrom
    effectiveFrom := cause.effectiveFrom
    dependencyGraphRef := cause.dependencyGraphRef
    graphIdentity := affected.provenanceGraphId
    affectedSetId := affected.affectedSetId
    affectedDatasetVersionIds := affected.datasetVersionIds
    scopeRef := cause.scopeRef
    reasons := canonicalReasons
    evidenceRefs
    contentDigest := digest py "ATIS:C10:INVALIDATION_EVENT:1" body }

/-! ## Propagation records -/

/-- The fields of a `PropagationRecord` that its body holds. -/
structure PropagationContent where
  contractVersion : String
  invalidationEventId : InvalidationEventId
  affectedSetId : AffectedSetId
  graphIdentity : ProvenanceGraphId
  resourcePolicyId : DatasetLifecycleResourcePolicyId
  processedDatasetVersionIds : List DatasetVersionId
  remainingDatasetVersionIds : List DatasetVersionId
  expectedAffectedSetDigest : EvidenceContentDigest
  processedSetDigest : EvidenceContentDigest
  remainingSetDigest : EvidenceContentDigest
  state : PropagationRecordState
  restartIdentity : Option PropagationRunId
  restartEvidenceRefs : List EvidenceRef
  reasons : List String
  evidenceRefs : List EvidenceRef
deriving DecidableEq

structure PropagationRecord extends PropagationContent where
  propagationRunId : PropagationRunId
  contentDigest : EvidenceContentDigest
deriving DecidableEq

/-- `_propagation_body`, but the text check of the contract version. -/
def PropagationContent.body (r : PropagationContent) : Json := .obj
  [("contract_version", .str r.contractVersion), ("invalidation_event_id", .str r.invalidationEventId.value),
    ("affected_set_id", .str r.affectedSetId.value), ("graph_identity", .str r.graphIdentity.value),
    ("resource_policy_id", .str r.resourcePolicyId.value),
    ("processed_dataset_version_ids", ids r.processedDatasetVersionIds),
    ("remaining_dataset_version_ids", ids r.remainingDatasetVersionIds),
    ("expected_affected_set_digest", .str r.expectedAffectedSetDigest.value),
    ("processed_set_digest", .str r.processedSetDigest.value),
    ("remaining_set_digest", .str r.remainingSetDigest.value), ("state", .str r.state.value),
    ("restart_identity", (r.restartIdentity.map fun i => Json.str i.value).getD .null),
    ("restart_evidence_refs", evidence r.restartEvidenceRefs), ("reasons", .arr (r.reasons.map .str)),
    ("evidence_refs", evidence r.evidenceRefs)]

/-- `set(processed) & set(remaining) or set(processed) | set(remaining) != set(expected)`. -/
def Unreconciled (processed remaining expected : List DatasetVersionId) : Prop :=
  (∃ v ∈ processed, v ∈ remaining) ∨
    ¬ ((∀ v ∈ processed ++ remaining, v ∈ expected) ∧ ∀ v ∈ expected, v ∈ processed ++ remaining)

instance (processed remaining expected : List DatasetVersionId) :
    Decidable (Unreconciled processed remaining expected) :=
  inferInstanceAs (Decidable (_ ∨ _))

section Propagation

variable (py : Platform)

/-- `PropagationRecord.__post_init__`. -/
def PropagationRecord.postInit (r : PropagationRecord) : Except LifecycleError Unit := do
  let processed := versions r.processedDatasetVersionIds
  let remaining := versions r.remainingDatasetVersionIds
  let expected := versions (processed ++ remaining)
  raiseIf (∃ v ∈ processed, v ∈ remaining) (.propagation "PROPAGATION_SET_RECONCILIATION_FAILED")
  raiseIf (r.expectedAffectedSetDigest ≠ setDigest py "ATIS:C10:EXPECTED_AFFECTED_SET:1" expected)
    (.propagation "EXPECTED_AFFECTED_SET_DIGEST_CONFLICT")
  raiseIf (r.processedSetDigest ≠ setDigest py "ATIS:C10:PROCESSED_SET:1" processed)
    (.propagation "PROCESSED_SET_DIGEST_CONFLICT")
  raiseIf (r.remainingSetDigest ≠ setDigest py "ATIS:C10:REMAINING_SET:1" remaining)
    (.propagation "REMAINING_SET_DIGEST_CONFLICT")
  text py "contract_version" r.contractVersion
  raiseIf (r.contentDigest ≠ digest py "ATIS:C10:PROPAGATION_RECORD:1" r.body ∨
      r.propagationRunId ≠ derived py propagationLead "ATIS:C10:PROPAGATION_RECORD:1" r.body)
    (.propagation "PROPAGATION_IDENTITY_CONTENT_CONFLICT")

/-- The record with the identity and digest of its body. -/
def PropagationContent.sealed (r : PropagationContent) : PropagationRecord where
  toPropagationContent := r
  contentDigest := digest py "ATIS:C10:PROPAGATION_RECORD:1" r.body
  propagationRunId := derived py propagationLead "ATIS:C10:PROPAGATION_RECORD:1" r.body

/-- A progression state has no reasons, and the other states have some. -/
def checkReasons (state : PropagationRecordState) (canonicalReasons : List String) : Except LifecycleError Unit :=
  if state = .notStarted ∨ state = .inProgress ∨ state = .complete then
    raiseIf (canonicalReasons ≠ []) (.propagation "PROGRESSION_STATE_REASONS_PROHIBITED")
  else
    raiseIf (canonicalReasons = []) (.propagation "RESTRICTIVE_STATE_REASONS_REQUIRED")

/-- `_build_propagation_record`. -/
def buildPropagationRecord (contractVersion : String) (event : InvalidationEvent) (affected : AffectedSet)
    (processed remaining : List DatasetVersionId) (state : PropagationRecordState)
    (restartIdentity : Option PropagationRunId) (restartEvidenceRefs : List EvidenceRef)
    (recordReasons : List String) (evidenceRefs : List EvidenceRef) (policy : DatasetLifecycleResourcePolicy) :
    Except LifecycleError PropagationRecord := do
  let expected := affected.datasetVersionIds
  let processed := versions processed
  let remaining := versions remaining
  raiseIf (Unreconciled processed remaining expected) (.propagation "PROPAGATION_SET_RECONCILIATION_FAILED")
  raiseIf (policy.value .maxPropagationEventsPerRun < processed.length)
    (.propagation "MAX_PROPAGATION_EVENTS_PER_RUN_EXHAUSTED")
  let canonicalReasons ← reasons py recordReasons policy
  checkReasons state canonicalReasons
  let recordRefs ← refs evidenceRefs (state = .notEstablished)
  let restartRefs ← refs restartEvidenceRefs true
  raiseIf (restartIdentity = none ∧ restartRefs ≠ []) (.propagation "RESTART_EVIDENCE_WITHOUT_PREDECESSOR")
  raiseIf (state = .failed ∧ recordRefs = []) (.propagation "FAILED_EVIDENCE_REQUIRED")
  raiseIf (state = .notStarted ∧ processed ≠ []) (.propagation "NOT_STARTED_PROCESSED_SET_NOT_EMPTY")
  raiseIf (state = .complete ∧ (remaining ≠ [] ∨ processed ≠ expected))
    (.propagation "INCOMPLETE_PROPAGATION_AS_COMPLETE")
  raiseIf (state ≠ .complete ∧ processed = expected) (.propagation "EXACT_COMPLETION_STATE_REQUIRED")
  text py "contract_version" contractVersion
  let provisional := PropagationContent.sealed py
    { contractVersion, invalidationEventId := event.eventId
      affectedSetId := affected.affectedSetId, graphIdentity := affected.provenanceGraphId
      resourcePolicyId := policy.policyId, processedDatasetVersionIds := processed
      remainingDatasetVersionIds := remaining
      expectedAffectedSetDigest := setDigest py "ATIS:C10:EXPECTED_AFFECTED_SET:1" expected
      processedSetDigest := setDigest py "ATIS:C10:PROCESSED_SET:1" processed
      remainingSetDigest := setDigest py "ATIS:C10:REMAINING_SET:1" remaining
      state, restartIdentity, restartEvidenceRefs := restartRefs, reasons := canonicalReasons
      evidenceRefs := recordRefs }
  provisional.postInit py
  return provisional

/-- `_validate_lifecycle_context`. -/
def validateLifecycleContext (event : InvalidationEvent) (affected : AffectedSet)
    (policy : DatasetLifecycleResourcePolicy) : Except LifecycleError Unit := do
  raiseIf (event.affectedSetId ≠ affected.affectedSetId) (.propagation "AFFECTED_SET_SUBSTITUTION")
  raiseIf (event.graphIdentity ≠ affected.provenanceGraphId) (.propagation "PROPAGATION_GRAPH_SUBSTITUTION")
  raiseIf (event.affectedDatasetVersionIds ≠ affected.datasetVersionIds) (.propagation "AFFECTED_SET_SUBSTITUTION")
  raiseIf (affected.resourcePolicyId ≠ policy.policyId) (.propagation "PROPAGATION_RESOURCE_POLICY_SUBSTITUTION")

/-- `_validate_predecessor_basis`. -/
def validatePredecessorBasis (predecessor : PropagationRecord) (event : InvalidationEvent) (affected : AffectedSet)
    (policy : DatasetLifecycleResourcePolicy) : Except LifecycleError Unit := do
  validateLifecycleContext event affected policy
  raiseIf (predecessor.invalidationEventId ≠ event.eventId) (.propagation "PROPAGATION_EVENT_SUBSTITUTION")
  raiseIf (predecessor.affectedSetId ≠ affected.affectedSetId) (.propagation "AFFECTED_SET_SUBSTITUTION")
  raiseIf (predecessor.graphIdentity ≠ affected.provenanceGraphId) (.propagation "PROPAGATION_GRAPH_SUBSTITUTION")
  raiseIf (predecessor.resourcePolicyId ≠ policy.policyId) (.propagation "PROPAGATION_RESOURCE_POLICY_SUBSTITUTION")
  let expected := affected.datasetVersionIds
  raiseIf (predecessor.expectedAffectedSetDigest ≠ setDigest py "ATIS:C10:EXPECTED_AFFECTED_SET:1" expected)
    (.propagation "EXPECTED_AFFECTED_SET_DIGEST_CONFLICT")
  let processed := versions predecessor.processedDatasetVersionIds
  let remaining := versions predecessor.remainingDatasetVersionIds
  raiseIf (Unreconciled processed remaining expected) (.propagation "PROPAGATION_SET_RECONCILIATION_FAILED")
  raiseIf (predecessor.processedSetDigest ≠ setDigest py "ATIS:C10:PROCESSED_SET:1" processed)
    (.propagation "PROCESSED_SET_DIGEST_CONFLICT")
  raiseIf (predecessor.remainingSetDigest ≠ setDigest py "ATIS:C10:REMAINING_SET:1" remaining)
    (.propagation "REMAINING_SET_DIGEST_CONFLICT")

def createPropagationRecord (contractVersion : String) (event : InvalidationEvent) (affected : AffectedSet)
    (evidenceRefs : List EvidenceRef) (policy : DatasetLifecycleResourcePolicy) :
    Except LifecycleError PropagationRecord := do
  validateLifecycleContext event affected policy
  let expected := affected.datasetVersionIds
  let state := if expected = [] then PropagationRecordState.complete else .notStarted
  buildPropagationRecord py contractVersion event affected
    (if state = .complete then expected else []) (if state = .complete then [] else expected)
    state none [] [] evidenceRefs policy

/-- `allowed` of `advance_propagation`. -/
def allowed : PropagationRecordState → List PropagationRecordState
  | .notStarted => [.inProgress, .failed, .notEstablished]
  | .inProgress => [.inProgress, .complete, .failed, .notEstablished]
  | _ => []

def advancePropagation (predecessor : PropagationRecord) (event : InvalidationEvent) (affected : AffectedSet)
    (policy : DatasetLifecycleResourcePolicy) (processedIds : List DatasetVersionId)
    (nextState : PropagationRecordState) (recordReasons : List String) (evidenceRefs : List EvidenceRef) :
    Except LifecycleError PropagationRecord := do
  validatePredecessorBasis py predecessor event affected policy
  raiseIf (predecessor.state = .complete ∨ predecessor.state = .failed ∨ predecessor.state = .notEstablished)
    (.propagation "TERMINAL_PROPAGATION_STATE")
  raiseIf (nextState ∉ allowed predecessor.state) (.propagation "INVALID_PROPAGATION_TRANSITION")
  let processed := versions processedIds
  let expected := affected.datasetVersionIds
  raiseIf (¬ ∀ v ∈ processed, v ∈ expected) (.propagation "FOREIGN_PROCESSED_MEMBER")
  let oldProcessed := predecessor.processedDatasetVersionIds
  raiseIf (¬ ∀ v ∈ oldProcessed, v ∈ processed) (.propagation "PROCESSED_MEMBER_DISAPPEARED")
  raiseIf (predecessor.state = .inProgress ∧ nextState = .inProgress ∧
      (∀ v ∈ oldProcessed, v ∈ processed) ∧ ∀ v ∈ processed, v ∈ oldProcessed)
    (.propagation "IN_PROGRESS_REQUIRES_NEW_PROGRESS")
  let remaining := expected.filter fun v => decide (v ∉ processed)
  buildPropagationRecord py predecessor.contractVersion event affected processed remaining nextState
    (some predecessor.propagationRunId) [] recordReasons evidenceRefs policy

def restartPropagation (predecessor : PropagationRecord) (event : InvalidationEvent) (affected : AffectedSet)
    (policy : DatasetLifecycleResourcePolicy) (restartEvidenceRefs : List EvidenceRef) :
    Except LifecycleError PropagationRecord := do
  validatePredecessorBasis py predecessor event affected policy
  raiseIf (¬ (predecessor.state = .failed ∨ predecessor.state = .notEstablished))
    (.propagation "RESTART_STATE_NOT_PERMITTED")
  let restartRefs ← refs restartEvidenceRefs false
  let carryProgress := ¬ (predecessor.state = .notEstablished ∧ predecessor.evidenceRefs = [])
  let processed := if carryProgress then predecessor.processedDatasetVersionIds else []
  let remaining := affected.datasetVersionIds.filter fun v => decide (v ∉ processed)
  buildPropagationRecord py predecessor.contractVersion event affected processed remaining .inProgress
    (some predecessor.propagationRunId) restartRefs [] restartRefs policy

/-- `_validate_applicable_propagation`. -/
def validateApplicablePropagation (event : InvalidationEvent) (record : PropagationRecord) :
    Except LifecycleError Unit := do
  raiseIf (record.invalidationEventId ≠ event.eventId) (.propagation "PROPAGATION_EVENT_SUBSTITUTION")
  raiseIf (record.affectedSetId ≠ event.affectedSetId) (.propagation "AFFECTED_SET_SUBSTITUTION")
  raiseIf (record.graphIdentity ≠ event.graphIdentity) (.propagation "PROPAGATION_GRAPH_SUBSTITUTION")
  let expected := event.affectedDatasetVersionIds
  raiseIf (record.expectedAffectedSetDigest ≠ setDigest py "ATIS:C10:EXPECTED_AFFECTED_SET:1" expected)
    (.propagation "EXPECTED_AFFECTED_SET_DIGEST_CONFLICT")
  let both := record.processedDatasetVersionIds ++ record.remainingDatasetVersionIds
  raiseIf (¬ ((∀ v ∈ both, v ∈ expected) ∧ ∀ v ∈ expected, v ∈ both))
    (.propagation "PROPAGATION_SET_RECONCILIATION_FAILED")
  raiseIf (record.state = .complete ∧
      (record.processedDatasetVersionIds ≠ expected ∨ record.remainingDatasetVersionIds ≠ []))
    (.propagation "INCOMPLETE_PROPAGATION_AS_COMPLETE")

/-- The checks of `_lifecycle_currentness_state`. -/
def validateLifecycle : Option InvalidationEvent → Option PropagationRecord → Except LifecycleError Unit
  | none, some _ => .error (.propagation "PROPAGATION_WITHOUT_INVALIDATION_EVENT")
  | some event, some record => validateApplicablePropagation py event record
  | _, none => .ok ()

/-- The result of `_lifecycle_currentness_state`. -/
def restrictedState (datasetVersionId : DatasetVersionId) (event : Option InvalidationEvent)
    (record : Option PropagationRecord) : CurrentnessState → CurrentnessState × List String
  | .stale => (.stale, [])
  | .unknown => (.unknown, [])
  | .current =>
    if event.all fun e => decide (datasetVersionId ∉ e.affectedDatasetVersionIds) then (.current, [])
    else if record.all fun r => decide (r.state ≠ .complete) then (.unknown, ["PROPAGATION_PENDING"])
    else (.current, ["PROPAGATION_COMPLETE"])

/-- `_lifecycle_currentness_state`. -/
def lifecycleCurrentnessState (datasetVersionId : DatasetVersionId) (baseState : CurrentnessState)
    (event : Option InvalidationEvent) (record : Option PropagationRecord) :
    Except LifecycleError (CurrentnessState × List String) := do
  validateLifecycle py event record
  return restrictedState datasetVersionId event record baseState

end Propagation

end ATB.Datasets
