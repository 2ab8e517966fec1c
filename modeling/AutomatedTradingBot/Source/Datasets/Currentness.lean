import Mathlib.Data.Prod.Lex
import AutomatedTradingBot.Framework.Timedelta
import AutomatedTradingBot.Source.Datasets.Dependencies
import AutomatedTradingBot.Source.Datasets.Lifecycle

/-!
# Currentness and invalidation

`datasets/currentness.py`, and `bind_dataset_currentness` of `datasets/lifecycle.py`:
the currentness of one subject at a time, and the breadth-first propagation of an
invalidation along the edges of a provenance graph. A set of node identities is a list
of them; the search is given as many rounds as the graph has nodes.
-/

namespace ATB.Datasets

open Instruments (EvidenceRef)

local instance lawfulBEq_identity {kind : IdKind} : LawfulBEq (OpaqueId kind) := inferInstance

/-- What the module raises. -/
inductive CurrentnessError where
  | python (error : PyError)
  | freshnessPolicy (message : String)
  | invalidation (message : String)
  | graph (error : GraphError)
deriving DecidableEq

def freshnessPolicyLead : Lead := ⟨"c10-freshness-policy", by decide, by decide⟩
def currentnessLead : Lead := ⟨"c10-currentness", by decide, by decide⟩
def invalidationTriggerLead : Lead := ⟨"c10-invalidation-trigger", by decide, by decide⟩
def invalidationLead : Lead := ⟨"c10-invalidation", by decide, by decide⟩
def datasetCurrentnessLead : Lead := ⟨"c10-dataset-currentness", by decide, by decide⟩

def CurrentnessState.value : CurrentnessState → String
  | .current => "CURRENT"
  | .stale => "STALE"
  | .unknown => "UNKNOWN"

/-! ## Freshness -/

/-- `FreshnessHorizon`, whose duration is in microseconds. -/
@[ext]
structure FreshnessHorizon (py : Platform) where
  subjectIdentity : String
  horizon : Int
  evidenceRef : EvidenceRef
  subjectText : py.text "subject identity" subjectIdentity = .ok ()
  positive : 0 < horizon

instance {py : Platform} : DecidableEq (FreshnessHorizon py) := fun a b =>
  decidable_of_iff (a.subjectIdentity = b.subjectIdentity ∧ a.horizon = b.horizon ∧ a.evidenceRef = b.evidenceRef)
    FreshnessHorizon.ext_iff.symm

variable {py : Platform}

def FreshnessHorizon.body (h : FreshnessHorizon py) : Json := .obj
  [("evidence_ref", h.evidenceRef.mapping), ("horizon_microseconds", .int h.horizon),
    ("subject_identity", .str h.subjectIdentity)]

/-- The horizons of a policy, one a subject. -/
def canonicalHorizons (given : List (FreshnessHorizon py)) : Except CurrentnessError (List (FreshnessHorizon py)) :=
  uniqueById (.freshnessPolicy "CONFLICTING_FRESHNESS_HORIZON") (·.subjectIdentity) (·.body) given

/-- `FreshnessPolicy.derived_id`. -/
def freshnessPolicyIdOf (policyRef : EvidenceRef) (horizons : List (FreshnessHorizon py)) : FreshnessPolicyId :=
  derived py freshnessPolicyLead "ATIS:C10:FRESHNESS_POLICY:1"
    (.obj [("horizons", .arr (horizons.map (·.body))), ("policy_ref", policyRef.mapping)])

structure FreshnessPolicy (py : Platform) where
  policyId : FreshnessPolicyId
  policyRef : EvidenceRef
  horizons : List (FreshnessHorizon py)
  canonical : ∃ given, canonicalHorizons given = .ok horizons
  content : policyId = freshnessPolicyIdOf policyRef horizons

/-- `horizon_for`, but its text check. -/
def FreshnessPolicy.horizonFor (policy : FreshnessPolicy py) (subjectIdentity : String) : Option (FreshnessHorizon py) :=
  policy.horizons.find? fun h => h.subjectIdentity = subjectIdentity

structure CurrentnessAssessment where
  assessmentId : CurrentnessAssessmentId
  contentDigest : EvidenceContentDigest
  subjectIdentity : String
  evidenceRef : EvidenceRef
  evidenceTime : Option Timestamp
  policyId : FreshnessPolicyId
  policyRef : EvidenceRef
  evaluationTime : Timestamp
  boundary : Option Timestamp
  state : CurrentnessState
  reasons : List String
deriving DecidableEq

/-- The state at a time, the reason and the boundary. -/
def freshness (horizon : Option (FreshnessHorizon py)) (evidenceTime : Option Timestamp) (evaluationTime : Timestamp) :
    Except CurrentnessError (CurrentnessState × String × Option Timestamp) :=
  match horizon, evidenceTime with
  | none, _ => .ok (.unknown, "APPLICABLE_FRESHNESS_HORIZON_NOT_ESTABLISHED", none)
  | some _, none => .ok (.unknown, "CURRENTNESS_EVIDENCE_UNAVAILABLE", none)
  | some h, some t => do
    let boundary ← orRaise (.freshnessPolicy "FRESHNESS_BOUNDARY_OUT_OF_RANGE") (t.value.add? h.horizon)
    if evaluationTime.value < boundary then
      return (.current, "EVALUATION_BEFORE_FRESHNESS_BOUNDARY", some ⟨boundary⟩)
    else return (.stale, "EVALUATION_AT_OR_AFTER_FRESHNESS_BOUNDARY", some ⟨boundary⟩)

def timestampOrNull (t : Option Timestamp) : Json := (t.map timestampText).getD .null

def assessCurrentness (subjectIdentity : String) (evidenceRef : EvidenceRef) (evidenceTime : Option Timestamp)
    (policy : FreshnessPolicy py) (evaluationTime : Timestamp) : Except CurrentnessError CurrentnessAssessment := do
  (py.text "subject identity" subjectIdentity).mapError .python
  let (state, reason, boundary) ← freshness (policy.horizonFor subjectIdentity) evidenceTime evaluationTime
  let body := Json.obj
    [("boundary", timestampOrNull boundary), ("evaluation_time", timestampText evaluationTime),
      ("evidence_ref", evidenceRef.mapping), ("evidence_time", timestampOrNull evidenceTime),
      ("policy_id", .str policy.policyId.value), ("policy_ref", policy.policyRef.mapping),
      ("reasons", .arr [.str reason]), ("state", .str state.value), ("subject_identity", .str subjectIdentity)]
  return {
    assessmentId := derived py currentnessLead "ATIS:C10:CURRENTNESS_ASSESSMENT:1" body
    contentDigest := digest py "ATIS:C10:CURRENTNESS_ASSESSMENT:1" body
    subjectIdentity
    evidenceRef
    evidenceTime
    policyId := policy.policyId
    policyRef := policy.policyRef
    evaluationTime
    boundary
    state
    reasons := [reason] }

/-! ## Dataset currentness -/

structure DatasetCurrentnessAssessment where
  assessmentId : DatasetCurrentnessAssessmentId
  contractVersion : String
  datasetVersionId : DatasetVersionId
  freshnessPolicyId : FreshnessPolicyId
  freshnessPolicyRef : EvidenceRef
  evaluatedAt : Timestamp
  dependencySetId : DependencySetId
  dependencyEvidenceRefs : List EvidenceRef
  dependencyStateDigest : EvidenceContentDigest
  state : CurrentnessState
  reasons : List String
  evidenceRefs : List EvidenceRef
  resourcePolicyId : DatasetLifecycleResourcePolicyId
  invalidationEventId : Option InvalidationEventId
  affectedSetId : Option AffectedSetId
  propagationRunId : Option PropagationRunId
  lifecycleReasons : List String
  contentDigest : EvidenceContentDigest

/-- The arguments of `bind_dataset_currentness` but the assessment, the event and the record. -/
structure DatasetBinding where
  contractVersion : String
  datasetVersionId : DatasetVersionId
  dependencySetId : DependencySetId
  dependencyEvidenceRefs : List EvidenceRef
  dependencyStateDigest : EvidenceContentDigest
  evidenceRefs : List EvidenceRef
  resourcePolicy : DatasetLifecycleResourcePolicy

def idOrNull {kind : IdKind} (i : Option (OpaqueId kind)) : Json := (i.map fun i => Json.str i.value).getD .null

def bindDatasetCurrentness (py : Platform) (binding : DatasetBinding) (assessment : CurrentnessAssessment)
    (event : Option InvalidationEvent) (record : Option PropagationRecord) :
    Except LifecycleError DatasetCurrentnessAssessment := do
  let dependencyRefs ← refs binding.dependencyEvidenceRefs false
  let evidenceRefs ← refs binding.evidenceRefs false
  let (state, lifecycleReasons) ←
    lifecycleCurrentnessState py binding.datasetVersionId assessment.state event record
  raiseIf (∃ r ∈ record, r.resourcePolicyId ≠ binding.resourcePolicy.policyId)
    (.propagation "PROPAGATION_RESOURCE_POLICY_SUBSTITUTION")
  let canonicalReasons ← reasons py (assessment.reasons ++ lifecycleReasons) binding.resourcePolicy
  text py "contract_version" binding.contractVersion
  let eventId := event.map (·.eventId)
  let affectedSetId := event.map (·.affectedSetId)
  let runId := record.map (·.propagationRunId)
  let body := Json.obj
    [("contract_version", .str binding.contractVersion), ("dataset_version_id", .str binding.datasetVersionId.value),
      ("freshness_policy_id", .str assessment.policyId.value), ("freshness_policy_ref", ref assessment.policyRef),
      ("evaluated_at", timestampText assessment.evaluationTime), ("dependency_set_id", .str binding.dependencySetId.value),
      ("dependency_evidence_refs", evidence dependencyRefs),
      ("dependency_state_digest", .str binding.dependencyStateDigest.value), ("state", .str state.value),
      ("reasons", .arr (canonicalReasons.map .str)), ("evidence_refs", evidence evidenceRefs),
      ("resource_policy_id", .str binding.resourcePolicy.policyId.value), ("invalidation_event_id", idOrNull eventId),
      ("affected_set_id", idOrNull affectedSetId), ("propagation_run_id", idOrNull runId),
      ("lifecycle_reasons", .arr (lifecycleReasons.map .str))]
  return {
    assessmentId := derived py datasetCurrentnessLead "ATIS:C10:DATASET_CURRENTNESS_ASSESSMENT:1" body
    contractVersion := binding.contractVersion
    datasetVersionId := binding.datasetVersionId
    freshnessPolicyId := assessment.policyId
    freshnessPolicyRef := assessment.policyRef
    evaluatedAt := assessment.evaluationTime
    dependencySetId := binding.dependencySetId
    dependencyEvidenceRefs := dependencyRefs
    dependencyStateDigest := binding.dependencyStateDigest
    state
    reasons := canonicalReasons
    evidenceRefs
    resourcePolicyId := binding.resourcePolicy.policyId
    invalidationEventId := eventId
    affectedSetId
    propagationRunId := runId
    lifecycleReasons
    contentDigest := digest py "ATIS:C10:DATASET_CURRENTNESS_ASSESSMENT:1" body }

/-! ## Invalidation -/

/-- `InvalidationTrigger.derived_id`. -/
def triggerIdOf (py : Platform) (nodes : List ProvenanceNodeId) (dependencies : List DependencyId)
    (evidenceRefs : List EvidenceRef) : InvalidationTriggerId :=
  derived py invalidationTriggerLead "ATIS:C10:INVALIDATION_TRIGGER:1"
    (.obj [("changed_dependency_ids", ids dependencies), ("changed_node_ids", ids nodes),
      ("evidence_refs", refItems evidenceRefs)])

structure InvalidationTrigger (py : Platform) where
  triggerId : InvalidationTriggerId
  changedNodeIds : List ProvenanceNodeId
  changedDependencyIds : List DependencyId
  evidenceRefs : List EvidenceRef
  scope : changedNodeIds ≠ [] ∨ changedDependencyIds ≠ []
  sortedNodes : sortedSetOn OpaqueId.value changedNodeIds = changedNodeIds
  sortedDependencies : sortedSetOn OpaqueId.value changedDependencyIds = changedDependencyIds
  refs : ∃ given, canonicalizeEvidenceRefs given = .ok evidenceRefs
  content : triggerId = triggerIdOf py changedNodeIds changedDependencyIds evidenceRefs

theorem InvalidationTrigger.eq_iff {a b : InvalidationTrigger py} :
    (a.triggerId = b.triggerId ∧ a.changedNodeIds = b.changedNodeIds ∧
      a.changedDependencyIds = b.changedDependencyIds ∧ a.evidenceRefs = b.evidenceRefs) ↔ a = b := by
  obtain ⟨trigger, nodes, dependencies, refs, _, _, _, _, _⟩ := a
  obtain ⟨trigger', nodes', dependencies', refs', _, _, _, _, _⟩ := b
  constructor
  · show trigger = trigger' ∧ nodes = nodes' ∧ dependencies = dependencies' ∧ refs = refs' → _
    rintro ⟨rfl, rfl, rfl, rfl⟩
    rfl
  · intro h
    injection h with htrigger hnodes hdependencies hrefs
    exact ⟨htrigger, hnodes, hdependencies, hrefs⟩

instance : DecidableEq (InvalidationTrigger py) := fun _ _ => decidable_of_iff _ InvalidationTrigger.eq_iff

def InvalidationTrigger.body (t : InvalidationTrigger py) : Json := .obj
  [("changed_dependency_ids", ids t.changedDependencyIds), ("changed_node_ids", ids t.changedNodeIds),
    ("evidence_refs", refItems t.evidenceRefs), ("trigger_id", .str t.triggerId.value)]

inductive PropagationState where
  | complete
  | unknown
deriving DecidableEq

def PropagationState.value : PropagationState → String
  | .complete => "COMPLETE"
  | .unknown => "UNKNOWN"

/-- The result of `assess_invalidation`; the lifecycle reads part of it (`read`). -/
structure InvalidationResult where
  assessmentId : InvalidationAssessmentId
  contentDigest : EvidenceContentDigest
  triggerIds : List InvalidationTriggerId
  graphId : ProvenanceGraphId
  resourcePolicyId : DatasetLifecycleResourcePolicyId
  affectedNodeIds : List ProvenanceNodeId
  propagationState : PropagationState
  reasons : List String
deriving DecidableEq

def InvalidationResult.read (a : InvalidationResult) : InvalidationAssessment :=
  ⟨a.triggerIds, a.graphId, a.resourcePolicyId, a.affectedNodeIds, decide (a.propagationState = .complete)⟩

/-- `_validated_graph`. -/
def validatedGraph (graph : ProvenanceGraph py) (policy : DatasetLifecycleResourcePolicy) :
    Except CurrentnessError (ProvenanceGraph py) := do
  raiseIf (graph.resourcePolicyId ≠ policy.policyId) (.invalidation "GRAPH_RESOURCE_POLICY_IDENTITY_CONFLICT")
  let inputs := ⟨graph.nodes, graph.edges, graph.dependencies, graph.dependencies.map (·.dependencyId)⟩
  let rebuilt ← (buildDependencyGraph inputs (some policy)).mapError .graph
  raiseIf (rebuilt ≠ graph) (.graph (.graphValidation "PROVENANCE_GRAPH_IDENTITY_CONTENT_CONFLICT"))
  return rebuilt

/-- `dependency_nodes.get(dependency_id)`; nothing for a dependency that the graph does not have. -/
def dependencyNodes (graph : ProvenanceGraph py) (dependencyId : DependencyId) : List ProvenanceNodeId :=
  if dependencyId ∈ graph.dependencies.map (·.dependencyId) then
    (graph.nodes.filter fun n => n.subjectIdentity = dependencyId.value).map (·.nodeId)
  else []

/-- What a trigger changes that is in the graph. -/
def triggerRoots (graph : ProvenanceGraph py) (t : InvalidationTrigger py) : List ProvenanceNodeId :=
  (t.changedNodeIds.filter fun id => id ∈ graph.nodes.map (·.nodeId)) ++ t.changedDependencyIds.flatMap (dependencyNodes graph)

/-- A node or dependency of a trigger is not in the graph. -/
def unresolved (graph : ProvenanceGraph py) (t : InvalidationTrigger py) : Bool :=
  t.changedNodeIds.any (fun id => decide (id ∉ graph.nodes.map (·.nodeId))) ||
    t.changedDependencyIds.any fun id => decide (dependencyNodes graph id = [])

/-- The search: the affected nodes, the visited ones, those that wait with their depth, and the edges followed. -/
structure Search where
  affected : List ProvenanceNodeId
  visited : List ProvenanceNodeId
  queue : List (ProvenanceNodeId × Nat)
  events : Nat
deriving DecidableEq

/-- The search goes on, or it is exhausted for a reason. -/
abbrev Searching := Except (String × Search)

/-- The targets of a node's edges with their relations. -/
def outgoing (graph : ProvenanceGraph py) (id : ProvenanceNodeId) : List (ProvenanceNodeId × String) :=
  ((graph.edges.filter fun e => e.source = id).map fun e => (e.target, e.relation)).insertionSort
    fun a b => toLex (a.1.value, a.2) ≤ toLex (b.1.value, b.2)

/-- One edge out of a node at a depth. -/
def follow (policy : DatasetLifecycleResourcePolicy) (depth : Nat) (s : Search) (edge : ProvenanceNodeId × String) :
    Searching Search := do
  let s := { s with events := s.events + 1 }
  raiseIf (policy.value .maxPropagationEventsPerRun < s.events) ("MAX_PROPAGATION_EVENTS_PER_RUN_EXHAUSTED", s)
  raiseIf (edge.2 ≠ "DERIVES") ("INVALIDATION_RELATION_SEMANTICS_NOT_ESTABLISHED", s)
  if edge.1 ∈ s.visited then return s
  else
    raiseIf (policy.value .maxAffectedSetMembers ≤ s.affected.length) ("MAX_AFFECTED_SET_MEMBERS_EXHAUSTED", s)
    return { s with
             affected := edge.1 :: s.affected
             visited := edge.1 :: s.visited
             queue := s.queue ++ [(edge.1, depth + 1)] }

/-- One round: the edges of the first node of the queue. -/
def expand (graph : ProvenanceGraph py) (policy : DatasetLifecycleResourcePolicy) (s : Search) : Searching Search :=
  match s.queue with
  | [] => .ok s
  | (current, depth) :: queue => do
    let s := { s with queue }
    let targets := outgoing graph current
    raiseIf (targets ≠ [] ∧ policy.value .maxInvalidationTraversalDepth ≤ depth)
      ("MAX_INVALIDATION_TRAVERSAL_DEPTH_EXHAUSTED", s)
    targets.foldlM (follow policy depth) s

def search (graph : ProvenanceGraph py) (policy : DatasetLifecycleResourcePolicy) : Nat → Search → Searching Search
  | 0, s => .ok s
  | n + 1, s => do
    let s ← expand graph policy s
    search graph policy n s

/-- The state and reason of an assessment. -/
def conclusion (isUnresolved : Bool) (result : Searching Search) : PropagationState × String :=
  match isUnresolved, result with
  | true, _ => (.unknown, "INVALIDATION_TRIGGER_SCOPE_UNRESOLVED")
  | false, .error (reason, _) => (.unknown, reason)
  | false, .ok _ => (.complete, "AFFECTED_SET_COMPLETE")

/-- The affected nodes that the search found before it ended. -/
def affectedOf : Searching Search → List ProvenanceNodeId
  | .ok s => s.affected
  | .error (_, s) => s.affected

def assessInvalidation (triggers : List (InvalidationTrigger py)) (graph : ProvenanceGraph py)
    (policy : DatasetLifecycleResourcePolicy) : Except CurrentnessError InvalidationResult := do
  raiseIf (triggers = []) (.python ⟨.typeError, "triggers must be a nonempty tuple"⟩)
  let graph ← validatedGraph graph policy
  let canonicalTriggers ←
    uniqueById (.invalidation "INVALIDATION_TRIGGER_IDENTITY_CONFLICT") (·.triggerId.value) (·.body) triggers
  let roots := sortedSetOn OpaqueId.value (canonicalTriggers.flatMap (triggerRoots graph))
  let result := search graph policy graph.nodes.length ⟨[], roots, roots.map fun id => (id, 0), 0⟩
  let (state, reason) := conclusion (canonicalTriggers.any (unresolved graph)) result
  let affected := (affectedOf result).insertionSort fun a b => a.value ≤ b.value
  let triggerIds := canonicalTriggers.map (·.triggerId)
  let body := Json.obj
    [("affected_node_ids", ids affected), ("graph_id", .str graph.graphId.value),
      ("propagation_state", .str state.value), ("reasons", .arr [.str reason]),
      ("resource_policy_id", .str policy.policyId.value), ("trigger_ids", ids triggerIds)]
  return {
    assessmentId := derived py invalidationLead "ATIS:C10:INVALIDATION_ASSESSMENT:1" body
    contentDigest := digest py "ATIS:C10:INVALIDATION_ASSESSMENT:1" body
    triggerIds
    graphId := graph.graphId
    resourcePolicyId := policy.policyId
    affectedNodeIds := affected
    propagationState := state
    reasons := [reason] }

end ATB.Datasets
