import AutomatedTradingBot.Framework.Topological
import AutomatedTradingBot.Source.Datasets.Foundation

/-!
# Provenance graphs

`datasets/provenance.py`: nodes, edges and dependencies, whose identities are derived
from their content, and the bounded acyclic graph that they are built into. A digest
that a constructor computes and compares is a field of the value that says so. The
values of a `dict` that is sorted by its keys are sorted by what the keys are of them.
-/

namespace ATB.Datasets

open Instruments (EvidenceRef)

/-- What the module raises: an exception of `_text`, a `GraphValidationError` or a
`ResourcePolicyError`. -/
inductive GraphError where
  | python (error : PyError)
  | graphValidation (message : String)
  | resourcePolicy (message : String)
deriving DecidableEq

/-- `_refs`, with the name in upper case. -/
def graphRefs (values : List EvidenceRef) (name : String) : Except GraphError (List EvidenceRef) :=
  if values = [] then .error (.graphValidation (name ++ "_NOT_ESTABLISHED"))
  else
    (canonicalizeEvidenceRefs values).mapError fun
      | .valueError message => .graphValidation message
      | .identityConflict message => .graphValidation message

/-- `[_ref(item) for item in values]`. -/
def refItems (values : List EvidenceRef) : Json := .arr (values.map EvidenceRef.mapping)

def nodeLead : Lead := ⟨"c09-node", by decide, by decide⟩
def edgeLead : Lead := ⟨"c09-edge", by decide, by decide⟩
def graphLead : Lead := ⟨"c09-graph", by decide, by decide⟩
def dependenciesLead : Lead := ⟨"c09-dependencies", by decide, by decide⟩

section Values

variable (py : Platform)

/-- `ProvenanceNode.derived_id`, but its text checks. -/
def nodeIdOf (kind subjectIdentity : String) (evidenceRefs : List EvidenceRef) : ProvenanceNodeId :=
  derived py nodeLead "ATIS:C09:PROVENANCE_NODE:1"
    (.obj [("evidence_refs", refItems evidenceRefs), ("kind", .str kind), ("subject_identity", .str subjectIdentity)])

structure ProvenanceNode where
  nodeId : ProvenanceNodeId
  kind : String
  subjectIdentity : String
  evidenceRefs : List EvidenceRef
  kindText : py.text "node kind" kind = .ok ()
  subjectText : py.text "subject identity" subjectIdentity = .ok ()
  refs : ∃ given, graphRefs given "NODE EVIDENCE" = .ok evidenceRefs
  content : nodeId = nodeIdOf py kind subjectIdentity evidenceRefs
deriving DecidableEq

/-- `ProvenanceEdge.derived_id`, but its text check. -/
def edgeIdOf (source target : ProvenanceNodeId) (relation : String) (evidenceRefs : List EvidenceRef) :
    ProvenanceEdgeId :=
  derived py edgeLead "ATIS:C09:PROVENANCE_EDGE:1"
    (.obj [("evidence_refs", refItems evidenceRefs), ("relation", .str relation), ("source", .str source.value),
      ("target", .str target.value)])

structure ProvenanceEdge where
  edgeId : ProvenanceEdgeId
  source : ProvenanceNodeId
  target : ProvenanceNodeId
  relation : String
  evidenceRefs : List EvidenceRef
  noSelfEdge : source ≠ target
  relationText : py.text "edge relation" relation = .ok ()
  refs : ∃ given, graphRefs given "EDGE EVIDENCE" = .ok evidenceRefs
  content : edgeId = edgeIdOf py source target relation evidenceRefs
deriving DecidableEq

end Values

structure DependencyRef where
  dependencyId : DependencyId
  contentDigest : EvidenceContentDigest
  evidenceRefs : List EvidenceRef
  refs : ∃ given, graphRefs given "DEPENDENCY EVIDENCE" = .ok evidenceRefs
deriving DecidableEq

variable {py : Platform}

def ProvenanceNode.body (n : ProvenanceNode py) : Json := .obj
  [("evidence_refs", refItems n.evidenceRefs), ("kind", .str n.kind), ("node_id", .str n.nodeId.value),
    ("subject_identity", .str n.subjectIdentity)]

def ProvenanceEdge.body (e : ProvenanceEdge py) : Json := .obj
  [("edge_id", .str e.edgeId.value), ("evidence_refs", refItems e.evidenceRefs), ("relation", .str e.relation),
    ("source", .str e.source.value), ("target", .str e.target.value)]

def DependencyRef.body (d : DependencyRef) : Json := .obj
  [("content_digest", .str d.contentDigest.value), ("dependency_id", .str d.dependencyId.value),
    ("evidence_refs", refItems d.evidenceRefs)]

/-! ## The graph -/

structure ProvenanceGraph (py : Platform) where
  graphId : ProvenanceGraphId
  dependencySetId : DependencySetId
  nodes : List (ProvenanceNode py)
  edges : List (ProvenanceEdge py)
  dependencies : List DependencyRef
  resourcePolicyId : DatasetLifecycleResourcePolicyId
  contentDigest : EvidenceContentDigest
deriving DecidableEq

/-- `_unique_by_id`; other loops of the kind have an error of their own. -/
def uniqueById {α ε : Type} (conflict : ε) (identity : α → String) (body : α → Json) (values : List α) :
    Except ε (List α) := do
  let found ← values.foldlM (fun found value => do
    raiseIf ((Dict.get? (identity value) found).any fun previous => decide ((body previous).dumps ≠ (body value).dumps))
      conflict
    return Dict.set (identity value) value found) []
  return (Dict.values found).insertionSort fun a b => identity a ≤ identity b

/-- The edges as pairs of identities. -/
def arrows (edges : List (ProvenanceEdge py)) : List (ProvenanceNodeId × ProvenanceNodeId) :=
  edges.map fun e => (e.source, e.target)

/-- `_assert_acyclic`; a round more than there are nodes would find no node ready. -/
def assertAcyclic (nodes : List (ProvenanceNode py)) (edges : List (ProvenanceEdge py)) : Except GraphError Unit := do
  let nodeIds := nodes.map (·.nodeId)
  raiseIf (∃ e ∈ edges, e.source ∉ nodeIds ∨ e.target ∉ nodeIds)
    (.graphValidation "PROVENANCE_EDGE_ENDPOINT_NOT_ESTABLISHED")
  let last := Topological.rounds OpaqueId.value (arrows edges) nodes.length
    (Topological.start OpaqueId.value nodeIds (arrows edges))
  raiseIf (last.visited ≠ nodes.length) (.graphValidation "PROVENANCE_GRAPH_CYCLE")

/-- The arguments of `build_dependency_graph` but the policy. -/
structure GraphInputs (py : Platform) where
  nodes : List (ProvenanceNode py)
  edges : List (ProvenanceEdge py)
  dependencies : List DependencyRef
  requiredDependencies : List DependencyId

/-- The checks of the sizes. -/
def GraphInputs.checkLimits (inputs : GraphInputs py) (policy : DatasetLifecycleResourcePolicy) :
    Except GraphError Unit := do
  raiseIf (policy.value .maxProvenanceNodes < inputs.nodes.length) (.resourcePolicy "MAX_PROVENANCE_NODES_EXHAUSTED")
  raiseIf (policy.value .maxProvenanceEdges < inputs.edges.length) (.resourcePolicy "MAX_PROVENANCE_EDGES_EXHAUSTED")
  raiseIf (policy.value .maxDependenciesPerDatasetVersion < inputs.dependencies.length)
    (.resourcePolicy "MAX_DEPENDENCIES_PER_DATASET_VERSION_EXHAUSTED")

/-- The graph of canonical nodes, edges and dependencies. -/
def graphOf (nodes : List (ProvenanceNode py)) (edges : List (ProvenanceEdge py)) (dependencies : List DependencyRef)
    (policyId : DatasetLifecycleResourcePolicyId) : ProvenanceGraph py :=
  let dependencyBodies := Json.arr (dependencies.map (·.body))
  let body := Json.obj
    [("dependencies", dependencyBodies), ("edges", .arr (edges.map (·.body))), ("nodes", .arr (nodes.map (·.body))),
      ("resource_policy_id", .str policyId.value)]
  { graphId := derived py graphLead "ATIS:C09:PROVENANCE_GRAPH:1" body
    dependencySetId := derived py dependenciesLead "ATIS:C09:DEPENDENCY_SET:1" dependencyBodies
    nodes
    edges
    dependencies
    resourcePolicyId := policyId
    contentDigest := digest py "ATIS:C09:PROVENANCE_GRAPH:1" body }

def buildDependencyGraph (inputs : GraphInputs py) (policy : Option DatasetLifecycleResourcePolicy) :
    Except GraphError (ProvenanceGraph py) := do
  let policy ← orRaise (.resourcePolicy "RESOURCE_POLICY_NOT_ESTABLISHED") policy
  inputs.checkLimits policy
  let nodes ← uniqueById (.graphValidation "CONFLICTING_DUPLICATE_IDENTITY") (·.nodeId.value) (·.body) inputs.nodes
  let edges ← uniqueById (.graphValidation "CONFLICTING_DUPLICATE_IDENTITY") (·.edgeId.value) (·.body) inputs.edges
  let dependencies ← uniqueById (.graphValidation "DEPENDENCY_IDENTITY_CONFLICT") (·.dependencyId.value) (·.body)
    inputs.dependencies
  raiseIf (∃ required ∈ inputs.requiredDependencies, required ∉ dependencies.map (·.dependencyId))
    (.graphValidation "REQUIRED_DEPENDENCY_NOT_ESTABLISHED")
  assertAcyclic nodes edges
  return graphOf nodes edges dependencies policy.policyId

end ATB.Datasets
