import AutomatedTradingBot.Source.Datasets.Foundation
import AutomatedTradingBot.Source.StateCodec

/-!
# Frozen research plans and their approvals

The content-addressed values of `research/identity.py`, and `FrozenResearchPlan` and
`ApprovalEvidence` of `research/research_governance.py`: what a constructor checks,
the canonical body, and the way back from a body that was read from the journal.

Amounts of trials are natural numbers: a negative one is refused like zero. A field
of a decoded approval that is not of its type, which `validate_for` refuses, is
refused by the decoder.
-/

namespace ATB

/-- The exceptions of `research_governance.py`: `ResearchGovernanceError`, `JournalError`,
and those that the code it calls raises. -/
inductive Raised where
  | governance (message : String)
  | journal (message : String)
  | python (error : PyError)
deriving DecidableEq

/-- What an expression that raises one of Python's own exceptions raises. -/
def Raised.ofOutcome {α : Type} (x : Outcome α) : Except Raised α := x.mapError .python

namespace Governance

/-! ## Texts -/

/-- `_text`. -/
def text (name value : String) : Except Raised Unit :=
  raiseIf (value = "" ∨ Text.strip (Text.chars value) ≠ Text.chars value)
    (.governance (name ++ " must be nonempty unpadded text"))

/-- `_safe_id`. -/
def safeId (name value : String) : Except Raised Unit := do
  text name value
  raiseIf (Datasets.isIdentity (Text.chars value) = false) (.governance (name ++ " is not canonical"))

/-- `_SHA256.fullmatch(value)`. -/
def isDigest (value : String) : Bool := Text.fullmatch "sha256:" Text.isLowerHex 64 64 value

/-- `_digest`. -/
def digestText (name value : String) : Except Raised Unit := do
  text name value
  raiseIf (isDigest value = false) (.governance (name ++ " must be a canonical SHA-256 digest"))

/-- `_unique_text`. -/
def uniqueText (name : String) (values : List String) : Except Raised Unit := do
  raiseIf (¬ values.Nodup) (.governance (name ++ " must be a unique tuple"))
  values.forM (text name)

/-! ## Research identities -/

/-- The subclasses of `_ResearchId` that a plan holds. -/
inductive ResearchIdKind where
  | project
  | hypothesis
  | experiment
deriving DecidableEq

/-- `_ID.fullmatch(value)`: the pattern admits the four kinds of research identity. -/
def isResearchId (value : String) : Bool := ResearchRunId.canonical ⟨value⟩

/-- `_ResearchId`. -/
structure ResearchId (kind : ResearchIdKind) where
  value : String
  canonical : isResearchId value = true
deriving DecidableEq

abbrev ResearchProjectId := ResearchId .project
abbrev HypothesisId := ResearchId .hypothesis
abbrev ExperimentId := ResearchId .experiment

/-- `HypothesisId(value)` and its siblings. -/
def ResearchId.make {kind : ResearchIdKind} (value : String) : Outcome (ResearchId kind) :=
  if h : isResearchId value = true then .ok ⟨value, h⟩
  else .error ⟨.researchIdentityError, "identity is not canonical"⟩

/-- `_text` of `identity.py`. -/
def identityText (name value : String) : Outcome Unit :=
  raiseIf (value = "" ∨ Text.strip (Text.chars value) ≠ Text.chars value)
    ⟨.researchIdentityError, name ++ " must be nonempty and unpadded"⟩

structure Hypothesis where
  hypothesisId : HypothesisId
  projectId : ResearchProjectId
  proposition : String
deriving DecidableEq

structure Experiment where
  experimentId : ExperimentId
  hypothesisId : HypothesisId
  configurationDigest : String
  version : String
  purpose : String
deriving DecidableEq

/-- `ResearchRun`. -/
structure ResearchRun where
  runId : ResearchRunId
  experimentId : ExperimentId
  reproducibilityDigest : String
  replayOf : Option ResearchRunId
deriving DecidableEq

section Identity

variable (py : Platform)

/-- `_derive`, for the kind and the domain that it makes of it. -/
def derive (kind domain : String) (body : Json) : Outcome String := do
  return "atis:research:" ++ kind ++ ":v1:" ++ (← py.digest domain body)

/-- `Hypothesis.create`. -/
def Hypothesis.create (projectId : ResearchProjectId) (proposition : String) : Outcome Hypothesis := do
  identityText "proposition" proposition
  let value ← derive py "hypothesis" "ATIS-S4-01-HYPOTHESIS-V1"
    (.obj [("project_id", .str projectId.value), ("proposition", .str proposition)])
  return ⟨← ResearchId.make value, projectId, proposition⟩

/-- `Experiment.create`. -/
def Experiment.create (hypothesisId : HypothesisId) (configurationDigest version purpose : String) :
    Outcome Experiment := do
  identityText "configuration_digest" configurationDigest
  raiseIf (isDigest configurationDigest = false) ⟨.researchIdentityError, "configuration_digest must be SHA-256"⟩
  identityText "version" version
  identityText "purpose" purpose
  let value ← derive py "experiment" "ATIS-S4-01-EXPERIMENT-V1"
    (.obj [("configuration_digest", .str configurationDigest), ("hypothesis_id", .str hypothesisId.value),
      ("purpose", .str purpose), ("version", .str version)])
  return ⟨← ResearchId.make value, hypothesisId, configurationDigest, version, purpose⟩

end Identity

/-! ## Plans -/

inductive PartitionRole where
  | development
  | validation
  | outOfSample
  | protectedHoldout
deriving DecidableEq

def PartitionRole.value : PartitionRole → String
  | .development => "DEVELOPMENT"
  | .validation => "VALIDATION"
  | .outOfSample => "OUT_OF_SAMPLE"
  | .protectedHoldout => "PROTECTED_HOLDOUT"

/-- `PartitionRole(text)`. -/
def partitionOf? (text : String) : Option PartitionRole :=
  [PartitionRole.development, .validation, .outOfSample, .protectedHoldout].find? fun p => p.value = text

structure FrozenResearchPlan where
  hypothesis : Hypothesis
  experiment : Experiment
  configurationDigest : String
  parameterDomain : List String
  objective : String
  datasetId : String
  datasetVersion : String
  partitionRole : PartitionRole
  maximumAdmittedTrials : Nat
  ownerApprovalReference : String
  policyIdentity : String
  predecessorPlanDigest : Option String
  planDigest : String
deriving DecidableEq

namespace FrozenResearchPlan

def hypothesisId (plan : FrozenResearchPlan) : HypothesisId := plan.hypothesis.hypothesisId

def experimentId (plan : FrozenResearchPlan) : ExperimentId := plan.experiment.experimentId

/-- `canonical_body`. -/
def canonicalBody (plan : FrozenResearchPlan) : Json :=
  .obj [("configuration_digest", .str plan.configurationDigest),
    ("dataset_id", .str plan.datasetId),
    ("dataset_version", .str plan.datasetVersion),
    ("experiment_id", .str plan.experimentId.value),
    ("experiment_purpose", .str plan.experiment.purpose),
    ("experiment_version", .str plan.experiment.version),
    ("hypothesis_id", .str plan.hypothesisId.value),
    ("hypothesis_project_id", .str plan.hypothesis.projectId.value),
    ("hypothesis_proposition", .str plan.hypothesis.proposition),
    ("maximum_admitted_trials", .int plan.maximumAdmittedTrials),
    ("objective", .str plan.objective),
    ("owner_approval_reference", .str plan.ownerApprovalReference),
    ("parameter_domain", .arr (plan.parameterDomain.map .str)),
    ("partition", .str plan.partitionRole.value),
    ("policy_identity", .str plan.policyIdentity),
    ("predecessor_plan_digest", .ofOption .str plan.predecessorPlanDigest)]

/-- The body that `__post_init__`, `create` and `expand` write out to hash it. -/
def frozenBody (hypothesis : Hypothesis) (experiment : Experiment) (configurationDigest : String)
    (parameterDomain : List String) (objective datasetId datasetVersion : String) (partitionRole : PartitionRole)
    (maximumAdmittedTrials : Nat) (ownerApprovalReference policyIdentity : String)
    (predecessorPlanDigest : Option String) : Json :=
  .obj [("configuration_digest", .str configurationDigest),
    ("dataset_id", .str datasetId),
    ("dataset_version", .str datasetVersion),
    ("experiment_id", .str experiment.experimentId.value),
    ("hypothesis_id", .str hypothesis.hypothesisId.value),
    ("hypothesis_project_id", .str hypothesis.projectId.value),
    ("hypothesis_proposition", .str hypothesis.proposition),
    ("experiment_version", .str experiment.version),
    ("experiment_purpose", .str experiment.purpose),
    ("maximum_admitted_trials", .int maximumAdmittedTrials),
    ("objective", .str objective),
    ("owner_approval_reference", .str ownerApprovalReference),
    ("parameter_domain", .arr (parameterDomain.map .str)),
    ("partition", .str partitionRole.value),
    ("policy_identity", .str policyIdentity),
    ("predecessor_plan_digest", .ofOption .str predecessorPlanDigest)]

section Constructor

variable (py : Platform)

/-- `EvidenceContentDigest.from_bytes(b"ATIS-S4-08-FROZEN-PLAN-V1\0" + canonical_json(body)).value`. -/
def digestOf (body : Json) : Except Raised String :=
  Raised.ofOutcome (py.digest "ATIS-S4-08-FROZEN-PLAN-V1" body)

/-- The digest that `__post_init__` expects. -/
def digest (plan : FrozenResearchPlan) : Except Raised String :=
  digestOf py (frozenBody plan.hypothesis plan.experiment plan.configurationDigest plan.parameterDomain plan.objective
    plan.datasetId plan.datasetVersion plan.partitionRole plan.maximumAdmittedTrials plan.ownerApprovalReference
    plan.policyIdentity plan.predecessorPlanDigest)

/-- `__post_init__`. -/
def postInit (plan : FrozenResearchPlan) : Except Raised Unit := do
  let hypothesis ← Raised.ofOutcome (Hypothesis.create py plan.hypothesis.projectId plan.hypothesis.proposition)
  raiseIf (hypothesis ≠ plan.hypothesis) (.governance "hypothesis identity is not reconstructed")
  let experiment ← Raised.ofOutcome (Experiment.create py plan.experiment.hypothesisId
    plan.experiment.configurationDigest plan.experiment.version plan.experiment.purpose)
  raiseIf (experiment ≠ plan.experiment) (.governance "experiment identity is not reconstructed")
  raiseIf (plan.experiment.hypothesisId ≠ plan.hypothesis.hypothesisId)
    (.governance "experiment does not belong to hypothesis")
  raiseIf (plan.experiment.configurationDigest ≠ plan.configurationDigest)
    (.governance "experiment configuration substitution")
  digestText "configuration_digest" plan.configurationDigest
  uniqueText "parameter_domain" plan.parameterDomain
  raiseIf (plan.parameterDomain = []) (.governance "parameter_domain cannot be empty")
  text "objective" plan.objective
  safeId "dataset_id" plan.datasetId
  safeId "dataset_version" plan.datasetVersion
  raiseIf (plan.maximumAdmittedTrials = 0) (.governance "maximum_admitted_trials must be a positive integer")
  safeId "owner_approval_reference" plan.ownerApprovalReference
  safeId "policy_identity" plan.policyIdentity
  plan.predecessorPlanDigest.forM (digestText "predecessor_plan_digest")
  let expected ← plan.digest py
  raiseIf (plan.planDigest ≠ expected) (.governance "plan digest does not match frozen content")

/-- The plan is one that its constructor returned. -/
def Constructed (plan : FrozenResearchPlan) : Prop := plan.postInit py = .ok ()

instance (plan : FrozenResearchPlan) : Decidable (plan.Constructed py) :=
  inferInstanceAs (Decidable (plan.postInit py = .ok ()))

/-- `FrozenResearchPlan.create`. -/
def create (hypothesis : Hypothesis) (experiment : Experiment) (configurationDigest : String)
    (parameterDomain : List String) (objective datasetId datasetVersion : String) (partitionRole : PartitionRole)
    (maximumAdmittedTrials : Nat) (ownerApprovalReference policyIdentity : String) :
    Except Raised FrozenResearchPlan := do
  raiseIf (experiment.hypothesisId ≠ hypothesis.hypothesisId) (.governance "experiment does not belong to hypothesis")
  digestText "configuration_digest" configurationDigest
  raiseIf (experiment.configurationDigest ≠ configurationDigest) (.governance "experiment configuration substitution")
  uniqueText "parameter_domain" parameterDomain
  raiseIf (parameterDomain = []) (.governance "parameter_domain cannot be empty")
  text "objective" objective
  safeId "dataset_id" datasetId
  safeId "dataset_version" datasetVersion
  raiseIf (maximumAdmittedTrials = 0) (.governance "maximum_admitted_trials must be a positive integer")
  safeId "owner_approval_reference" ownerApprovalReference
  safeId "policy_identity" policyIdentity
  let planDigest ← digestOf py (frozenBody hypothesis experiment configurationDigest parameterDomain objective datasetId
    datasetVersion partitionRole maximumAdmittedTrials ownerApprovalReference policyIdentity none)
  let plan : FrozenResearchPlan := {
    hypothesis := hypothesis
    experiment := experiment
    configurationDigest := configurationDigest
    parameterDomain := parameterDomain
    objective := objective
    datasetId := datasetId
    datasetVersion := datasetVersion
    partitionRole := partitionRole
    maximumAdmittedTrials := maximumAdmittedTrials
    ownerApprovalReference := ownerApprovalReference
    policyIdentity := policyIdentity
    predecessorPlanDigest := none
    planDigest := planDigest }
  plan.postInit py
  return plan

/-- `FrozenResearchPlan.expand`. -/
def expand (predecessor : FrozenResearchPlan) (maximumAdmittedTrials : Nat)
    (ownerApprovalReference policyIdentity : String) : Except Raised FrozenResearchPlan := do
  raiseIf (maximumAdmittedTrials ≤ predecessor.maximumAdmittedTrials)
    (.governance "expanded budget must strictly increase")
  safeId "owner_approval_reference" ownerApprovalReference
  safeId "policy_identity" policyIdentity
  raiseIf (ownerApprovalReference = predecessor.ownerApprovalReference ∨ policyIdentity = predecessor.policyIdentity)
    (.governance "budget expansion requires new approval and policy identities")
  let planDigest ← digestOf py (frozenBody predecessor.hypothesis predecessor.experiment predecessor.configurationDigest
    predecessor.parameterDomain predecessor.objective predecessor.datasetId predecessor.datasetVersion
    predecessor.partitionRole maximumAdmittedTrials ownerApprovalReference policyIdentity predecessor.planDigest)
  let plan := { predecessor with
    maximumAdmittedTrials := maximumAdmittedTrials
    ownerApprovalReference := ownerApprovalReference
    policyIdentity := policyIdentity
    predecessorPlanDigest := some predecessor.planDigest
    planDigest := planDigest }
  plan.postInit py
  return plan

end Constructor

end FrozenResearchPlan

/-! ## Reading plans -/

/-- `body[k]`, of an object that has the key. -/
def member (k : String) (body : Json) : Json := (body.get? k).getD .null

/-- A text. -/
def text? : Json → Option String
  | .str s => some s
  | _ => none

/-- A text or `None`. -/
def optionalText? : Json → Option (Option String)
  | .null => some none
  | .str s => some (some s)
  | _ => none

/-- An integer that is not negative. -/
def natural? : Json → Option Nat
  | .int n => if 0 ≤ n then some n.toNat else none
  | _ => none

/-- A value that is equal to a natural number, as `True` is to 1. -/
def amount? : Json → Option Nat
  | .bool b => some (if b then 1 else 0)
  | j => natural? j

/-- A list of texts. -/
def texts? : Json → Option (List String)
  | .arr items => items.mapM text?
  | _ => none

/-- `set(body) == expected`. -/
def hasKeys (expected : List String) (fields : List (String × Json)) : Bool :=
  (expected.all fun k => fields.any fun f => f.1 == k) && fields.all fun f => f.1 ∈ expected

namespace FrozenResearchPlan

def fields : List String :=
  ["configuration_digest", "dataset_id", "dataset_version", "experiment_id", "experiment_purpose",
    "experiment_version", "hypothesis_id", "hypothesis_project_id", "hypothesis_proposition",
    "maximum_admitted_trials", "objective", "owner_approval_reference", "parameter_domain", "partition",
    "policy_identity", "predecessor_plan_digest"]

/-- The values of a body, as the arguments of the constructors, but the plan digest. -/
def ofBody? (body : Json) : Option FrozenResearchPlan := do
  let hypothesisId ← (ResearchId.make (← text? (member "hypothesis_id" body))).toOption
  let projectId ← (ResearchId.make (← text? (member "hypothesis_project_id" body))).toOption
  let proposition ← text? (member "hypothesis_proposition" body)
  let experimentId ← (ResearchId.make (← text? (member "experiment_id" body))).toOption
  let configurationDigest ← text? (member "configuration_digest" body)
  let version ← text? (member "experiment_version" body)
  let purpose ← text? (member "experiment_purpose" body)
  return {
    hypothesis := ⟨hypothesisId, projectId, proposition⟩
    experiment := ⟨experimentId, hypothesisId, configurationDigest, version, purpose⟩
    configurationDigest := configurationDigest
    parameterDomain := ← texts? (member "parameter_domain" body)
    objective := ← text? (member "objective" body)
    datasetId := ← text? (member "dataset_id" body)
    datasetVersion := ← text? (member "dataset_version" body)
    partitionRole := ← partitionOf? (← text? (member "partition" body))
    maximumAdmittedTrials := ← natural? (member "maximum_admitted_trials" body)
    ownerApprovalReference := ← text? (member "owner_approval_reference" body)
    policyIdentity := ← text? (member "policy_identity" body)
    predecessorPlanDigest := ← optionalText? (member "predecessor_plan_digest" body)
    planDigest := "" }

/-- `from_canonical_body`. -/
def fromCanonicalBody (py : Platform) (body : Json) : Except Raised FrozenResearchPlan := do
  let names ← orRaise (.journal "plan record is not an object") body.fields?
  raiseIf (hasKeys fields names = false) (.journal "plan record schema mismatch")
  let plan ← orRaise (.journal "plan record contains invalid values") (ofBody? body)
  let digest ← (py.digest "ATIS-S4-08-FROZEN-PLAN-V1" body).mapError
    fun _ => .journal "plan record contains invalid values"
  let candidate := { plan with planDigest := digest }
  (candidate.postInit py).mapError fun _ => .journal "plan record contains invalid values"
  return candidate

end FrozenResearchPlan

/-! ## Approvals -/

structure ApprovalEvidence where
  actor : String
  authoritativeSource : String
  taskId : String
  operation : String
  planDigest : String
  predecessorPlanDigest : Option String
  hypothesisId : String
  experimentId : String
  configurationDigest : String
  datasetId : String
  datasetVersion : String
  partitionRole : String
  maximumAdmittedTrials : Nat
  policyIdentity : String
  approvalReference : String
  evidenceDigest : String
deriving DecidableEq

namespace ApprovalEvidence

/-- The fields of an approval but its digest. -/
def values (a : ApprovalEvidence) : List (String × Json) :=
  [("actor", .str a.actor),
    ("authoritative_source", .str a.authoritativeSource),
    ("task_id", .str a.taskId),
    ("operation", .str a.operation),
    ("plan_digest", .str a.planDigest),
    ("predecessor_plan_digest", .ofOption .str a.predecessorPlanDigest),
    ("hypothesis_id", .str a.hypothesisId),
    ("experiment_id", .str a.experimentId),
    ("configuration_digest", .str a.configurationDigest),
    ("dataset_id", .str a.datasetId),
    ("dataset_version", .str a.datasetVersion),
    ("partition", .str a.partitionRole),
    ("maximum_admitted_trials", .int a.maximumAdmittedTrials),
    ("policy_identity", .str a.policyIdentity),
    ("approval_reference", .str a.approvalReference)]

/-- `canonical_body`. -/
def canonicalBody (a : ApprovalEvidence) : Json := .obj (a.values ++ [("evidence_digest", .str a.evidenceDigest)])

section Constructor

variable (py : Platform)

/-- `ApprovalEvidence.create`. -/
def create (plan : FrozenResearchPlan) (actor authoritativeSource taskId operation approvalReference : String) :
    Except Raised ApprovalEvidence := do
  safeId "actor" actor
  safeId "authoritative_source" authoritativeSource
  safeId "task_id" taskId
  safeId "operation" operation
  safeId "approval_reference" approvalReference
  let approval : ApprovalEvidence := {
    actor := actor
    authoritativeSource := authoritativeSource
    taskId := taskId
    operation := operation
    planDigest := plan.planDigest
    predecessorPlanDigest := plan.predecessorPlanDigest
    hypothesisId := plan.hypothesisId.value
    experimentId := plan.experimentId.value
    configurationDigest := plan.configurationDigest
    datasetId := plan.datasetId
    datasetVersion := plan.datasetVersion
    partitionRole := plan.partitionRole.value
    maximumAdmittedTrials := plan.maximumAdmittedTrials
    policyIdentity := plan.policyIdentity
    approvalReference := approvalReference
    evidenceDigest := "" }
  let digest ← Raised.ofOutcome (py.digest "ATIS-S4-08-OWNER-APPROVAL-V1" (.obj approval.values))
  return { approval with evidenceDigest := digest }

/-- `validate_for`. -/
def validateFor (a : ApprovalEvidence) (plan : FrozenResearchPlan) : Except Raised Unit := do
  let rebuilt ← create py plan a.actor a.authoritativeSource a.taskId a.operation a.approvalReference
  raiseIf (a ≠ rebuilt) (.governance "approval evidence binding is invalid")

end Constructor

def fields : List String :=
  ["actor", "authoritative_source", "task_id", "operation", "plan_digest", "predecessor_plan_digest",
    "hypothesis_id", "experiment_id", "configuration_digest", "dataset_id", "dataset_version", "partition",
    "maximum_admitted_trials", "policy_identity", "approval_reference", "evidence_digest"]

/-- The values of a body. -/
def ofBody? (body : Json) : Option ApprovalEvidence := do
  return {
    actor := ← text? (member "actor" body)
    authoritativeSource := ← text? (member "authoritative_source" body)
    taskId := ← text? (member "task_id" body)
    operation := ← text? (member "operation" body)
    planDigest := ← text? (member "plan_digest" body)
    predecessorPlanDigest := ← optionalText? (member "predecessor_plan_digest" body)
    hypothesisId := ← text? (member "hypothesis_id" body)
    experimentId := ← text? (member "experiment_id" body)
    configurationDigest := ← text? (member "configuration_digest" body)
    datasetId := ← text? (member "dataset_id" body)
    datasetVersion := ← text? (member "dataset_version" body)
    partitionRole := ← text? (member "partition" body)
    maximumAdmittedTrials := ← amount? (member "maximum_admitted_trials" body)
    policyIdentity := ← text? (member "policy_identity" body)
    approvalReference := ← text? (member "approval_reference" body)
    evidenceDigest := ← text? (member "evidence_digest" body) }

/-- `from_canonical_body`. -/
def fromCanonicalBody (body : Json) : Except Raised ApprovalEvidence := do
  let names ← orRaise (.journal "approval record schema mismatch") body.fields?
  raiseIf (hasKeys fields names = false) (.journal "approval record schema mismatch")
  orRaise (.governance "approval evidence binding is invalid") (ofBody? body)

end ApprovalEvidence

end Governance

end ATB
