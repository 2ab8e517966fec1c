import AutomatedTradingBot.Framework.Chains
import AutomatedTradingBot.Source.Datasets.Dependencies

/-!
# Corporate actions

`corporate_actions/model.py`: the immutable versions of an action, and the check that
versions are one lineage. The identity of a version is the digest of its body. Of an
exception only the message is kept, and a normalised collection of a declared
dependency is kept as its constructor leaves it.
-/

namespace ATB.CorporateActions

open Instruments (EvidenceRef ValidationState timeText textOrNull)
open Datasets (canonicalizeEvidenceRefs canonicalBytes refItems EvidenceError)

def maxActionLineageVersions : Nat := 4096
def maxActionLineageDepth : Nat := 256
def maxDependencyEntries : Nat := 256

/-! ## Enumerations -/

inductive ActionFamily where
  | split
  | dividend
  | symbolChange
  | mappedMergerDelisting
deriving DecidableEq

def ActionFamily.value : ActionFamily → String
  | .split => "SPLIT"
  | .dividend => "DIVIDEND"
  | .symbolChange => "SYMBOL_CHANGE"
  | .mappedMergerDelisting => "MAPPED_MERGER_DELISTING"

inductive ActionOperation where
  | original
  | correction
  | cancellation
deriving DecidableEq

def ActionOperation.value : ActionOperation → String
  | .original => "ORIGINAL"
  | .correction => "CORRECTION"
  | .cancellation => "CANCELLATION"

inductive TemporalRoleState where
  | established
  | unavailable
  | notEstablished
  | notApplicable
deriving DecidableEq

def TemporalRoleState.value : TemporalRoleState → String
  | .established => "ESTABLISHED"
  | .unavailable => "UNAVAILABLE"
  | .notEstablished => "NOT_ESTABLISHED"
  | .notApplicable => "NOT_APPLICABLE"

inductive DependencyState where
  | declared
  | knownEmpty
  | notEstablished
deriving DecidableEq

def DependencyState.value : DependencyState → String
  | .declared => "DECLARED"
  | .knownEmpty => "KNOWN_EMPTY"
  | .notEstablished => "NOT_ESTABLISHED"

inductive DependencyKind where
  | instrumentReference
  | calendarVersion
  | sourceDataset
  | datasetContent
  | datasetManifest
  | downstreamEvidence
deriving DecidableEq

def DependencyKind.value : DependencyKind → String
  | .instrumentReference => "INSTRUMENT_REFERENCE"
  | .calendarVersion => "CALENDAR_VERSION"
  | .sourceDataset => "SOURCE_DATASET"
  | .datasetContent => "DATASET_CONTENT"
  | .datasetManifest => "DATASET_MANIFEST"
  | .downstreamEvidence => "DOWNSTREAM_EVIDENCE"

/-! ## What a version is made of -/

structure CanonicalActionId where
  value : String
deriving DecidableEq

/-- `CanonicalCorporateAction`, without the authority that admitted its identity. -/
structure CanonicalCorporateAction where
  canonicalActionId : CanonicalActionId
  rootInstrumentId : InstrumentId
  family : ActionFamily
  rootIdentityBindingRef : EvidenceRef
deriving DecidableEq

structure ProviderNativeActionRef where
  sourceId : String
  datasetId : String
  interpretationRef : EvidenceRef
  nativeEventId : String
  evidenceRef : EvidenceRef
deriving DecidableEq

def ProviderNativeActionRef.mapping (r : ProviderNativeActionRef) : Json := .obj
  [("dataset_id", .str r.datasetId), ("evidence_ref", r.evidenceRef.mapping),
    ("interpretation_ref", r.interpretationRef.mapping), ("native_event_id", .str r.nativeEventId),
    ("source_id", .str r.sourceId)]

/-- `_provider_refs`. -/
def providerRefs (values : List ProviderNativeActionRef) : List ProviderNativeActionRef :=
  values.dedup.insertionSort fun a b => a.mapping.dumps ≤ b.mapping.dumps

/-- `TemporalRoleSlot`: an established role has a time, and no other has one. -/
structure TemporalRoleSlot where
  state : TemporalRoleState
  at? : Option Timestamp
  evidenceRefs : List EvidenceRef
  timed : state = .established ↔ at? ≠ none
deriving DecidableEq

def TemporalRoleSlot.mapping (s : TemporalRoleSlot) : Json := .obj
  [("at", textOrNull (s.at?.map timeText)), ("evidence_refs", refItems s.evidenceRefs), ("state", .str s.state.value)]

structure TemporalRoles where
  knowledgeFrom : TemporalRoleSlot
  announcedAt : TemporalRoleSlot
  effectiveAt : TemporalRoleSlot
  exAt : TemporalRoleSlot
  recordAt : TemporalRoleSlot
  payableAt : TemporalRoleSlot
deriving DecidableEq

namespace TemporalRoles

/-- `_values`. -/
def values (r : TemporalRoles) : List (String × TemporalRoleSlot) :=
  [("announced_at", r.announcedAt), ("effective_at", r.effectiveAt), ("ex_at", r.exAt),
    ("knowledge_from", r.knowledgeFrom), ("payable_at", r.payableAt), ("record_at", r.recordAt)]

def required : ActionFamily → List String
  | .split => ["knowledge_from", "effective_at"]
  | .dividend => ["knowledge_from", "ex_at"]
  | .symbolChange => ["knowledge_from", "effective_at"]
  | .mappedMergerDelisting => ["knowledge_from", "effective_at"]

def optional : ActionFamily → List String
  | .split => ["announced_at", "ex_at", "record_at"]
  | .dividend => ["announced_at", "record_at", "payable_at", "effective_at"]
  | .symbolChange => ["announced_at"]
  | .mappedMergerDelisting => ["announced_at"]

/-- `validate_for`. -/
def validateFor (r : TemporalRoles) (family : ActionFamily) (state : ValidationState) : Except String Unit :=
  r.values.forM fun (name, slot) => do
    raiseIf (name ∉ required family ++ optional family ∧ slot.state ≠ .notApplicable)
      (name ++ " must be NOT_APPLICABLE for " ++ family.value)
    raiseIf (state = .valid ∧ name ∈ required family ∧ slot.state ≠ .established)
      ("VALID " ++ family.value ++ " requires established " ++ name)

def mapping (r : TemporalRoles) : Json := .obj (r.values.map fun (name, slot) => (name, slot.mapping))

end TemporalRoles

structure AffectedDependency where
  dependencyKind : DependencyKind
  dependencyRef : EvidenceRef
  instrumentIds : List InstrumentId
  effectiveFrom : Option Timestamp
  effectiveTo : Option Timestamp
  reason : String
  evidenceRefs : List EvidenceRef
deriving DecidableEq

def AffectedDependency.mapping (d : AffectedDependency) : Json := .obj
  [("dependency_kind", .str d.dependencyKind.value), ("dependency_ref", d.dependencyRef.mapping),
    ("effective_from", textOrNull (d.effectiveFrom.map timeText)),
    ("effective_to", textOrNull (d.effectiveTo.map timeText)), ("evidence_refs", refItems d.evidenceRefs),
    ("instrument_ids", .arr (d.instrumentIds.map fun i => .str i.toString)), ("reason", .str d.reason)]

structure AffectedDependencyDeclaration where
  state : DependencyState
  entries : List AffectedDependency
  scopeRef : Option EvidenceRef
deriving DecidableEq

def AffectedDependencyDeclaration.mapping (d : AffectedDependencyDeclaration) : Json := .obj
  [("entries", .arr (d.entries.map AffectedDependency.mapping)),
    ("scope_ref", d.scopeRef.elim .null EvidenceRef.mapping), ("state", .str d.state.value)]

/-- The key under which a declaration keeps an entry. -/
def AffectedDependency.key (d : AffectedDependency) : DependencyKind × Instruments.EvidenceKey :=
  (d.dependencyKind, d.dependencyRef.key)

/-- `AffectedDependencyDeclaration.__post_init__`. -/
def AffectedDependencyDeclaration.declare (state : DependencyState) (entries : List AffectedDependency)
    (scopeRef : Option EvidenceRef) : Except String AffectedDependencyDeclaration := do
  raiseIf (maxDependencyEntries < entries.length) "affected dependencies exceed the resource limit"
  let unique ← entries.foldlM (fun known value => do
    raiseIf ((Dict.get? value.key known).any fun previous => decide (previous.mapping.dumps ≠ value.mapping.dumps))
      "CONFLICTING_DEPENDENCY_DECLARATION"
    return Dict.set value.key value known) []
  let ordered := (Dict.values unique).insertionSort fun a b => a.mapping.dumps ≤ b.mapping.dumps
  raiseIf (state = .declared ∧ (ordered = [] ∨ scopeRef = none)) "DECLARED requires entries and a scope_ref"
  raiseIf (state = .knownEmpty ∧ (ordered ≠ [] ∨ scopeRef = none))
    "KNOWN_EMPTY requires empty entries and independent scope evidence"
  raiseIf (state = .notEstablished ∧ scopeRef ≠ none) "NOT_ESTABLISHED requires scope_ref=None"
  return ⟨state, ordered, scopeRef⟩

/-! ## Digests and authorities -/

section Version

variable (py : Platform)

/-- `EvidenceContentDigest.from_bytes(_canonical_json(value))`. -/
def digestOf (value : Json) : EvidenceContentDigest := ⟨"sha256:" ++ py.hexdigest value.dumps⟩

def ActionVersionId.lead : String := "atis:corporate-action-version:v1:"

/-- `ActionVersionId.from_digest` of the digest of a body. -/
def versionIdOf (body : Json) : ActionVersionId := ⟨ActionVersionId.lead ++ py.hexdigest body.dumps⟩

/-- `LineageAuthorityAssertion.mapping`. -/
def authorizationMapping (operation : ActionOperation) (canonicalActionId : CanonicalActionId)
    (predecessorVersionId : ActionVersionId) (successorFactsDigest : EvidenceContentDigest)
    (authorityPolicyId : String) (decisionEvidenceRefs : List EvidenceRef) : Json := .obj
  [("authority_policy_id", .str authorityPolicyId), ("canonical_action_id", .str canonicalActionId.value),
    ("decision_evidence_refs", refItems decisionEvidenceRefs), ("kind", .str "ATIS_C07_LINEAGE_AUTHORIZATION_V1"),
    ("operation", .str operation.value), ("predecessor_version_id", .str predecessorVersionId.value),
    ("successor_facts_digest", .str successorFactsDigest.value)]

structure LineageAuthorityAssertion where
  operation : ActionOperation
  canonicalActionId : CanonicalActionId
  predecessorVersionId : ActionVersionId
  successorFactsDigest : EvidenceContentDigest
  authorityPolicyId : String
  decisionEvidenceRefs : List EvidenceRef
  assertionRef : EvidenceRef
  successor : operation ≠ .original
  refs : ∃ given, canonicalizeEvidenceRefs given = .ok decisionEvidenceRefs
  bound : assertionRef.contentDigest = digestOf py (authorizationMapping operation canonicalActionId
    predecessorVersionId successorFactsDigest authorityPolicyId decisionEvidenceRefs)
deriving DecidableEq

structure CorporateActionVersion where
  actionVersionId : ActionVersionId
  factsDigest : EvidenceContentDigest
  canonicalActionId : CanonicalActionId
  rootIdentityBindingRef : EvidenceRef
  rootInstrumentId : InstrumentId
  family : ActionFamily
  operation : ActionOperation
  temporalRoles : TemporalRoles
  actionTermsRef : EvidenceRef
  providerNativeRefs : List ProviderNativeActionRef
  sourceEvidenceRefs : List EvidenceRef
  validationPolicyId : String
  validationState : ValidationState
  predecessorVersionId : Option ActionVersionId
  lineageReason : Option String
  lineageAuthorities : List (LineageAuthorityAssertion py)
  affectedDependencies : AffectedDependencyDeclaration
deriving DecidableEq

variable {py} in
def CorporateActionVersion.knowledgeFrom (v : CorporateActionVersion py) : Option Timestamp :=
  v.temporalRoles.knowledgeFrom.at?

/-! ## Creation -/

/-- The keyword arguments that `create_action_version` and `compute_action_facts_digest` share. -/
structure ActionFacts where
  action : CanonicalCorporateAction
  operation : ActionOperation
  temporalRoles : TemporalRoles
  actionTermsRef : EvidenceRef
  providerNativeRefs : List ProviderNativeActionRef
  sourceEvidenceRefs : List EvidenceRef
  validationPolicyId : String
  validationState : ValidationState
  affectedDependencies : AffectedDependencyDeclaration
  predecessorVersionId : Option ActionVersionId
  lineageReason : Option String
deriving DecidableEq

/-- `_version_mapping`. -/
def versionMapping (facts : ActionFacts) (lineageAuthorityRefs : List EvidenceRef) : Json := .obj
  [("action_terms_ref", facts.actionTermsRef.mapping), ("affected_dependencies", facts.affectedDependencies.mapping),
    ("canonical_action_id", .str facts.action.canonicalActionId.value), ("family", .str facts.action.family.value),
    ("kind", .str "ATIS_C07_ACTION_VERSION_V1"), ("lineage_authority_refs", refItems lineageAuthorityRefs),
    ("lineage_reason", textOrNull facts.lineageReason), ("operation", .str facts.operation.value),
    ("predecessor_version_id", textOrNull (facts.predecessorVersionId.map ActionVersionId.value)),
    ("provider_native_refs", .arr (facts.providerNativeRefs.map ProviderNativeActionRef.mapping)),
    ("root_identity_binding_ref", facts.action.rootIdentityBindingRef.mapping),
    ("root_instrument_id", .str facts.action.rootInstrumentId.toString),
    ("source_evidence_refs", refItems facts.sourceEvidenceRefs), ("temporal_roles", facts.temporalRoles.mapping),
    ("validation_policy_id", .str facts.validationPolicyId), ("validation_state", .str facts.validationState.value)]

def evidenceMessage : EvidenceError → String
  | .valueError message => message
  | .identityConflict message => message

/-- The facts as both functions normalise them. -/
def normalize (facts : ActionFacts) : Except String ActionFacts := do
  let sources ← (canonicalizeEvidenceRefs facts.sourceEvidenceRefs).mapError evidenceMessage
  facts.temporalRoles.validateFor facts.action.family facts.validationState
  return { facts with providerNativeRefs := providerRefs facts.providerNativeRefs, sourceEvidenceRefs := sources }

/-- `compute_action_facts_digest`. -/
def computeActionFactsDigest (facts : ActionFacts) : Except String EvidenceContentDigest := do
  let facts ← normalize facts
  return digestOf py (versionMapping facts [])

/-- `_required_text(value, name)`, with its maximum of 512. -/
def requiredText (value : Option String) (name : String) : Except String Unit := do
  let value ← orRaise (name ++ " must be a str") value
  raiseIf (value = "" ∨ Text.strip (Text.chars value) ≠ Text.chars value) (name ++ " must be nonempty and unpadded")
  raiseIf (512 < (Text.chars value).length) (name ++ " exceeds its maximum length")
  raiseIf (¬ py.isNfc value) (name ++ " must already be NFC-normalized")

/-- What the operation requires of the predecessor and of the authorities. -/
def checkOperation (facts : ActionFacts) (lineageAuthorities : List (LineageAuthorityAssertion py)) :
    Except String Unit :=
  if facts.operation = .original then
    raiseIf (facts.predecessorVersionId ≠ none ∨ facts.lineageReason ≠ none ∨ lineageAuthorities ≠ [])
      "ORIGINAL cannot carry predecessor or lineage authority"
  else do
    raiseIf (facts.predecessorVersionId = none) "successor requires predecessor_version_id"
    requiredText py facts.lineageReason "lineage_reason"
    raiseIf (lineageAuthorities = []) "successor requires independent lineage authority"

/-- An authority is for exactly these facts. -/
def Binds (facts : ActionFacts) (factsDigest : EvidenceContentDigest) (a : LineageAuthorityAssertion py) : Prop :=
  a.operation = facts.operation ∧ a.canonicalActionId = facts.action.canonicalActionId ∧
    some a.predecessorVersionId = facts.predecessorVersionId ∧ a.successorFactsDigest = factsDigest

instance (facts : ActionFacts) (factsDigest : EvidenceContentDigest) (a : LineageAuthorityAssertion py) :
    Decidable (Binds py facts factsDigest a) := inferInstanceAs (Decidable (_ ∧ _))

/-- The references of the authorities, once each. -/
def authorityRefs (authorities : List (LineageAuthorityAssertion py)) : Except String (List EvidenceRef) :=
  if authorities = [] then .ok []
  else (canonicalizeEvidenceRefs (authorities.map (·.assertionRef))).mapError evidenceMessage

/-- `create_action_version`. -/
def createActionVersion (facts : ActionFacts) (lineageAuthorities : List (LineageAuthorityAssertion py)) :
    Except String (CorporateActionVersion py) := do
  let facts ← normalize facts
  checkOperation py facts lineageAuthorities
  let factsDigest ← computeActionFactsDigest py facts
  let authorities := lineageAuthorities.insertionSort fun a b =>
    canonicalBytes a.assertionRef ≤ canonicalBytes b.assertionRef
  raiseIf (facts.operation ≠ .original ∧ ∃ a ∈ authorities, ¬ Binds py facts factsDigest a)
    "lineage authority does not bind the exact successor facts"
  let refs ← authorityRefs py authorities
  return {
    actionVersionId := versionIdOf py (versionMapping facts refs)
    factsDigest
    canonicalActionId := facts.action.canonicalActionId
    rootIdentityBindingRef := facts.action.rootIdentityBindingRef
    rootInstrumentId := facts.action.rootInstrumentId
    family := facts.action.family
    operation := facts.operation
    temporalRoles := facts.temporalRoles
    actionTermsRef := facts.actionTermsRef
    providerNativeRefs := facts.providerNativeRefs
    sourceEvidenceRefs := facts.sourceEvidenceRefs
    validationPolicyId := facts.validationPolicyId
    validationState := facts.validationState
    predecessorVersionId := facts.predecessorVersionId
    lineageReason := facts.lineageReason
    lineageAuthorities := authorities
    affectedDependencies := facts.affectedDependencies }

end Version

/-! ## Lineages -/

variable {py : Platform}

/-- The versions by their identities, the first of each. -/
def byId (values : List (CorporateActionVersion py)) : List (ActionVersionId × CorporateActionVersion py) :=
  values.foldl (fun known v =>
    if Dict.get? v.actionVersionId known = none then Dict.set v.actionVersionId v known else known) []

/-- The only version that is an original. -/
def soleOriginal (known : List (CorporateActionVersion py)) : Option (CorporateActionVersion py) :=
  match known.filter fun v => v.operation = .original with
  | [root] => some root
  | _ => none

/-- A version is known after the one it supersedes. -/
def checkKnowledge (v predecessor : CorporateActionVersion py) : Except String Unit :=
  match v.knowledgeFrom, predecessor.knowledgeFrom with
  | some k, some k' => raiseIf (k.value ≤ k'.value) "SUCCESSOR_KNOWLEDGE_NOT_GREATER"
  | _, _ => .error "SUCCESSOR_KNOWLEDGE_NOT_ESTABLISHED"

/-- The loop over the versions; `successors` are those so far. -/
def checkSuccessors (known : List (ActionVersionId × CorporateActionVersion py)) :
    List (ActionVersionId × ActionVersionId) → List (CorporateActionVersion py) → Except String Unit
  | _, [] => .ok ()
  | successors, v :: vs =>
    match v.predecessorVersionId with
    | none => checkSuccessors known successors vs
    | some p => do
      let predecessor ← orRaise "MISSING_PREDECESSOR" (Dict.get? p known)
      raiseIf ((Dict.get? p successors).any fun s => decide (s ≠ v.actionVersionId)) "BRANCHING_SUCCESSOR_CONFLICT"
      checkKnowledge v predecessor
      checkSuccessors known (Dict.set p v.actionVersionId successors) vs

/-- `LineageValidationError` of a walk, by its message. -/
def walkMessage : LineageFault → String
  | .tooDeep => "LINEAGE_RESOURCE_LIMIT_EXCEEDED"
  | _ => "LINEAGE_CYCLE"

/-- `predecessor_version_id` of the version of an identity. -/
def priorOf (known : List (ActionVersionId × CorporateActionVersion py)) (i : ActionVersionId) :
    Option ActionVersionId := (Dict.get? i known).bind (·.predecessorVersionId)

/-- `validate_action_lineage`. -/
def validateActionLineage (values : List (CorporateActionVersion py)) :
    Except String (List (CorporateActionVersion py)) := do
  raiseIf (values = []) "lineage must be a nonempty tuple"
  raiseIf (maxActionLineageVersions < values.length) "LINEAGE_RESOURCE_LIMIT_EXCEEDED"
  let known := byId values
  let root ← orRaise "EXACTLY_ONE_ORIGINAL_REQUIRED" (soleOriginal (Dict.values known))
  raiseIf (∃ v ∈ Dict.values known, v.canonicalActionId ≠ root.canonicalActionId ∨
    v.rootInstrumentId ≠ root.rootInstrumentId ∨ v.family ≠ root.family) "CROSS_ACTION_OR_FAMILY_EDGE"
  checkSuccessors known [] (Dict.values known)
  ((Dict.keys known).forM fun start =>
    Lineage.follow (priorOf known) start maxActionLineageDepth [] start).mapError walkMessage
  return (Dict.values known).insertionSort fun a b => a.actionVersionId.value ≤ b.actionVersionId.value

end ATB.CorporateActions
