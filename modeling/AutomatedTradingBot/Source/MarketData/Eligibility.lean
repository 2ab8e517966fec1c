import AutomatedTradingBot.Framework.Chains
import AutomatedTradingBot.Source.MarketData.Quality

/-!
# Quarantine, eligibility and release

`market_data/eligibility.py`: the decisions about a subject, each with the evidence that
it binds and the time from which it is known, and the check of a lineage of identities.
An identity that the code derives from a digest is a function here of the record's body.
The contract versions of the records other than the two policies' are constants.
-/

namespace ATB.MarketData

open Instruments (EvidenceRef EvidenceKey ValidationState textOrNull)
open Datasets (canonicalizeEvidenceRefs refItems EvidenceError Lead hashOf isIdentity)
open Versioning (ContractVersion)

def maxC06EvidenceRefs : Nat := 64
def maxC06LineageVersions : Nat := 4096
def maxC06LineageDepth : Nat := 256

/-- `C06Error` and its subclasses, and the other exceptions. -/
inductive C06Error where
  | valueError (message : String)
  | resourceLimit (message : String)
  | authority (message : String)
  | lineage (message : String)
  | binding (message : String)
deriving DecidableEq

inductive QuarantineDisposition where
  | quarantined
  | notQuarantined
  | notEstablished
  | incompatible
deriving DecidableEq

def QuarantineDisposition.value : QuarantineDisposition → String
  | .quarantined => "QUARANTINED"
  | .notQuarantined => "NOT_QUARANTINED"
  | .notEstablished => "NOT_ESTABLISHED"
  | .incompatible => "INCOMPATIBLE"

inductive EligibilityDisposition where
  | eligible
  | ineligible
  | notEstablished
  | incompatible
deriving DecidableEq

def EligibilityDisposition.value : EligibilityDisposition → String
  | .eligible => "ELIGIBLE"
  | .ineligible => "INELIGIBLE"
  | .notEstablished => "NOT_ESTABLISHED"
  | .incompatible => "INCOMPATIBLE"

/-! ## Identities -/

inductive C06IdKind where
  | quarantineSubject
  | quarantineDecision
  | claim
  | eligibilityDecision
  | releaseDecision
  | releaseAuthority
  | eligibilityPolicy
  | releaseAuthorityPolicy
deriving DecidableEq

/-- `_OpaqueId`. A text of the pattern is ASCII, so it is unpadded and normal. -/
@[ext]
structure C06Id (kind : C06IdKind) where
  value : String
  identity : isIdentity (Text.chars value) = true

instance {kind : C06IdKind} : DecidableEq (C06Id kind) := fun a b =>
  decidable_of_iff (a.value = b.value)
    C06Id.ext_iff.symm

abbrev QuarantineSubjectId := C06Id .quarantineSubject
abbrev QuarantineDecisionId := C06Id .quarantineDecision
abbrev ClaimId := C06Id .claim
abbrev EligibilityDecisionId := C06Id .eligibilityDecision
abbrev ReleaseDecisionId := C06Id .releaseDecision
abbrev ReleaseAuthorityId := C06Id .releaseAuthority
abbrev EligibilityPolicyId := C06Id .eligibilityPolicy
abbrev ReleaseAuthorityPolicyId := C06Id .releaseAuthorityPolicy

theorem isIdentity_derivedId (py : Platform) (lead : Lead) (domain : String) (body : Json) :
    isIdentity (Text.chars (String.ofList (Text.chars lead.text ++ ':' :: hashOf py domain body))) = true := by
  rw [Text.chars_eq, String.toList_ofList]
  exact Datasets.isIdentity_derived lead.identity lead.short _

/-- `_derived_id(prefix, _digest(domain, body))`. -/
def derivedId (py : Platform) {kind : C06IdKind} (lead : Lead) (domain : String) (body : Json) : C06Id kind where
  value := String.ofList (Text.chars lead.text ++ ':' :: hashOf py domain body)
  identity := isIdentity_derivedId py lead domain body

def subjectLead : Lead := ⟨"c06-subject", by decide, by decide⟩
def quarantineLead : Lead := ⟨"c06-quarantine", by decide, by decide⟩
def eligibilityLead : Lead := ⟨"c06-eligibility", by decide, by decide⟩
def releaseLead : Lead := ⟨"c06-release", by decide, by decide⟩

/-! ## Evidence -/

/-- `_version`. -/
def versionMapping (v : ContractVersion) : Json := .obj [("family", .str v.family), ("version", .int v.version)]

/-- `_version(ContractVersion(family, 1))`. -/
def firstVersion (family : String) : Json := .obj [("family", .str family), ("version", .int 1)]

/-- `_timestamp` of an optional time. -/
def timestampMapping (t : Option Timestamp) : Json := textOrNull (t.map Instruments.timeText)

/-- `_refs`. -/
def c06Refs (values : List EvidenceRef) : Except C06Error (List EvidenceRef) := do
  raiseIf (values = []) (.binding "EVIDENCE_NOT_ESTABLISHED")
  raiseIf (maxC06EvidenceRefs < values.length) (.resourceLimit "C06_EVIDENCE_LIMIT_EXHAUSTED")
  (canonicalizeEvidenceRefs values).mapError fun e => .binding (evidenceMessage e)

structure ResolvedC06Evidence where
  ref : EvidenceRef
  content : List UInt8
deriving DecidableEq

section Decisions

variable (hashes : Hashes)

/-- `_resolved`. -/
def c06Resolved (values : List ResolvedC06Evidence) : Except C06Error (List (EvidenceKey × List UInt8)) :=
  values.foldlM (fun result item => do
    raiseIf (Dict.get? item.ref.key result ≠ none) (.binding "DUPLICATE_RESOLVED_EVIDENCE")
    raiseIf (fromBytes hashes item.content ≠ item.ref.contentDigest) (.binding "EVIDENCE_CONTENT_DIGEST_MISMATCH")
    return Dict.set item.ref.key item.content result) []

/-- `verify_evidence`. -/
def verifyEvidence (refs : List EvidenceRef) (resolvedEvidence : List ResolvedC06Evidence) : Except C06Error Unit := do
  let index ← c06Resolved hashes resolvedEvidence
  let refs ← c06Refs refs
  refs.forM fun ref => raiseIf (Dict.get? ref.key index = none) (.binding "MISSING_RESOLVED_EVIDENCE")

/-- `c05_quality_result_digest`. -/
def c05QualityResultDigest (r : ProductionQualityResult) : EvidenceContentDigest :=
  Datasets.digest hashes.py "ATIS:C05:PRODUCTION_QUALITY_RESULT:1" (.obj
    [("descriptor_digests", .arr (r.descriptorDigests.map fun d => .str d.value)),
      ("sequence_coverage", .str r.sequenceCoverage.value), ("sequence_order", .str r.sequenceOrder.value),
      ("outlier_states", .arr (r.outlierStates.map fun s => .arr [.str s.1.value, .str s.2.value])),
      ("missing_logical_keys", .arr (r.missingLogicalKeys.map .str)), ("reasons", .arr (r.reasons.map .str)),
      ("evidence_refs", refItems r.evidenceRefs), ("validation_state", .str r.validationState.value)])

/-! ## Quarantine -/

structure QuarantineSubject where
  subjectRef : EvidenceRef
  c05QualityResultDigest : EvidenceContentDigest
  evidenceRefs : List EvidenceRef
  refs : ∃ given, c06Refs given = .ok evidenceRefs
deriving DecidableEq

def QuarantineSubject.body (s : QuarantineSubject) : Json := .obj
  [("contract_version", firstVersion "ATIS_C06_QUARANTINE_SUBJECT"), ("subject_ref", s.subjectRef.mapping),
    ("c05_quality_result_digest", .str s.c05QualityResultDigest.value), ("evidence_refs", refItems s.evidenceRefs)]

def QuarantineSubject.subjectId (s : QuarantineSubject) : QuarantineSubjectId :=
  derivedId hashes.py subjectLead "ATIS:C06:QUARANTINE_SUBJECT:1" s.body

@[ext]
structure QuarantinePolicy where
  policyId : String
  policyRef : EvidenceRef
  supportedVersion : ContractVersion
  establishesEffectiveTime : Bool
  identity : isIdentity (Text.chars policyId) = true

instance : DecidableEq QuarantinePolicy := fun a b =>
  decidable_of_iff (a.policyId = b.policyId ∧ a.policyRef = b.policyRef ∧ a.supportedVersion = b.supportedVersion ∧ a.establishesEffectiveTime = b.establishesEffectiveTime)
    QuarantinePolicy.ext_iff.symm

structure QuarantineDecision where
  quarantineSubjectId : QuarantineSubjectId
  c05QualityResultDigest : EvidenceContentDigest
  quarantinePolicyId : String
  quarantinePolicyRef : EvidenceRef
  knowledgeFrom : Timestamp
  effectiveFrom : Option Timestamp
  disposition : QuarantineDisposition
  reasons : List String
  evidenceRefs : List EvidenceRef
deriving DecidableEq

def QuarantineDecision.body (d : QuarantineDecision) : Json := .obj
  [("contract_version", firstVersion "ATIS_C06_QUARANTINE_DECISION"),
    ("quarantine_subject_id", .str d.quarantineSubjectId.value),
    ("c05_quality_result_digest", .str d.c05QualityResultDigest.value),
    ("quarantine_policy_id", .str d.quarantinePolicyId), ("quarantine_policy_ref", d.quarantinePolicyRef.mapping),
    ("knowledge_from", .str (Instruments.timeText d.knowledgeFrom)), ("effective_from", timestampMapping d.effectiveFrom),
    ("disposition", .str d.disposition.value), ("reasons", .arr (d.reasons.map .str)),
    ("evidence_refs", refItems d.evidenceRefs)]

def QuarantineDecision.decisionId (d : QuarantineDecision) : QuarantineDecisionId :=
  derivedId hashes.py quarantineLead "ATIS:C06:QUARANTINE_DECISION:1" d.body

/-- `mapping` of `decide_quarantine`. -/
def quarantineOf : ValidationState → QuarantineDisposition × String
  | .valid => (.notQuarantined, "C05_VALID_EXACTLY_BOUND")
  | .invalid => (.quarantined, "C05_RESTRICTIVE_RESULT")
  | .incompatible => (.incompatible, "C05_RESULT_INCOMPATIBLE")
  | .notEstablished => (.notEstablished, "C05_RESULT_NOT_ESTABLISHED")
  | .notValidated => (.notEstablished, "C05_RESULT_NOT_VALIDATED")

/-- `decide_quarantine`. -/
def decideQuarantine (subject : QuarantineSubject) (c05Result : ProductionQualityResult) (policy : QuarantinePolicy)
    (knowledgeFrom : Timestamp) (evidenceRefs : List EvidenceRef) (resolvedEvidence : List ResolvedC06Evidence)
    (effectiveFrom : Option Timestamp) : Except C06Error QuarantineDecision := do
  raiseIf (c05QualityResultDigest hashes c05Result ≠ subject.c05QualityResultDigest)
    (.binding "C05_QUALITY_RESULT_BINDING_MISMATCH")
  raiseIf (effectiveFrom ≠ none ∧ policy.establishesEffectiveTime = false)
    (.binding "EFFECTIVE_TIME_SEMANTICS_NOT_ESTABLISHED")
  let refs ← c06Refs (evidenceRefs ++ [policy.policyRef, subject.subjectRef])
  verifyEvidence hashes refs resolvedEvidence
  let (disposition, reason) := quarantineOf c05Result.validationState
  raiseIf (¬ isVersion policy.supportedVersion "ATIS_C06_QUARANTINE_DECISION" 1)
    (.binding "UNSUPPORTED_QUARANTINE_DECISION_VERSION")
  let refs ← c06Refs refs
  return ⟨subject.subjectId hashes, subject.c05QualityResultDigest, policy.policyId, policy.policyRef, knowledgeFrom,
    effectiveFrom, disposition, [reason], refs⟩

/-! ## Eligibility -/

structure EligibilityPolicy where
  policyId : EligibilityPolicyId
  policyRef : EvidenceRef
  claimId : ClaimId
  claimContractVersion : ContractVersion
  claimContractRef : EvidenceRef
  requiresExternalCurrentness : Bool
  establishesEffectiveTime : Bool
deriving DecidableEq

structure EligibilityDecision where
  claimId : ClaimId
  claimContractVersion : ContractVersion
  claimContractRef : EvidenceRef
  quarantineSubjectId : QuarantineSubjectId
  c05QualityResultDigest : EvidenceContentDigest
  eligibilityPolicyId : EligibilityPolicyId
  eligibilityPolicyRef : EvidenceRef
  knowledgeFrom : Timestamp
  effectiveFrom : Option Timestamp
  prerequisiteEvidenceRefs : List EvidenceRef
  externalCurrentnessRef : Option EvidenceRef
  disposition : EligibilityDisposition
  reasons : List String
  evidenceRefs : List EvidenceRef
deriving DecidableEq

def EligibilityDecision.body (d : EligibilityDecision) : Json := .obj
  [("contract_version", firstVersion "ATIS_C06_ELIGIBILITY_DECISION"), ("claim_id", .str d.claimId.value),
    ("claim_contract_version", versionMapping d.claimContractVersion),
    ("claim_contract_ref", d.claimContractRef.mapping), ("quarantine_subject_id", .str d.quarantineSubjectId.value),
    ("c05_quality_result_digest", .str d.c05QualityResultDigest.value),
    ("eligibility_policy_id", .str d.eligibilityPolicyId.value),
    ("eligibility_policy_ref", d.eligibilityPolicyRef.mapping), ("knowledge_from", .str (Instruments.timeText d.knowledgeFrom)),
    ("effective_from", timestampMapping d.effectiveFrom),
    ("prerequisite_evidence_refs", refItems d.prerequisiteEvidenceRefs),
    ("external_currentness_ref", refMapping d.externalCurrentnessRef), ("disposition", .str d.disposition.value),
    ("reasons", .arr (d.reasons.map .str)), ("evidence_refs", refItems d.evidenceRefs)]

def EligibilityDecision.decisionId (d : EligibilityDecision) : EligibilityDecisionId :=
  derivedId hashes.py eligibilityLead "ATIS:C06:ELIGIBILITY_DECISION:1" d.body

/-- The state and the reason that `decide_eligibility` comes to. -/
def eligibilityOf (c05 : ValidationState) (quarantine : QuarantineDisposition) (currentnessMissing : Bool) :
    EligibilityDisposition × String :=
  if c05 = .incompatible then (.incompatible, "C05_RESULT_INCOMPATIBLE")
  else if c05 ≠ .valid then (.ineligible, "C05_PREREQUISITE_RESTRICTIVE")
  else if quarantine = .quarantined then (.ineligible, "SUBJECT_QUARANTINED")
  else if quarantine ≠ .notQuarantined then (.notEstablished, "QUARANTINE_STATE_NOT_ESTABLISHED")
  else if currentnessMissing then (.notEstablished, "EXTERNAL_CURRENTNESS_NOT_ESTABLISHED")
  else (.eligible, "EXACT_CLAIM_PREREQUISITES_SATISFIED")

/-- `decide_eligibility`. -/
def decideEligibility (subject : QuarantineSubject) (quarantine : QuarantineDecision)
    (c05Result : ProductionQualityResult) (policy : EligibilityPolicy) (knowledgeFrom : Timestamp)
    (prerequisiteEvidenceRefs : List EvidenceRef) (resolvedEvidence : List ResolvedC06Evidence)
    (externalCurrentnessRef : Option EvidenceRef) (effectiveFrom : Option Timestamp) :
    Except C06Error EligibilityDecision := do
  raiseIf (c05QualityResultDigest hashes c05Result ≠ subject.c05QualityResultDigest)
    (.binding "C05_QUALITY_RESULT_BINDING_MISMATCH")
  raiseIf (effectiveFrom ≠ none ∧ policy.establishesEffectiveTime = false)
    (.binding "EFFECTIVE_TIME_SEMANTICS_NOT_ESTABLISHED")
  raiseIf (quarantine.quarantineSubjectId ≠ subject.subjectId hashes ∨
    quarantine.c05QualityResultDigest ≠ subject.c05QualityResultDigest)
    (.binding "QUARANTINE_SUBJECT_BINDING_MISMATCH")
  let refs ← c06Refs (prerequisiteEvidenceRefs ++ [policy.policyRef, policy.claimContractRef] ++
    externalCurrentnessRef.toList)
  verifyEvidence hashes refs resolvedEvidence
  let (disposition, reason) := eligibilityOf c05Result.validationState quarantine.disposition
    (policy.requiresExternalCurrentness && decide (externalCurrentnessRef = none))
  let prerequisites ← c06Refs prerequisiteEvidenceRefs
  let prerequisites ← c06Refs prerequisites
  let refs ← c06Refs refs
  return ⟨policy.claimId, policy.claimContractVersion, policy.claimContractRef, subject.subjectId hashes,
    subject.c05QualityResultDigest, policy.policyId, policy.policyRef, knowledgeFrom, effectiveFrom, prerequisites,
    externalCurrentnessRef, disposition, [reason], refs⟩

/-! ## Release -/

structure ReleaseAuthorityAssertion where
  assertionRef : EvidenceRef
  authorityId : ReleaseAuthorityId
  predecessorQuarantineDecisionId : QuarantineDecisionId
  quarantineSubjectId : QuarantineSubjectId
  authorizedClaimScope : List ClaimId
  assertedReleaseBasisRef : EvidenceRef
  knowledgeFrom : Timestamp
  effectiveFrom : Option Timestamp
  admissionPolicyId : ReleaseAuthorityPolicyId
  distinct : authorizedClaimScope.Nodup
deriving DecidableEq

/-- `ReleaseAuthorityAdmissionPolicy`. The only operation that it admits, and that an
assertion has, is the release of a quarantine. -/
@[ext]
structure ReleaseAuthorityAdmissionPolicy where
  policyId : ReleaseAuthorityPolicyId
  policyRef : EvidenceRef
  admittedAuthorityIds : List ReleaseAuthorityId
  admittedAssertionVersions : List ContractVersion
  admittedClaimScope : List ClaimId
  knowledgeFrom : Timestamp
  expiresAt : Option Timestamp
  establishesEffectiveTime : Bool
  explicit : admittedAuthorityIds ≠ [] ∧ admittedAssertionVersions ≠ [] ∧ admittedClaimScope ≠ []
  distinct : admittedAuthorityIds.Nodup ∧ admittedAssertionVersions.Nodup ∧ admittedClaimScope.Nodup
  interval : ∀ t ∈ expiresAt, knowledgeFrom.value < t.value

instance : DecidableEq ReleaseAuthorityAdmissionPolicy := fun a b =>
  decidable_of_iff (a.policyId = b.policyId ∧ a.policyRef = b.policyRef ∧ a.admittedAuthorityIds = b.admittedAuthorityIds ∧ a.admittedAssertionVersions = b.admittedAssertionVersions ∧ a.admittedClaimScope = b.admittedClaimScope ∧ a.knowledgeFrom = b.knowledgeFrom ∧ a.expiresAt = b.expiresAt ∧ a.establishesEffectiveTime = b.establishesEffectiveTime)
    ReleaseAuthorityAdmissionPolicy.ext_iff.symm

structure ReleaseDecision where
  predecessorQuarantineDecisionId : QuarantineDecisionId
  quarantineSubjectId : QuarantineSubjectId
  releaseAuthorityAssertionRef : EvidenceRef
  releaseAuthorityAdmissionPolicyId : ReleaseAuthorityPolicyId
  releaseAuthorityAdmissionPolicyRef : EvidenceRef
  releaseBasisRef : EvidenceRef
  knowledgeFrom : Timestamp
  effectiveFrom : Option Timestamp
  reasons : List String
  evidenceRefs : List EvidenceRef
  supersedesDecisionId : QuarantineDecisionId
  successor : predecessorQuarantineDecisionId = supersedesDecisionId
deriving DecidableEq

def ReleaseDecision.body (d : ReleaseDecision) : Json := .obj
  [("contract_version", firstVersion "ATIS_C06_RELEASE_DECISION"),
    ("predecessor_quarantine_decision_id", .str d.predecessorQuarantineDecisionId.value),
    ("quarantine_subject_id", .str d.quarantineSubjectId.value),
    ("release_authority_assertion_ref", d.releaseAuthorityAssertionRef.mapping),
    ("release_authority_admission_policy_id", .str d.releaseAuthorityAdmissionPolicyId.value),
    ("release_authority_admission_policy_ref", d.releaseAuthorityAdmissionPolicyRef.mapping),
    ("release_basis_ref", d.releaseBasisRef.mapping), ("knowledge_from", .str (Instruments.timeText d.knowledgeFrom)),
    ("effective_from", timestampMapping d.effectiveFrom), ("reasons", .arr (d.reasons.map .str)),
    ("evidence_refs", refItems d.evidenceRefs), ("supersedes_decision_id", .str d.supersedesDecisionId.value)]

def ReleaseDecision.releaseDecisionId (d : ReleaseDecision) : ReleaseDecisionId :=
  derivedId hashes.py releaseLead "ATIS:C06:RELEASE_DECISION:1" d.body

/-- What `release_quarantine` requires of the assertion and of the policy that admits it. -/
def checkRelease (predecessor : QuarantineDecision) (subject : QuarantineSubject)
    (assertion : ReleaseAuthorityAssertion) (admissionPolicy : ReleaseAuthorityAdmissionPolicy)
    (effectiveFrom : Option Timestamp) : Except C06Error Unit := do
  raiseIf (predecessor.disposition ≠ .quarantined) (.lineage "PREDECESSOR_NOT_QUARANTINED")
  raiseIf (predecessor.quarantineSubjectId ≠ subject.subjectId hashes ∨
    assertion.quarantineSubjectId ≠ subject.subjectId hashes) (.lineage "SUBJECT_MISMATCH")
  raiseIf (assertion.predecessorQuarantineDecisionId ≠ predecessor.decisionId hashes) (.lineage "PREDECESSOR_MISMATCH")
  raiseIf (assertion.admissionPolicyId ≠ admissionPolicy.policyId) (.authority "RELEASE_POLICY_SUBSTITUTION")
  raiseIf (assertion.assertionRef.key = admissionPolicy.policyRef.key) (.authority "RELEASE_AUTHORITY_SELF_ADMISSION")
  raiseIf ((assertion.effectiveFrom ≠ none ∨ effectiveFrom ≠ none) ∧ admissionPolicy.establishesEffectiveTime = false)
    (.authority "EFFECTIVE_TIME_SEMANTICS_NOT_ESTABLISHED")
  raiseIf (assertion.authorityId ∉ admissionPolicy.admittedAuthorityIds) (.authority "RELEASE_AUTHORITY_NOT_ADMITTED")
  raiseIf (¬ ∃ v ∈ admissionPolicy.admittedAssertionVersions, isVersion v "ATIS_C06_RELEASE_AUTHORITY_ASSERTION" 1)
    (.authority "RELEASE_ASSERTION_NOT_ADMITTED")
  raiseIf (∃ c ∈ assertion.authorizedClaimScope, c ∉ admissionPolicy.admittedClaimScope)
    (.authority "RELEASE_SCOPE_NOT_ADMITTED")
  raiseIf (assertion.knowledgeFrom.value < admissionPolicy.knowledgeFrom.value) (.authority "STALE_RELEASE_ASSERTION")
  raiseIf (∃ t ∈ admissionPolicy.expiresAt, t.value ≤ assertion.knowledgeFrom.value) (.authority "STALE_RELEASE_POLICY")

/-- `release_quarantine`. -/
def releaseQuarantine (predecessor : QuarantineDecision) (subject : QuarantineSubject)
    (assertion : ReleaseAuthorityAssertion) (admissionPolicy : ReleaseAuthorityAdmissionPolicy)
    (knowledgeFrom : Timestamp) (resolvedEvidence : List ResolvedC06Evidence)
    (existingReleases : List ReleaseDecision) (effectiveFrom : Option Timestamp) :
    Except C06Error ReleaseDecision := do
  checkRelease hashes predecessor subject assertion admissionPolicy effectiveFrom
  raiseIf (knowledgeFrom.value ≤ predecessor.knowledgeFrom.value ∨ knowledgeFrom.value < assertion.knowledgeFrom.value)
    (.lineage "SUCCESSOR_KNOWLEDGE_NOT_GREATER")
  raiseIf (maxC06LineageVersions < existingReleases.length) (.resourceLimit "C06_LINEAGE_VERSION_LIMIT_EXHAUSTED")
  raiseIf (∃ r ∈ existingReleases, r.predecessorQuarantineDecisionId = predecessor.decisionId hashes)
    (.lineage "BRANCHING_SUCCESSOR_CONFLICT")
  let refs ← c06Refs [assertion.assertionRef, assertion.assertedReleaseBasisRef, admissionPolicy.policyRef]
  verifyEvidence hashes refs resolvedEvidence
  let refs ← c06Refs refs
  return ⟨predecessor.decisionId hashes, subject.subjectId hashes, assertion.assertionRef, admissionPolicy.policyId,
    admissionPolicy.policyRef, assertion.assertedReleaseBasisRef, knowledgeFrom, effectiveFrom,
    ["EXTERNAL_RELEASE_AUTHORITY_ADMITTED"], refs, predecessor.decisionId hashes, rfl⟩

/-- `releases_known_at`. -/
def releasesKnownAt (values : List ReleaseDecision) (cutoff : Timestamp) : Except C06Error (List ReleaseDecision) := do
  raiseIf (maxC06LineageVersions < values.length) (.resourceLimit "C06_LINEAGE_VERSION_LIMIT_EXHAUSTED")
  let visible := values.filter fun r => decide (r.knowledgeFrom.value ≤ cutoff.value)
  raiseIf (¬ (visible.map (·.predecessorQuarantineDecisionId)).Nodup) (.lineage "BRANCHING_SUCCESSOR_CONFLICT")
  return visible.insertionSort fun a b => (a.releaseDecisionId hashes).value ≤ (b.releaseDecisionId hashes).value

end Decisions

/-! ## Lineages of identities -/

/-- The parents and the children so far. -/
structure EdgeMaps where
  parents : List (String × String)
  children : List (String × String)

/-- One edge, from a successor to its predecessor. -/
def addEdge (maps : EdgeMaps) (edge : String × String) : Except C06Error EdgeMaps := do
  let (successor, predecessor) := edge
  raiseIf (isIdentity (Text.chars successor) = false) (.valueError "identity must be a canonical attributable string")
  raiseIf (isIdentity (Text.chars predecessor) = false) (.valueError "identity must be a canonical attributable string")
  raiseIf (successor = predecessor) (.lineage "SELF_SUPERSESSION")
  raiseIf ((Dict.get? successor maps.parents).any fun p => decide (p ≠ predecessor))
    (.lineage "IDENTITY_CONTENT_CONFLICT")
  raiseIf ((Dict.get? predecessor maps.children).any fun s => decide (s ≠ successor))
    (.lineage "BRANCHING_SUCCESSOR_CONFLICT")
  return ⟨Dict.set successor predecessor maps.parents, Dict.set predecessor successor maps.children⟩

/-- What the walk over the parents raises. -/
def edgeFault : LineageFault → C06Error
  | .tooDeep => .resourceLimit "C06_LINEAGE_DEPTH_LIMIT_EXHAUSTED"
  | _ => .lineage "LINEAGE_CYCLE"

/-- `validate_lineage_edges`. -/
def validateLineageEdges (edges : List (String × String)) : Except C06Error Unit := do
  raiseIf (maxC06LineageVersions < edges.length) (.resourceLimit "C06_LINEAGE_VERSION_LIMIT_EXHAUSTED")
  let maps ← edges.foldlM addEdge ⟨[], []⟩
  ((Dict.keys maps.parents).forM fun start =>
    Lineage.pursue (fun i => Dict.get? i maps.parents) maxC06LineageDepth [] start).mapError edgeFault

end ATB.MarketData
