import AutomatedTradingBot.Framework.SortedSet
import AutomatedTradingBot.Source.Instruments

/-!
# Dataset identities, digests and resource limits

What the modules of `datasets/` share: opaque identities, the digest of a canonical
body, the identity derived from a digest, evidence references in canonical order,
and the resource policy.
-/

namespace ATB.Datasets

open Instruments (EvidenceRef EvidenceKey)

/-! ## Identities -/

/-- `[A-Za-z0-9._:-]` or a slash. -/
def isIdChar (c : Char) : Bool := Text.isTokenChar c || c == '/'

/-- `_ID.fullmatch(value)`. -/
def isIdentity (value : List Char) : Bool :=
  match value with
  | [] => false
  | c :: cs => c.isAlphanum && cs.all isIdChar && decide (cs.length ≤ 254)

/-- The subclasses of `_OpaqueId`. -/
inductive IdKind where
  | datasetVersion
  | datasetVersionMapping
  | invalidationEvent
  | invalidationTrigger
  | affectedSet
  | propagationRun
  | provenanceGraph
  | provenanceNode
  | resourcePolicy
  | manifest
  | logicalContent
  | storedVersion
  | publicationReceipt
  | provenanceEdge
  | dependency
  | dependencySet
  | freshnessPolicy
  | currentnessAssessment
  | invalidationAssessment
  | datasetCurrentnessAssessment
  | representation
  | transformation
  | transformationVersion
  | transformationImplementation
  | transformationExecution
  | entitlementEvidence
  | materializationRecord
deriving DecidableEq

/-- `_OpaqueId`. A text of the pattern is ASCII, so `_text` accepts it. -/
structure OpaqueId (kind : IdKind) where
  value : String
  identity : isIdentity (Text.chars value) = true
deriving DecidableEq

abbrev DatasetVersionId := OpaqueId .datasetVersion
abbrev DatasetVersionMappingId := OpaqueId .datasetVersionMapping
abbrev InvalidationEventId := OpaqueId .invalidationEvent
abbrev InvalidationTriggerId := OpaqueId .invalidationTrigger
abbrev AffectedSetId := OpaqueId .affectedSet
abbrev PropagationRunId := OpaqueId .propagationRun
abbrev ProvenanceGraphId := OpaqueId .provenanceGraph
abbrev ProvenanceNodeId := OpaqueId .provenanceNode
abbrev DatasetLifecycleResourcePolicyId := OpaqueId .resourcePolicy
abbrev ManifestId := OpaqueId .manifest
abbrev LogicalContentId := OpaqueId .logicalContent
abbrev StoredVersionId := OpaqueId .storedVersion
abbrev PublicationReceiptId := OpaqueId .publicationReceipt
abbrev ProvenanceEdgeId := OpaqueId .provenanceEdge
abbrev DependencyId := OpaqueId .dependency
abbrev DependencySetId := OpaqueId .dependencySet
abbrev FreshnessPolicyId := OpaqueId .freshnessPolicy
abbrev CurrentnessAssessmentId := OpaqueId .currentnessAssessment
abbrev InvalidationAssessmentId := OpaqueId .invalidationAssessment
abbrev DatasetCurrentnessAssessmentId := OpaqueId .datasetCurrentnessAssessment
abbrev CanonicalDatasetRepresentationId := OpaqueId .representation
abbrev TransformationId := OpaqueId .transformation
abbrev TransformationVersionId := OpaqueId .transformationVersion
abbrev TransformationImplementationId := OpaqueId .transformationImplementation
abbrev TransformationExecutionId := OpaqueId .transformationExecution
abbrev EntitlementEvidenceId := OpaqueId .entitlementEvidence
abbrev MaterializationRecordId := OpaqueId .materializationRecord

theorem OpaqueId.value_injective {kind : IdKind} : Function.Injective (@OpaqueId.value kind) := by
  rintro ⟨a, ha⟩ ⟨b, hb⟩ h
  cases h
  rfl

/-! ## Digests -/

section Digest

variable (py : Platform)

/-- `_digest(domain, body)`, as the hash. Each text of a body was accepted by `_text`
when its value was made, so `canonical_json` accepts the body. -/
def hashOf (domain : String) (body : Json) : List Char :=
  Uuid.hexChars 64 (py.sha256 (Text.chars domain ++ Char.ofNat 0 :: body.dumps))

/-- `_digest(domain, body)`. -/
def digest (domain : String) (body : Json) : EvidenceContentDigest :=
  ⟨"sha256:" ++ String.ofList (hashOf py domain body)⟩

theorem mem_hexChars {w n : Nat} {c : Char} (hc : c ∈ Uuid.hexChars w n) : ∃ d < 16, c = Nat.digitChar d := by
  induction w generalizing n with
  | zero => simp [Uuid.hexChars] at hc
  | succ w ih =>
    rw [Uuid.hexChars, List.mem_append, List.mem_singleton] at hc
    rcases hc with hc | rfl
    · exact ih hc
    · exact ⟨n % 16, Nat.mod_lt n (by decide), rfl⟩

theorem isIdChar_hexChars {w n : Nat} {c : Char} (hc : c ∈ Uuid.hexChars w n) : isIdChar c = true := by
  obtain ⟨d, hd, rfl⟩ := mem_hexChars hc
  exact (by decide : ∀ d < 16, isIdChar (Nat.digitChar d) = true) d hd

/-- A lead of the pattern, a colon and 64 hexadecimal digits are of the pattern. -/
theorem isIdentity_derived {lead : List Char} (h : isIdentity lead = true) (hlen : lead.length ≤ 100) (n : Nat) :
    isIdentity (lead ++ ':' :: Uuid.hexChars 64 n) = true := by
  cases lead with
  | nil => simp [isIdentity] at h
  | cons c cs =>
    simp only [isIdentity, Bool.and_eq_true, decide_eq_true_eq] at h
    have hall : ∀ d ∈ Uuid.hexChars 64 n, isIdChar d = true := fun _ => isIdChar_hexChars
    simp only [isIdentity, List.cons_append, Bool.and_eq_true, decide_eq_true_eq, List.all_append, List.all_cons,
      List.all_eq_true.mpr hall, List.length_append, List.length_cons, Uuid.length_hexChars]
    simp only [List.length_cons] at hlen
    exact ⟨⟨h.1.1, h.1.2, by decide, trivial⟩, by omega⟩

/-- The literal leads of `_derived`. -/
structure Lead where
  text : String
  identity : isIdentity (Text.chars text) = true
  short : (Text.chars text).length ≤ 100

/-- `_derived(lead, digest)` as an identity, with the digest given by its domain and body. -/
def derived {kind : IdKind} (lead : Lead) (domain : String) (body : Json) : OpaqueId kind where
  value := String.ofList (Text.chars lead.text ++ ':' :: hashOf py domain body)
  identity := by
    rw [Text.chars_eq, String.toList_ofList]
    exact isIdentity_derived lead.identity lead.short _

end Digest

/-! ## Evidence -/

/-- `canonical_bytes` of a reference. -/
def canonicalBytes (e : EvidenceRef) : List Char := e.mapping.dumps

/-- What `canonicalize_evidence_refs` raises. -/
inductive EvidenceError where
  | valueError (message : String)
  | identityConflict (message : String)
deriving DecidableEq

/-- The loop of `canonicalize_evidence_refs`. -/
def byKey (values : List EvidenceRef) : Except EvidenceError (List (EvidenceKey × EvidenceRef)) :=
  values.foldlM (fun known value => do
    raiseIf ((Dict.get? value.key known).any fun previous => decide (previous.contentDigest ≠ value.contentDigest))
      (.identityConflict "EVIDENCE_IDENTITY_CONFLICT")
    return Dict.set value.key value known) []

def canonicalizeEvidenceRefs (values : List EvidenceRef) : Except EvidenceError (List EvidenceRef) := do
  raiseIf (values = []) (.valueError "evidence_refs must not be empty")
  raiseIf (Instruments.maxEvidenceRefs < values.length) (.valueError "evidence_refs exceeds the limit of 64")
  let known ← byKey values
  return (Dict.values known).insertionSort fun a b => canonicalBytes a ≤ canonicalBytes b

/-- One reference is canonical. -/
theorem canonicalizeEvidenceRefs_singleton (e : EvidenceRef) : canonicalizeEvidenceRefs [e] = .ok [e] := rfl

/-! ## Resource policies -/

/-- `REQUIRED_RESOURCE_LIMITS`. -/
inductive ResourceLimit where
  | maxMaterializationEvidenceRefs
  | maxDependenciesPerDatasetVersion
  | maxProvenanceNodes
  | maxProvenanceEdges
  | maxAffectedSetMembers
  | maxInvalidationTraversalDepth
  | maxReasonsPerRecord
  | maxReasonLength
  | maxPolicyRefs
  | maxPublicationRecordsPerBatch
  | maxDatasetVersionsPerBatch
  | maxPropagationEventsPerRun
deriving DecidableEq

/-- `REQUIRED_PHYSICAL_RESOURCE_LIMITS`. -/
inductive PhysicalResourceLimit where
  | maxPersistedObjectBytes
  | maxBundleBytes
  | maxObjectsPerVersion
  | maxMetadataBytes
  | maxRecoveryStagingEntries
deriving DecidableEq

/-- `DatasetLifecycleResourcePolicy`: the required limits, and either all of the
physical ones or none. -/
structure DatasetLifecycleResourcePolicy where
  policyId : DatasetLifecycleResourcePolicyId
  value : ResourceLimit → Nat
  physical : Option (PhysicalResourceLimit → Nat)
  positive : ∀ name, 0 < value name
  physicalPositive : ∀ limits ∈ physical, ∀ name, 0 < limits name

end ATB.Datasets
