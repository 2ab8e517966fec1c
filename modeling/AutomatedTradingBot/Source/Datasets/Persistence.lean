import AutomatedTradingBot.Source.Datasets.Foundation

/-!
# Persistence and publication receipts

`datasets/persistence.py`: the identity of a stored version, and the receipts of a
persistence and of a publication. A receipt compares the digest of its content with
the one its constructor function has just computed, so it is computed once, and the
callers pass the identities of the manifest that the receipt is checked against.
-/

namespace ATB.Datasets

open Instruments (EvidenceRef)

def sharedContractVersion : String := "ATIS_STAGE3_SHARED_DATASET_LIFECYCLE_CONTRACT_V1"

inductive DatasetPersistenceReason where
  | identityContentConflict
  | verificationEvidenceNotEstablished
  | predecessorPublicationMismatch
deriving DecidableEq

inductive PhysicalPersistenceReason where
  | resourceLimitExceeded
  | objectMissing
  | objectCorrupt
  | objectCollision
  | versionNotEstablished
  | versionIdentityMismatch
  | versionBundleInvalid
  | publicationPredecessorMismatch
  | publicationMarkerInvalid
  | externalReferenceInsufficient
  | retentionEvidenceNotEstablished
  | injectedInterruption
deriving DecidableEq

/-- What the two modules raise: `PhysicalPersistenceError`, `DatasetPersistenceError`, an
exception of `canonicalize_evidence_refs`, or one of a text check. -/
inductive StoreError where
  | physical (reason : PhysicalPersistenceReason)
  | persistence (reason : DatasetPersistenceReason)
  | evidence (error : EvidenceError)
  | python (error : PyError)
deriving DecidableEq

/-! ## Evidence references with canonical identities -/

def isLowerAlphanum (c : Char) : Bool := c.isDigit || (decide ('a' ≤ c) && decide (c ≤ 'z'))

/-- The tail of `_AUTHORITY`: a dot or a hyphen stands before a letter or a digit. -/
def isAuthorityTail : List Char → Bool
  | [] => true
  | c :: cs => (isLowerAlphanum c || ((c == '.' || c == '-') && cs.head?.any isLowerAlphanum)) && isAuthorityTail cs

/-- `_AUTHORITY`. -/
def isAuthority : List Char → Bool
  | [] => false
  | c :: cs => isLowerAlphanum c && isAuthorityTail cs && decide (cs.length ≤ 62)

/-- `_LOCAL`. -/
def isLocal : List Char → Bool
  | [] => false
  | c :: cs => c.isAlphanum && cs.all (fun d => isIdChar d || d == '+') && decide (cs.length ≤ 190)

/-- `_validate_attributable_id`. An authority has no slash, so the first one ends it. -/
def isAttributable (kind value : String) : Bool :=
  decide ((Text.chars value).length ≤ 255) &&
    match Text.after? (Text.chars (kind ++ ":")) (Text.chars value) with
    | none => false
    | some rest => isAuthority (rest.takeWhile (· ≠ '/')) && isLocal ((rest.dropWhile (· ≠ '/')).drop 1)

/-- The checks that the constructors of a reference's parts make. -/
def refCanonical (e : EvidenceRef) : Bool :=
  isAttributable "source" e.sourceId && isAttributable "dataset" e.datasetId &&
    isAttributable "evidence" e.evidenceId && e.contentDigest.canonical

/-- An `EvidenceRef` with what its parts require. -/
structure AttributedRef where
  ref : EvidenceRef
  canonical : refCanonical ref = true
deriving DecidableEq

/-- `_evidence_ref_body`. -/
def AttributedRef.body (e : AttributedRef) : Json := e.ref.mapping

/-- `_canonical_verification_evidence`. -/
def canonicalVerificationEvidence (values : List AttributedRef) : Except StoreError (List EvidenceRef) := do
  raiseIf (values = []) (.persistence .verificationEvidenceNotEstablished)
  (canonicalizeEvidenceRefs (values.map AttributedRef.ref)).mapError .evidence

/-! ## Stored versions and receipts -/

/-- The identities of a `DatasetManifest`. -/
structure DatasetManifest where
  datasetVersionId : DatasetVersionId
  manifestId : ManifestId
  logicalContentId : LogicalContentId
deriving DecidableEq

def storedVersionLead : Lead := ⟨"c11-stored-version", by decide, by decide⟩
def publicationReceiptLead : Lead := ⟨"c11-publication-receipt", by decide, by decide⟩

structure PersistenceReceipt where
  datasetVersionId : DatasetVersionId
  manifestId : ManifestId
  logicalContentId : LogicalContentId
  storedVersionId : StoredVersionId
  storageAdapterContractRef : EvidenceRef
  writtenContentDigest : EvidenceContentDigest
  verificationEvidenceRefs : List EvidenceRef
  completedAt : Timestamp
  resourcePolicyId : DatasetLifecycleResourcePolicyId
  contentDigest : EvidenceContentDigest
deriving DecidableEq

/-- The fields of a `PublicationReceipt` but its digest. -/
structure PublicationContent where
  datasetVersionId : DatasetVersionId
  manifestId : ManifestId
  logicalContentId : LogicalContentId
  storedVersionId : StoredVersionId
  predecessorPublicationRef : Option PublicationReceiptId
  verificationEvidenceRefs : List EvidenceRef
  completedAt : Timestamp
deriving DecidableEq

structure PublicationReceipt extends PublicationContent where
  contentDigest : EvidenceContentDigest
deriving DecidableEq

section Receipts

variable (py : Platform)

def deriveStoredVersionId (contractVersion : String) (datasetVersionId : DatasetVersionId) (manifestId : ManifestId)
    (logicalContentId : LogicalContentId) (writtenContentDigest : EvidenceContentDigest) :
    Except StoreError StoredVersionId := do
  (py.text "contract_version" contractVersion).mapError .python
  return derived py storedVersionLead "ATIS:C11:STORED_VERSION:1" (.obj
    [("contract_version", .str contractVersion), ("dataset_version_id", .str datasetVersionId.value),
      ("manifest_id", .str manifestId.value), ("logical_content_id", .str logicalContentId.value),
      ("written_content_digest", .str writtenContentDigest.value)])

def createPersistenceReceipt (manifest : DatasetManifest) (storedVersionId : StoredVersionId)
    (storageAdapterContractRef : AttributedRef) (writtenContentDigest : EvidenceContentDigest)
    (verificationEvidenceRefs : List AttributedRef) (completedAt : Timestamp)
    (policy : DatasetLifecycleResourcePolicy) : Except StoreError PersistenceReceipt := do
  let expectedStored ← deriveStoredVersionId py sharedContractVersion manifest.datasetVersionId manifest.manifestId
    manifest.logicalContentId writtenContentDigest
  raiseIf (storedVersionId ≠ expectedStored) (.persistence .identityContentConflict)
  let canonicalEvidence ← canonicalVerificationEvidence verificationEvidenceRefs
  let projection := Json.obj
    [("contract_version", .str sharedContractVersion), ("dataset_version_id", .str manifest.datasetVersionId.value),
      ("manifest_id", .str manifest.manifestId.value), ("logical_content_id", .str manifest.logicalContentId.value),
      ("stored_version_id", .str storedVersionId.value), ("persistence_operation", .str "PERSIST_EXACT_VERSION"),
      ("storage_adapter_contract_ref", storageAdapterContractRef.body),
      ("written_content_digest", .str writtenContentDigest.value),
      ("verification_evidence_refs", .arr (canonicalEvidence.map EvidenceRef.mapping)),
      ("completed_at", .str completedAt.value.isoformat), ("resource_policy_id", .str policy.policyId.value)]
  return {
    datasetVersionId := manifest.datasetVersionId
    manifestId := manifest.manifestId
    logicalContentId := manifest.logicalContentId
    storedVersionId
    storageAdapterContractRef := storageAdapterContractRef.ref
    writtenContentDigest
    verificationEvidenceRefs := canonicalEvidence
    completedAt
    resourcePolicyId := policy.policyId
    contentDigest := digest py "ATIS:C11:PERSISTENCE_RECEIPT_CONTENT:1" projection }

/-- The items of `content_projection` of a publication receipt. -/
def PublicationContent.projection (r : PublicationContent) : List (String × Json) :=
  [("contract_version", .str sharedContractVersion), ("dataset_version_id", .str r.datasetVersionId.value),
    ("manifest_id", .str r.manifestId.value), ("logical_content_id", .str r.logicalContentId.value),
    ("stored_version_id", .str r.storedVersionId.value), ("publication_operation", .str "PUBLISH_EXACT_VERSION"),
    ("predecessor_publication_ref", (r.predecessorPublicationRef.map fun i => Json.str i.value).getD .null),
    ("verification_evidence_refs", .arr (r.verificationEvidenceRefs.map EvidenceRef.mapping)),
    ("consumer_visibility_state", .str "COMPLETE"), ("completed_at", .str r.completedAt.value.isoformat)]

def PublicationReceipt.receiptId (r : PublicationReceipt) : PublicationReceiptId :=
  derived py publicationReceiptLead "ATIS:C11:PUBLICATION_RECEIPT:1"
    (.obj (r.projection ++ [("content_digest", .str r.contentDigest.value)]))

def createPublicationReceipt (manifest : DatasetManifest) (storedVersionId : StoredVersionId)
    (expectedWrittenContentDigest : EvidenceContentDigest)
    (predecessorPublicationRef expectedPredecessorPublicationRef : Option PublicationReceiptId)
    (verificationEvidenceRefs : List AttributedRef) (completedAt : Timestamp) :
    Except StoreError PublicationReceipt := do
  let expectedStored ← deriveStoredVersionId py sharedContractVersion manifest.datasetVersionId manifest.manifestId
    manifest.logicalContentId expectedWrittenContentDigest
  raiseIf (storedVersionId ≠ expectedStored) (.persistence .identityContentConflict)
  raiseIf (predecessorPublicationRef ≠ expectedPredecessorPublicationRef) (.persistence .predecessorPublicationMismatch)
  let canonicalEvidence ← canonicalVerificationEvidence verificationEvidenceRefs
  let content : PublicationContent :=
    { datasetVersionId := manifest.datasetVersionId, manifestId := manifest.manifestId
      logicalContentId := manifest.logicalContentId, storedVersionId, predecessorPublicationRef
      verificationEvidenceRefs := canonicalEvidence, completedAt }
  return ⟨content, digest py "ATIS:C11:PUBLICATION_RECEIPT_CONTENT:1" (.obj content.projection)⟩

end Receipts

end ATB.Datasets
