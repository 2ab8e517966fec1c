import AutomatedTradingBot.Framework.Calls
import AutomatedTradingBot.Source.Datasets.Persistence

/-!
# The local physical store

`datasets/physical_persistence.py`: the files of a store, persisting and reading one
exact version, and publishing it. Paths are safe, and reading and writing files does
not fail. An object is found by its digest, a version's record by the hash of its
identity, and the publication marker is one file. The copies in the staging directory
are written before the files they are copies of and never read again: what is kept of
them is their number.

`publishExactVersion` is a program over the file-system steps that other publishers can
come between. What a publication reads of a version is never written again, so reading
a version is one step.
-/

namespace ATB.Datasets

open Instruments (EvidenceRef)

/-! ## Retained artifacts -/

inductive RetainedArtifactKind where
  | canonicalAnalyticalBytes
  | datasetManifest
  | provenanceGraph
  | transformationLineage
  | sourceEvidence
  | currentnessEvidence
  | quarantineEligibilityEvidence
  | correctionCancellationEvidence
  | invalidationAffectedSetEvidence
  | resourcePolicy
  | recoveryMetadata
  | supersessionLineage
deriving DecidableEq

namespace RetainedArtifactKind

def value : RetainedArtifactKind → String
  | canonicalAnalyticalBytes => "CANONICAL_ANALYTICAL_BYTES"
  | datasetManifest => "DATASET_MANIFEST"
  | provenanceGraph => "PROVENANCE_GRAPH"
  | transformationLineage => "TRANSFORMATION_LINEAGE"
  | sourceEvidence => "SOURCE_EVIDENCE"
  | currentnessEvidence => "CURRENTNESS_EVIDENCE"
  | quarantineEligibilityEvidence => "QUARANTINE_ELIGIBILITY_EVIDENCE"
  | correctionCancellationEvidence => "CORRECTION_CANCELLATION_EVIDENCE"
  | invalidationAffectedSetEvidence => "INVALIDATION_AFFECTED_SET_EVIDENCE"
  | resourcePolicy => "RESOURCE_POLICY"
  | recoveryMetadata => "RECOVERY_METADATA"
  | supersessionLineage => "SUPERSESSION_LINEAGE"

/-- `base` of `_validate_retained_inventory`. -/
def base : List RetainedArtifactKind :=
  [canonicalAnalyticalBytes, datasetManifest, provenanceGraph, transformationLineage]

/-- `required` of `persist_exact_version` and `_validate_retained_inventory`. -/
def required : List RetainedArtifactKind :=
  [sourceEvidence, currentnessEvidence, quarantineEligibilityEvidence, correctionCancellationEvidence,
    invalidationAffectedSetEvidence, resourcePolicy, recoveryMetadata, supersessionLineage]

/-- `RetainedArtifactKind(value)`. -/
def ofValue? (value : String) : Option RetainedArtifactKind :=
  (base ++ required).find? fun kind => kind.value = value

end RetainedArtifactKind

/-- `token in value.casefold()`, on ASCII text. -/
def hasToken (token : String) (value : List Char) : Bool :=
  (value.map Char.toLower).tails.any fun s => (Text.after? (Text.chars token) s).isSome

/-- An identity of an external reference: canonical, and not of something mutable. -/
def isImmutableIdentity (value : String) : Bool :=
  isIdentity (Text.chars value) &&
    !(["latest", "current", "?", "#"].any fun token => hasToken token (Text.chars value))

/-- `ImmutableExternalReference`; one that is not exactly retrievable cannot be made. -/
structure ImmutableExternalReference where
  referenceId : String
  sourceIdentity : String
  versionIdentity : String
  contentDigest : EvidenceContentDigest
  acquiredAt : Timestamp
  knowledgeAt : Timestamp
  entitlementRef : AttributedRef
  immutable : isImmutableIdentity referenceId = true ∧ isImmutableIdentity sourceIdentity = true ∧
    isImmutableIdentity versionIdentity = true
  canonical : contentDigest.canonical = true

def ImmutableExternalReference.body (r : ImmutableExternalReference) : Json := .obj
  [("acquired_at", .str r.acquiredAt.value.isoformat), ("content_digest", .str r.contentDigest.value),
    ("entitlement_ref", r.entitlementRef.body), ("exactly_retrievable", .bool true),
    ("knowledge_at", .str r.knowledgeAt.value.isoformat), ("reference_id", .str r.referenceId),
    ("source_identity", .str r.sourceIdentity), ("version_identity", .str r.versionIdentity)]

/-- What is retained: the content itself, or where it can be retrieved. -/
inductive Retention where
  | content (bytes : List UInt8)
  | externalReference (reference : ImmutableExternalReference)

def Retention.external? : Retention → Option ImmutableExternalReference
  | .content _ => none
  | .externalReference reference => some reference

def Retention.content? : Retention → Option (List UInt8)
  | .content bytes => some bytes
  | .externalReference _ => none

structure RetainedArtifact where
  kind : RetainedArtifactKind
  identity : String
  retention : Retention
  safe : isIdentity (Text.chars identity) = true
  source : retention.external?.isSome = true → kind = .sourceEvidence

/-! ## Files -/

/-- The bytes of a record: those of a text in UTF-8, or bytes that no text has. -/
inductive FileBytes where
  | text (chars : List Char)
  | undecodable (bytes : List UInt8)
deriving DecidableEq

def FileBytes.size : FileBytes → Nat
  | .text chars => (chars.map Char.utf8Size).sum
  | .undecodable bytes => bytes.length

/-- The files of a store, and the number of its staging entries. -/
structure Files where
  objects : EvidenceContentDigest → Option (List UInt8)
  versions : String → Option FileBytes
  staging : Nat
  publication : Option FileBytes

/-- `LocalPhysicalDatasetStore`, with the functions of Python's library it uses. -/
structure LocalPhysicalDatasetStore where
  py : Platform
  /-- `sha256(content)`. -/
  sha256Bytes : List UInt8 → Fin (2 ^ 256)
  policy : DatasetLifecycleResourcePolicy
  limit : PhysicalResourceLimit → Nat
  established : policy.physical = some limit

inductive FailurePoint where
  | afterStaging
  | afterObjectCommit
  | beforePublicationCommit
  | afterPublicationCommit
deriving DecidableEq

/-! ## Reading JSON values -/

/-- `_required_str` of a field. -/
def textField (k : String) (j : Json) : Option String :=
  match j.get? k with
  | some (.str s) => some s
  | _ => none

/-- A field that is a `bool`. -/
def flagField (k : String) (j : Json) : Option Bool :=
  match j.get? k with
  | some (.bool b) => some b
  | _ => none

/-- An identity, from a field. -/
def idField {kind : IdKind} (k : String) (j : Json) : Option (OpaqueId kind) := do
  let value ← textField k j
  if h : isIdentity (Text.chars value) = true then some ⟨value, h⟩ else none

/-- `EvidenceContentDigest`, from a field. -/
def digestField (k : String) (j : Json) : Option EvidenceContentDigest := do
  let value ← textField k j
  if EvidenceContentDigest.canonical ⟨value⟩ then some ⟨value⟩ else none

/-- `_required_list` of a field. -/
def listField (k : String) (j : Json) : Except StoreError (List Json) :=
  match j.get? k with
  | some (.arr items) => .ok items
  | _ => .error (.physical .versionBundleInvalid)

/-- `type(item) is dict and set(item) == keys`. -/
def hasKeys (keys : List String) : Json → Bool
  | .dict fields => decide ((∀ f ∈ fields, f.1 ∈ keys) ∧ ∀ k ∈ keys, k ∈ fields.map Prod.fst)
  | _ => false

/-- `_evidence_ref_from_body`. -/
def evidenceRefFromBody (value : Json) : Option AttributedRef := do
  let sourceId ← textField "source_id" value
  let datasetId ← textField "dataset_id" value
  let evidenceId ← textField "evidence_id" value
  let contentDigest ← textField "content_digest" value
  if h : refCanonical ⟨sourceId, datasetId, evidenceId, ⟨contentDigest⟩⟩ = true then some ⟨_, h⟩ else none

/-- `Timestamp(datetime.fromisoformat(text))`: the offset is zero. -/
def timestampFromText (text : String) : Option Timestamp :=
  match Datetime.fromIsoformat? text with
  | some (t, some 0) => some ⟨t⟩
  | _ => none

/-- `_external_reference_from_body`. -/
def externalReferenceFromBody (value : Json) : Except StoreError ImmutableExternalReference := do
  raiseIf (¬ hasKeys ["acquired_at", "content_digest", "entitlement_ref", "exactly_retrievable", "knowledge_at",
    "reference_id", "source_identity", "version_identity"] value) (.physical .externalReferenceInsufficient)
  let text (k : String) : Except StoreError String := orRaise (.physical .versionBundleInvalid) (textField k value)
  let insufficient {α : Type} (o : Option α) : Except StoreError α :=
    orRaise (.physical .externalReferenceInsufficient) o
  let referenceId ← text "reference_id"
  let sourceIdentity ← text "source_identity"
  let versionIdentity ← text "version_identity"
  let _ ← text "content_digest"
  let contentDigest ← insufficient (digestField "content_digest" value)
  let acquiredAt ← insufficient (timestampFromText (← text "acquired_at"))
  let knowledgeAt ← insufficient (timestampFromText (← text "knowledge_at"))
  let entitlementRef ← orRaise (.physical .versionBundleInvalid) ((value.get? "entitlement_ref").bind evidenceRefFromBody)
  raiseIf (flagField "exactly_retrievable" value ≠ some true) (.physical .externalReferenceInsufficient)
  if h : (isImmutableIdentity referenceId = true ∧ isImmutableIdentity sourceIdentity = true ∧
      isImmutableIdentity versionIdentity = true) ∧ contentDigest.canonical = true then
    return ⟨referenceId, sourceIdentity, versionIdentity, contentDigest, acquiredAt, knowledgeAt, entitlementRef, h.1,
      h.2⟩
  else throw (.physical .externalReferenceInsufficient)

/-- A record of `objects`. -/
structure ObjectRecord where
  contentDigest : EvidenceContentDigest
  identity : String
  kind : RetainedArtifactKind
  size : Nat
deriving DecidableEq

def ObjectRecord.body (r : ObjectRecord) : Json := .obj
  [("content_digest", .str r.contentDigest.value), ("identity", .str r.identity), ("kind", .str r.kind.value),
    ("size", .int r.size)]

/-- A record of `objects` that `_validate_retained_inventory` accepts by itself. -/
def objectRecord? (item : Json) : Option ObjectRecord := do
  if ¬ hasKeys ["kind", "identity", "content_digest", "size"] item then none
  let kind ← RetainedArtifactKind.ofValue? (← textField "kind" item)
  let identity ← textField "identity" item
  let contentDigest ← digestField "content_digest" item
  if ¬ isIdentity (Text.chars identity) then none
  match item.get? "size" with
  | some (.int (.ofNat size)) => some ⟨contentDigest, identity, kind, size⟩
  | _ => none

/-- The identity and the reference of a record of `external_references`. -/
def externalRecord? (item : Json) : Option (String × Json) := do
  if ¬ hasKeys ["kind", "identity", "reference"] item then none
  let kind ← RetainedArtifactKind.ofValue? (← textField "kind" item)
  let identity ← textField "identity" item
  if kind ≠ .sourceEvidence ∨ ¬ isIdentity (Text.chars identity) then none
  let reference ← item.get? "reference"
  some (identity, reference)

namespace LocalPhysicalDatasetStore

variable (store : LocalPhysicalDatasetStore)

/-- `EvidenceContentDigest.from_bytes`. -/
def fromBytes (content : List UInt8) : EvidenceContentDigest :=
  ⟨"sha256:" ++ String.ofList (Uuid.hexChars 64 (store.sha256Bytes content))⟩

/-- `_version_path`, as the name of the file. -/
def versionPath (storedVersionId : StoredVersionId) : String := store.py.hexdigest (Text.chars storedVersionId.value)

/-- `_check_size` of a record. -/
def checkSize (content : FileBytes) : Except StoreError Unit :=
  raiseIf (store.limit .maxMetadataBytes < content.size) (.physical .resourceLimitExceeded)

/-- `canonical_json(value)`, encoded. -/
def canonicalJson (value : Json) : Except StoreError FileBytes :=
  ((store.py.canonicalJson value).mapError .python).map .text

/-! ## Reading a version -/

/-- The records of `_validate_retained_inventory`: a base object's name is not reserved. -/
def inventoryRecords (items : List Json) : Except StoreError (List ObjectRecord) := do
  let records ← items.mapM fun item => orRaise (.physical .versionBundleInvalid) (objectRecord? item)
  raiseIf (¬ ((records.filter fun r => decide (r.kind ∉ RetainedArtifactKind.base)).map (·.identity)).Nodup)
    (.physical .versionBundleInvalid)
  return records

/-- One external reference of `_validate_retained_inventory`: the identities so far, with its own. -/
def acceptExternal (identities : List String) (item : Json) : Except StoreError (List String) := do
  let (identity, reference) ← orRaise (.physical .versionBundleInvalid) (externalRecord? item)
  raiseIf (identity ∈ identities) (.physical .versionBundleInvalid)
  let _ ← externalReferenceFromBody reference
  return identities ++ [identity]

/-- `_validate_retained_inventory`. -/
def validateRetainedInventory (metadata : Json) : Except StoreError (List ObjectRecord) := do
  let items ← listField "objects" metadata
  let externalItems ← listField "external_references" metadata
  raiseIf (store.limit .maxObjectsPerVersion < items.length + externalItems.length) (.physical .resourceLimitExceeded)
  let records ← inventoryRecords items
  let _ ← externalItems.foldlM acceptExternal
    ((records.filter fun r => decide (r.kind ∉ RetainedArtifactKind.base)).map (·.identity))
  let kinds := records.map (·.kind) ++ externalItems.map fun _ => RetainedArtifactKind.sourceEvidence
  raiseIf (¬ ((∀ kind ∈ RetainedArtifactKind.required, kind ∈ kinds) ∧ ∀ kind ∈ RetainedArtifactKind.base, kind ∈ kinds))
    (.physical .versionBundleInvalid)
  raiseIf (∃ kind ∈ RetainedArtifactKind.base, (records.filter fun r => decide (r.kind = kind)).length ≠ 1)
    (.physical .versionBundleInvalid)
  return records

/-- The stored version that a record names, by its other fields. -/
def derivedVersion (value : Json) : Option StoredVersionId := do
  let contractVersion ← textField "contract_version" value
  let datasetVersionId ← idField "dataset_version_id" value
  let manifestId ← idField "manifest_id" value
  let logicalContentId ← idField "logical_content_id" value
  let writtenContentDigest ← digestField "written_content_digest" value
  (deriveStoredVersionId store.py contractVersion datasetVersionId manifestId logicalContentId
    writtenContentDigest).toOption

/-- `_load_version`. -/
def loadVersion (files : Files) (storedVersionId : StoredVersionId) : Except StoreError Json := do
  let content ← orRaise (.physical .versionNotEstablished) (files.versions (store.versionPath storedVersionId))
  store.checkSize content
  let value ← orRaise (.physical .versionBundleInvalid) <| match content with
    | .text chars => (Json.loads chars).filter fun value => value.fields?.isSome
    | .undecodable _ => none
  raiseIf ((store.canonicalJson value).toOption ≠ some content) (.physical .versionBundleInvalid)
  raiseIf (textField "stored_version_id" value ≠ some storedVersionId.value) (.physical .versionIdentityMismatch)
  let derived ← orRaise (.physical .versionBundleInvalid) (store.derivedVersion value)
  raiseIf (derived ≠ storedVersionId) (.physical .versionIdentityMismatch)
  return value

/-- `_read_bytes`. -/
def readBytes (files : Files) (digest : EvidenceContentDigest) : Except StoreError (List UInt8) := do
  let content ← orRaise (.physical .objectMissing) (files.objects digest)
  raiseIf (store.fromBytes content ≠ digest) (.physical .objectCorrupt)
  return content

structure ExactVersionRetrievalResult where
  storedVersionId : StoredVersionId
  writtenContentDigest : EvidenceContentDigest
  verificationEvidenceRefs : List EvidenceRef

/-- One record of `_retrieval`: the content of the canonical bytes, once it was read. -/
def readObject (files : Files) (canonical : Option (List UInt8)) (record : ObjectRecord) :
    Except StoreError (Option (List UInt8)) := do
  let content ← store.readBytes files record.contentDigest
  raiseIf (content.length ≠ record.size) (.physical .objectCorrupt)
  return if record.kind = .canonicalAnalyticalBytes then some content else canonical

/-- `ExactVersionRetrievalResult.__post_init__`. -/
def retrievedEvidence (refs : List AttributedRef) : Except StoreError (List EvidenceRef) :=
  if refs = [] then .ok [] else (canonicalizeEvidenceRefs (refs.map AttributedRef.ref)).mapError .evidence

/-- An external reference in `_retrieval`. -/
def recheckExternal (item : Json) : Except StoreError Unit := do
  let (_, reference) ← orRaise (.physical .externalReferenceInsufficient) (externalRecord? item)
  let _ ← externalReferenceFromBody reference

/-- `_retrieval`, and `read_exact_version`. -/
def retrieval (files : Files) (storedVersionId : StoredVersionId) :
    Except StoreError (ExactVersionRetrievalResult × List UInt8) := do
  let metadata ← store.loadVersion files storedVersionId
  let records ← store.validateRetainedInventory metadata
  let canonical ← orRaise (.physical .versionBundleInvalid) (← records.foldlM (store.readObject files) none)
  let expected ← orRaise (.physical .versionBundleInvalid) (digestField "written_content_digest" metadata)
  raiseIf (store.fromBytes canonical ≠ expected) (.physical .objectCorrupt)
  let refs ← (← listField "verification_evidence_refs" metadata).mapM fun item =>
    orRaise (.physical .versionBundleInvalid) (evidenceRefFromBody item)
  (← listField "external_references" metadata).forM recheckExternal
  let evidence ← retrievedEvidence refs
  return (⟨storedVersionId, expected, evidence⟩, canonical)

/-! ## Persisting a version -/

structure PersistRequest where
  canonicalBytes : List UInt8
  manifest : DatasetManifest
  manifestBytes : List UInt8
  provenanceBytes : List UInt8
  lineageBytes : List UInt8
  retainedArtifacts : List RetainedArtifact
  storageAdapterContractRef : AttributedRef
  verificationEvidenceRefs : List AttributedRef
  completedAt : Timestamp
  failurePoint : Option FailurePoint

structure LocalObject where
  kind : RetainedArtifactKind
  identity : String
  content : List UInt8

/-- `local_objects`. -/
def PersistRequest.localObjects (request : PersistRequest) : List LocalObject :=
  [⟨.canonicalAnalyticalBytes, "canonical", request.canonicalBytes⟩,
    ⟨.datasetManifest, "manifest", request.manifestBytes⟩,
    ⟨.provenanceGraph, "provenance", request.provenanceBytes⟩,
    ⟨.transformationLineage, "lineage", request.lineageBytes⟩] ++
  request.retainedArtifacts.filterMap fun item =>
    item.retention.content?.map fun content => ⟨item.kind, item.identity, content⟩

/-- `external`, as the identities and references. -/
def PersistRequest.external (request : PersistRequest) : List (String × ImmutableExternalReference) :=
  request.retainedArtifacts.filterMap fun item => item.retention.external?.map fun reference => (item.identity, reference)

def externalBody (e : String × ImmutableExternalReference) : Json := .obj
  [("identity", .str e.1), ("kind", .str RetainedArtifactKind.sourceEvidence.value), ("reference", e.2.body)]

/-- The record of an object. -/
def objectRecord (o : LocalObject) : ObjectRecord := ⟨store.fromBytes o.content, o.identity, o.kind, o.content.length⟩

/-- `metadata` of `persist_exact_version`. -/
def metadata (request : PersistRequest) (storedVersionId : StoredVersionId) : Json := .obj
  [("contract_version", .str sharedContractVersion), ("dataset_version_id", .str request.manifest.datasetVersionId.value),
    ("external_references", .arr ((request.external.insertionSort fun a b => a.1 ≤ b.1).map externalBody)),
    ("logical_content_id", .str request.manifest.logicalContentId.value),
    ("manifest_id", .str request.manifest.manifestId.value),
    ("objects", .arr (((request.localObjects.map store.objectRecord).insertionSort fun a b =>
      a.kind.value < b.kind.value ∨ a.kind.value = b.kind.value ∧ a.identity ≤ b.identity).map ObjectRecord.body)),
    ("resource_policy_id", .str store.policy.policyId.value), ("stored_version_id", .str storedVersionId.value),
    ("verification_evidence_refs", .arr (request.verificationEvidenceRefs.map AttributedRef.body)),
    ("written_content_digest", .str (store.fromBytes request.canonicalBytes).value)]

/-- The identity that a request is stored under. -/
def storedVersion (request : PersistRequest) : Except StoreError StoredVersionId :=
  deriveStoredVersionId store.py sharedContractVersion request.manifest.datasetVersionId request.manifest.manifestId
    request.manifest.logicalContentId (store.fromBytes request.canonicalBytes)

/-- `persist_exact_version` up to its first write. -/
def prepare (files : Files) (request : PersistRequest) : Except StoreError (StoredVersionId × FileBytes) := do
  raiseIf (¬ ∀ kind ∈ RetainedArtifactKind.required, kind ∈ request.retainedArtifacts.map (·.kind))
    (.physical .retentionEvidenceNotEstablished)
  raiseIf (¬ (request.retainedArtifacts.map (·.identity)).Nodup) (.physical .retentionEvidenceNotEstablished)
  raiseIf (store.limit .maxObjectsPerVersion < request.localObjects.length + request.external.length)
    (.physical .resourceLimitExceeded)
  raiseIf (∃ o ∈ request.localObjects, store.limit .maxPersistedObjectBytes < o.content.length)
    (.physical .resourceLimitExceeded)
  let storedVersionId ← store.storedVersion request
  let metadataBytes ← store.canonicalJson (store.metadata request storedVersionId)
  store.checkSize metadataBytes
  raiseIf (store.limit .maxBundleBytes < (request.localObjects.map (·.content.length)).sum + metadataBytes.size)
    (.physical .resourceLimitExceeded)
  raiseIf (store.limit .maxRecoveryStagingEntries ≤ files.staging) (.physical .resourceLimitExceeded)
  return (storedVersionId, metadataBytes)

/-- `_write_object`, of the digest of the content. -/
def writeObject (files : Files) (content : List UInt8) : Except StoreError Files := do
  raiseIf (store.limit .maxPersistedObjectBytes < content.length) (.physical .resourceLimitExceeded)
  match files.objects (store.fromBytes content) with
  | some existing =>
    raiseIf (existing ≠ content) (.physical .objectCollision)
    return files
  | none => return { files with objects := Function.update files.objects (store.fromBytes content) (some content) }

/-- The objects in turn: those before a refused one stay written. -/
def writeObjects (files : Files) : List LocalObject → Files × Except StoreError Unit
  | [] => (files, .ok ())
  | o :: rest =>
    match store.writeObject files o.content with
    | .error e => (files, .error e)
    | .ok files => writeObjects files rest

/-- `_write_once_metadata`. -/
def writeOnceMetadata (files : Files) (path : String) (content : FileBytes) : Except StoreError Files := do
  store.checkSize content
  match files.versions path with
  | some existing =>
    raiseIf (existing ≠ content) (.physical .objectCollision)
    return files
  | none => return { files with versions := Function.update files.versions path (some content) }

/-- `persist_exact_version` after the commit of the record. -/
def confirm (files : Files) (request : PersistRequest) (storedVersionId : StoredVersionId) :
    Except StoreError PersistenceReceipt := do
  let (_, verifiedBytes) ← store.retrieval files storedVersionId
  raiseIf (verifiedBytes ≠ request.canonicalBytes) (.physical .versionBundleInvalid)
  createPersistenceReceipt store.py request.manifest storedVersionId request.storageAdapterContractRef
    (store.fromBytes request.canonicalBytes) request.verificationEvidenceRefs request.completedAt store.policy

/-- `persist_exact_version`. A refused call leaves its staging entry. -/
def persistExactVersion (files : Files) (request : PersistRequest) : Files × Except StoreError PersistenceReceipt :=
  match store.prepare files request with
  | .error e => (files, .error e)
  | .ok (storedVersionId, metadataBytes) =>
    let staged := { files with staging := files.staging + 1 }
    if request.failurePoint = some .afterStaging then (staged, .error (.physical .injectedInterruption)) else
    match store.writeObjects staged request.localObjects with
    | (written, .error e) => (written, .error e)
    | (written, .ok ()) =>
      if request.failurePoint = some .afterObjectCommit then (written, .error (.physical .injectedInterruption)) else
      match store.writeOnceMetadata written (store.versionPath storedVersionId) metadataBytes with
      | .error e => (written, .error e)
      | .ok committed =>
        match store.confirm committed request storedVersionId with
        | .error e => (committed, .error e)
        | .ok receipt => ({ committed with staging := committed.staging - 1 }, .ok receipt)

/-! ## Publishing a version -/

/-- The contents of the publication marker. -/
structure PublicationMarker where
  publicationReceiptId : PublicationReceiptId
  storedVersionId : StoredVersionId
  writtenContentDigest : EvidenceContentDigest
deriving DecidableEq

def PublicationMarker.body (m : PublicationMarker) : Json := .obj
  [("consumer_visibility_state", .str "COMPLETE"), ("publication_receipt_id", .str m.publicationReceiptId.value),
    ("stored_version_id", .str m.storedVersionId.value), ("written_content_digest", .str m.writtenContentDigest.value)]

/-- The checks of `_read_publication_marker` on the file alone. -/
def markerOf? (content : FileBytes) : Option PublicationMarker := do
  let value ← match content with
    | .text chars => Json.loads chars
    | .undecodable _ => none
  if ¬ hasKeys ["consumer_visibility_state", "publication_receipt_id", "stored_version_id", "written_content_digest"]
      value then none
  let visibility ← textField "consumer_visibility_state" value
  if visibility ≠ "COMPLETE" ∨ (store.canonicalJson value).toOption ≠ some content then none
  let publicationReceiptId ← idField "publication_receipt_id" value
  let storedVersionId ← idField "stored_version_id" value
  let writtenContentDigest ← digestField "written_content_digest" value
  some ⟨publicationReceiptId, storedVersionId, writtenContentDigest⟩

/-- A file-system step of a publication. -/
inductive PublishCall where
  /-- `_retrieval`. -/
  | retrieve (storedVersionId : StoredVersionId)
  /-- The bytes of `publication/current.json`, if it exists. -/
  | readMarker
  /-- `os.replace(stage, publication/current.json)`, to publish the receipt. -/
  | replaceMarker (receipt : PublicationReceipt) (content : FileBytes)

def PublishCall.Reply : PublishCall → Type
  | .retrieve _ => Except StoreError (ExactVersionRetrievalResult × List UInt8)
  | .readMarker => Option FileBytes
  | .replaceMarker _ _ => Unit

/-- Code that takes file-system steps and may raise. -/
abbrev Publishing : Type → Type := ExceptT StoreError (Calls.Program PublishCall PublishCall.Reply)

namespace Publishing

def retrieve (storedVersionId : StoredVersionId) : Publishing (ExactVersionRetrievalResult × List UInt8) :=
  Calls.Program.call (.retrieve storedVersionId) .ret

def readMarker : Publishing (Option FileBytes) := Calls.Program.call .readMarker fun r => .ret (.ok r)

def replaceMarker (receipt : PublicationReceipt) (content : FileBytes) : Publishing Unit :=
  Calls.Program.call (.replaceMarker receipt content) fun r => .ret (.ok r)

/-- Code that takes no step. -/
def lift {α : Type} (x : Except StoreError α) : Publishing α := Calls.Program.ret x

end Publishing

open Publishing in
/-- `_read_publication_marker`. -/
def readPublicationMarker : Publishing (Option PublicationMarker) := do
  match ← readMarker with
  | none => return none
  | some content =>
    let marker ← lift (orRaise (.physical .publicationMarkerInvalid) (store.markerOf? content))
    let (retrieval, _) ← retrieve marker.storedVersionId
    lift (raiseIf (marker.writtenContentDigest ≠ retrieval.writtenContentDigest) (.physical .publicationMarkerInvalid))
    return some marker

/-- `published_version`. -/
def publishedVersion : Publishing (Option StoredVersionId) := do
  return (← store.readPublicationMarker).map (·.storedVersionId)

structure PublishRequest where
  storedVersionId : StoredVersionId
  manifest : DatasetManifest
  expectedPredecessorPublicationRef : Option PublicationReceiptId
  verificationEvidenceRefs : List AttributedRef
  completedAt : Timestamp
  failurePoint : Option FailurePoint

/-- `predecessor` of `publish_exact_version`: the version that is published already
takes the reference that the caller expects. -/
def predecessor (request : PublishRequest) : Option PublicationMarker → Option PublicationReceiptId
  | none => none
  | some marker =>
    if marker.storedVersionId = request.storedVersionId then request.expectedPredecessorPublicationRef
    else some marker.publicationReceiptId

/-- The receipt of a publication, once the content of the version is known. -/
def publicationReceipt (request : PublishRequest) (writtenContentDigest : EvidenceContentDigest) :
    Except StoreError PublicationReceipt :=
  createPublicationReceipt store.py request.manifest request.storedVersionId writtenContentDigest
    request.expectedPredecessorPublicationRef request.expectedPredecessorPublicationRef
    request.verificationEvidenceRefs request.completedAt

open Publishing in
/-- `publish_exact_version` once it has read the version and the marker. -/
def publishFound (request : PublishRequest) (writtenContentDigest : EvidenceContentDigest)
    (marker : Option PublicationMarker) : Publishing PublicationReceipt := do
  lift (raiseIf (predecessor request marker ≠ request.expectedPredecessorPublicationRef)
    (.physical .publicationPredecessorMismatch))
  let receipt ← lift (store.publicationReceipt request writtenContentDigest)
  let published : PublicationMarker := ⟨receipt.receiptId store.py, request.storedVersionId, writtenContentDigest⟩
  let content ← lift (store.canonicalJson published.body)
  lift (store.checkSize content)
  lift (raiseIf (request.failurePoint = some .beforePublicationCommit) (.physical .injectedInterruption))
  replaceMarker receipt content
  lift (raiseIf (request.failurePoint = some .afterPublicationCommit) (.physical .injectedInterruption))
  let committed ← store.readPublicationMarker
  lift (raiseIf (committed ≠ some published) (.physical .publicationMarkerInvalid))
  let version ← store.publishedVersion
  lift (raiseIf (version ≠ some request.storedVersionId) (.physical .publicationMarkerInvalid))
  return receipt

open Publishing in
/-- `publish_exact_version`. -/
def publishExactVersion (request : PublishRequest) : Publishing PublicationReceipt := do
  let (retrieval, _) ← retrieve request.storedVersionId
  let marker ← store.readPublicationMarker
  store.publishFound request retrieval.writtenContentDigest marker

/-! ## The disk under publications -/

/-- A replacement of the marker: the file before it, the receipt that it publishes, and
the file. -/
structure Publication where
  replaced : Option FileBytes
  receipt : PublicationReceipt
  content : FileBytes

/-- The files, and the publications so far, the newest first. Only the files can be read. -/
structure Disk where
  files : Files
  publications : List Publication

def Disk.publish (disk : Disk) (receipt : PublicationReceipt) (content : FileBytes) : Disk where
  files := { disk.files with publication := some content }
  publications := ⟨disk.files.publication, receipt, content⟩ :: disk.publications

/-- A file-system step. -/
def perform (disk : Disk) : (c : PublishCall) → c.Reply × Disk
  | .retrieve storedVersionId => (store.retrieval disk.files storedVersionId, disk)
  | .readMarker => (disk.files.publication, disk)
  | .replaceMarker receipt content => ((), disk.publish receipt content)

/-- Code that nothing else comes between. -/
def Publishing.alone {α : Type} (x : Publishing α) (disk : Disk) : Except StoreError α × Disk :=
  Calls.Program.eval store.perform x disk

/-- What publishers share: the disk, for each publisher the number of publications when it
last read the marker, and the publishers of the publications. -/
structure Shared (T : Type) where
  disk : Disk
  saw : T → Option Nat
  publishers : List T

variable {T : Type} [DecidableEq T]

def Shared.read (s : Shared T) (t : T) : Shared T :=
  { s with saw := Function.update s.saw t (some s.disk.publications.length) }

def Shared.publish (s : Shared T) (t : T) (receipt : PublicationReceipt) (content : FileBytes) : Shared T :=
  { s with disk := s.disk.publish receipt content, publishers := t :: s.publishers }

def Shared.after (s : Shared T) (t : T) : PublishCall → Shared T
  | .retrieve _ => s
  | .readMarker => s.read t
  | .replaceMarker receipt content => s.publish t receipt content

/-- Publishers that take their file-system steps in any order. Other calls change the
files, but not the marker. -/
def publishers : Calls.System T (Shared T) Unit Files PublishCall PublishCall.Reply where
  answer t s c _ := some ((store.perform s.disk c).1, s.after t c)
  other s files :=
    if files.publication = s.disk.files.publication then some { s with disk := { s.disk with files } } else none

/-- A call on a store. -/
inductive StoreCall where
  | persist (request : PersistRequest)
  | publish (request : PublishRequest)

/-- The disk after a call, whether it returned or raised. -/
def afterCall (disk : Disk) : StoreCall → Disk
  | .persist request => { disk with files := (store.persistExactVersion disk.files request).1 }
  | .publish request => (Publishing.alone store (store.publishExactVersion request) disk).2

end LocalPhysicalDatasetStore

end ATB.Datasets
