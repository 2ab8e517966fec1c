import AutomatedTradingBot.Framework.Lineage
import AutomatedTradingBot.Source.Provenance

/-!
# Instrument and listing references

`instruments/model.py` and `instruments/resolution.py`: the attributable versions of
a reference, the lineage check, and the resolution of one version at an effective
instant and a knowledge cut-off. The two classes of version share their fields; what
one of them has of its own is its `record`. A content digest is computed by the
constructor, so it is a function of the other fields. A caught exception is a result
here.
-/

namespace ATB.Instruments

def maxEvidenceRefs : Nat := 64
def maxLineageVersions : Nat := 4096
def maxLineageDepth : Nat := 256

/-- `_require_uuid4`. -/
def requireUuid4 (value : Uuid) : Bool := decide (value.int.val ≠ 0) && value.version == some 4

structure ListingId where
  value : Uuid
  uuid4 : requireUuid4 value = true
deriving DecidableEq

def ListingId.toString (i : ListingId) : String := "atis:listing:v1:" ++ i.value.str

structure ReferenceVersionId where
  value : Uuid
  uuid4 : requireUuid4 value = true
deriving DecidableEq

def ReferenceVersionId.toString (i : ReferenceVersionId) : String := "atis:reference-version:v1:" ++ i.value.str

/-! ## Evidence -/

structure EvidenceKey where
  sourceId : String
  datasetId : String
  evidenceId : String
deriving DecidableEq

structure EvidenceRef where
  sourceId : String
  datasetId : String
  evidenceId : String
  contentDigest : EvidenceContentDigest
deriving DecidableEq

def EvidenceRef.key (e : EvidenceRef) : EvidenceKey := ⟨e.sourceId, e.datasetId, e.evidenceId⟩

/-- `_evidence_mapping`. -/
def EvidenceRef.mapping (e : EvidenceRef) : Json := .obj
  [("source_id", .str e.sourceId), ("dataset_id", .str e.datasetId), ("evidence_id", .str e.evidenceId),
    ("content_digest", .str e.contentDigest.value)]

/-- The keys of a collection of evidence. -/
def keys (refs : List EvidenceRef) : List EvidenceKey := refs.map EvidenceRef.key

/-- Two collections of evidence share a key. -/
def intersects (a b : List EvidenceKey) : Bool := a.any fun k => decide (k ∈ b)

inductive ValidationState where
  | valid
  | invalid
  | notValidated
  | incompatible
  | notEstablished
deriving DecidableEq

def ValidationState.value : ValidationState → String
  | .valid => "VALID"
  | .invalid => "INVALID"
  | .notValidated => "NOT_VALIDATED"
  | .incompatible => "INCOMPATIBLE"
  | .notEstablished => "NOT_ESTABLISHED"

inductive TradabilityState where
  | active
  | halted
  | suspended
  | inactive
  | delisted
deriving DecidableEq

def TradabilityState.value : TradabilityState → String
  | .active => "ACTIVE"
  | .halted => "HALTED"
  | .suspended => "SUSPENDED"
  | .inactive => "INACTIVE"
  | .delisted => "DELISTED"

/-! ## Versions -/

/-- The fields that only one of the two classes of version has. -/
inductive ReferenceRecord where
  | instrument (securityType : Option String)
  | listing (listingId : ListingId) (symbol mic : Option String) (primaryListingIndicator : Option Bool)
      (tradabilityState : TradabilityState) (tradabilityReason : String)
deriving DecidableEq

inductive ReferenceRecordKind where
  | instrument
  | listing
deriving DecidableEq

def ReferenceRecordKind.value : ReferenceRecordKind → String
  | .instrument => "INSTRUMENT_REFERENCE_VERSION"
  | .listing => "LISTING_REFERENCE_VERSION"

def ReferenceRecord.kind : ReferenceRecord → ReferenceRecordKind
  | .instrument _ => .instrument
  | .listing .. => .listing

def ReferenceRecord.listingId? : ReferenceRecord → Option ListingId
  | .instrument _ => none
  | .listing listingId .. => some listingId

/-- `InstrumentReferenceVersion` and `ListingReferenceVersion`, with what
`_validate_common` requires. -/
structure ReferenceVersion where
  referenceVersionId : ReferenceVersionId
  instrumentId : InstrumentId
  effectiveFrom : Timestamp
  effectiveTo : Option Timestamp
  knowledgeFrom : Timestamp
  evidenceRefs : List EvidenceRef
  validationPolicyId : String
  validationState : ValidationState
  supersedesVersionId : Option ReferenceVersionId
  currency : Option String
  externalIdentifiers : List String
  sourceObservedAt : Option Timestamp
  correctionReason : Option String
  record : ReferenceRecord
  positive : ∀ t ∈ effectiveTo, effectiveFrom.value < t.value
  notSelf : supersedesVersionId ≠ some referenceVersionId
deriving DecidableEq

/-- `strftime("%Y-%m-%dT%H:%M:%S.%fZ")`. -/
def timeText (t : Timestamp) : String :=
  let t := t.value
  String.ofList (Text.zfill 4 t.year ++ '-' :: (Text.zfill 2 t.month ++ '-' :: (Text.zfill 2 t.day ++ 'T' ::
    (Text.zfill 2 t.hour ++ ':' :: (Text.zfill 2 t.minute ++ ':' :: (Text.zfill 2 t.second ++ '.' ::
      (Text.zfill 6 t.microsecond ++ ['Z'])))))))

def textOrNull (t : Option String) : Json := t.elim .null .str

namespace ReferenceVersion

def isAuthoritative (v : ReferenceVersion) : Bool := v.validationState = .valid

/-- `contains_effective`. -/
def containsEffective (v : ReferenceVersion) (instant : Timestamp) : Bool :=
  decide (v.effectiveFrom.value ≤ instant.value) && v.effectiveTo.all fun t => decide (instant.value < t.value)

/-- `_semantic_mapping`. -/
def semanticMapping (v : ReferenceVersion) : Json := .obj
  ([("record_kind", .str v.record.kind.value), ("instrument_id", .str v.instrumentId.toString),
    ("effective_from", .str (timeText v.effectiveFrom)), ("effective_to", textOrNull (v.effectiveTo.map timeText)),
    ("knowledge_from", .str (timeText v.knowledgeFrom)),
    ("evidence_refs", .arr (v.evidenceRefs.map EvidenceRef.mapping)),
    ("validation_policy_id", .str v.validationPolicyId), ("validation_state", .str v.validationState.value),
    ("supersedes_version_id", textOrNull (v.supersedesVersionId.map ReferenceVersionId.toString)),
    ("currency", textOrNull v.currency), ("external_identifiers", .arr (v.externalIdentifiers.map .str)),
    ("source_observed_at", textOrNull (v.sourceObservedAt.map timeText)),
    ("correction_reason", textOrNull v.correctionReason)] ++
  match v.record with
  | .instrument securityType => [("security_type", textOrNull securityType)]
  | .listing listingId symbol mic primary state reason =>
    [("listing_id", .str listingId.toString), ("symbol", textOrNull symbol), ("mic", textOrNull mic),
      ("primary_listing_indicator", primary.elim .null .bool), ("tradability_state", .str state.value),
      ("tradability_reason", .str reason)])

/-- `_content_digest`. -/
def contentDigest (py : Platform) (v : ReferenceVersion) : String :=
  "sha256:" ++ py.hexdigest v.semanticMapping.dumps

/-- What a lineage reads of a reference version. -/
def view : LineageView ReferenceVersion ReferenceVersionId :=
  ⟨referenceVersionId, supersedesVersionId, fun v => v.knowledgeFrom.value⟩

/-- `_subject`. -/
def subject (v : ReferenceVersion) : InstrumentId × Option ListingId := (v.instrumentId, v.record.listingId?)

end ReferenceVersion

/-- `LineageValidationError`, by its message. -/
def lineageMessage : LineageFault → String
  | .duplicate => "DUPLICATE_REFERENCE_VERSION_ID"
  | .missingPredecessor => "MISSING_PREDECESSOR"
  | .branchingSuccessor => "BRANCHING_SUCCESSOR_CONFLICT"
  | .cycle => "LINEAGE_CYCLE"
  | .tooDeep => "LINEAGE_RESOURCE_LIMIT_EXCEEDED"
  | .knowledgeNotGreater => "SUCCESSOR_KNOWLEDGE_NOT_GREATER"

/-- `validate_lineage`, without the sorted tuple that it returns. -/
def validateLineage (values : List ReferenceVersion) : Except String Unit := do
  let first ← orRaise "lineage must not be empty" values.head?
  raiseIf (maxLineageVersions < values.length) "LINEAGE_RESOURCE_LIMIT_EXCEEDED"
  let byId ← (Lineage.index ReferenceVersion.view values).mapError lineageMessage
  raiseIf (∃ v ∈ values, v.record.kind ≠ first.record.kind) "CROSS_KIND_EDGE"
  raiseIf (∃ v ∈ values, v.subject ≠ first.subject) "CROSS_SUBJECT_EDGE"
  (Lineage.checkEdges ReferenceVersion.view byId maxLineageDepth values).mapError lineageMessage

/-- `validate_lineage`, with the sorted tuple that it returns. -/
def validatedLineage (values : List ReferenceVersion) : Except String (List ReferenceVersion) := do
  validateLineage values
  return values.insertionSort fun a b => a.referenceVersionId.toString ≤ b.referenceVersionId.toString

/-! ## Resolution -/

inductive ResolutionDisposition where
  | established
  | absent
  | ambiguous
  | conflicting
  | notEstablished
deriving DecidableEq

/-- The subject and the times that are asked for. -/
structure ReferenceQuery where
  recordKind : ReferenceRecordKind
  instrumentId : InstrumentId
  listingId : Option ListingId
  effectiveAsOf : Timestamp
  knowledgeCutoff : Timestamp
deriving DecidableEq

structure CandidateSetCoverage where
  query : ReferenceQuery
  candidateVersionIds : List ReferenceVersionId
  evidenceRefs : List EvidenceRef
  validationPolicyId : String
  validationState : ValidationState
deriving DecidableEq

/-- `sorted(ids, key=ReferenceVersionId.to_string)`. -/
def sortedIds (ids : List ReferenceVersionId) : List ReferenceVersionId :=
  ids.insertionSort fun a b => a.toString ≤ b.toString

namespace CandidateSetCoverage

def isAuthoritative (c : CandidateSetCoverage) : Bool := c.validationState = .valid

def semantic (c : CandidateSetCoverage) : Json := .obj
  [("record_kind", .str c.query.recordKind.value), ("instrument_id", .str c.query.instrumentId.toString),
    ("listing_id", textOrNull (c.query.listingId.map ListingId.toString)),
    ("effective_as_of", .str (timeText c.query.effectiveAsOf)),
    ("knowledge_cutoff", .str (timeText c.query.knowledgeCutoff)),
    ("candidate_version_ids", .arr (c.candidateVersionIds.map fun i => .str i.toString)),
    ("evidence_refs", .arr (c.evidenceRefs.map EvidenceRef.mapping)),
    ("validation_policy_id", .str c.validationPolicyId), ("validation_state", .str c.validationState.value)]

def contentDigest (py : Platform) (c : CandidateSetCoverage) : String := "sha256:" ++ py.hexdigest c.semantic.dumps

/-- The coverage that lists the members of a tuple of candidates. -/
def listing (c : CandidateSetCoverage) (candidates : List ReferenceVersion) : CandidateSetCoverage :=
  { c with candidateVersionIds := sortedIds (candidates.map ReferenceVersion.referenceVersionId) }

end CandidateSetCoverage

structure NegativeCoverageEvidence where
  query : ReferenceQuery
  candidateSetDigest : String
  evidenceRefs : List EvidenceRef
  validationPolicyId : String
  validationState : ValidationState
deriving DecidableEq

def NegativeCoverageEvidence.isAuthoritative (n : NegativeCoverageEvidence) : Bool := n.validationState = .valid

/-- `ResolutionResult`. -/
structure ResolutionResult where
  disposition : ResolutionDisposition
  value : Option ReferenceVersion
  reason : String
deriving DecidableEq

/-- `_result`. -/
def result (disposition : ResolutionDisposition) (reason : String) : ResolutionResult := ⟨disposition, none, reason⟩

/-- `_negative_matches`. -/
def negativeMatches (py : Platform) (negative : Option NegativeCoverageEvidence) (coverage : CandidateSetCoverage)
    (query : ReferenceQuery) (candidateEvidence : List EvidenceKey) : Bool :=
  negative.any fun n => n.isAuthoritative && decide (n.query = query) &&
    decide (n.candidateSetDigest = coverage.contentDigest py) && !intersects (keys n.evidenceRefs) candidateEvidence

/-- `{item.key for value in candidates for item in value.evidence_refs}`. -/
def candidateEvidence (candidates : List ReferenceVersion) : List EvidenceKey :=
  candidates.flatMap fun v => keys v.evidenceRefs

/-- The versions that are effective at the instant and known at the cut-off. -/
def qualifying (query : ReferenceQuery) (candidates : List ReferenceVersion) : List ReferenceVersion :=
  candidates.filter fun v =>
    v.containsEffective query.effectiveAsOf && decide (v.knowledgeFrom.value ≤ query.knowledgeCutoff.value)

/-- The versions that no other of them supersedes. -/
def unresolved (versions : List ReferenceVersion) : List ReferenceVersion :=
  let superseded := versions.filterMap ReferenceVersion.supersedesVersionId
  versions.filter fun v => decide (v.referenceVersionId ∉ superseded)

/-- The checks that come before the lineage: of the candidates, and of their coverage. -/
def checkCandidates (query : ReferenceQuery) (candidates : List ReferenceVersion)
    (coverage : Option CandidateSetCoverage) : Except ResolutionResult CandidateSetCoverage := do
  raiseIf (maxLineageVersions < candidates.length) (result .notEstablished "CANDIDATE_RESOURCE_LIMIT_EXCEEDED")
  raiseIf (∃ v ∈ candidates, v.record.kind ≠ query.recordKind) (result .conflicting "WRONG_RECORD_KIND")
  raiseIf (∃ v ∈ candidates, v.instrumentId ≠ query.instrumentId) (result .conflicting "WRONG_INSTRUMENT_SUBJECT")
  raiseIf (query.recordKind = .listing ∧ ∃ v ∈ candidates, v.record.listingId? ≠ query.listingId)
    (result .conflicting "WRONG_LISTING_SUBJECT")
  raiseIf (¬ (candidates.map ReferenceVersion.referenceVersionId).Nodup)
    (result .conflicting "DUPLICATE_REFERENCE_VERSION_ID")
  let coverage ← orRaise (result .notEstablished "CANDIDATE_SET_COVERAGE_MISSING") coverage
  raiseIf (coverage.query ≠ query) (result .notEstablished "CANDIDATE_SET_COVERAGE_MISMATCH")
  raiseIf (coverage.isAuthoritative = false) (result .notEstablished "CANDIDATE_SET_COVERAGE_NOT_AUTHORITATIVE")
  raiseIf (sortedIds (candidates.map ReferenceVersion.referenceVersionId) ≠ coverage.candidateVersionIds)
    (result .notEstablished "CANDIDATE_SET_INCOMPLETE")
  raiseIf (intersects (candidateEvidence candidates) (keys coverage.evidenceRefs) = true)
    (result .notEstablished "CANDIDATE_SELF_CERTIFIED_COVERAGE")
  return coverage

/-- The choice among the versions that qualify. -/
def select (py : Platform) (versions : List ReferenceVersion) : ResolutionResult :=
  if ∃ v ∈ versions, v.isAuthoritative = false then
    result .notEstablished "QUALIFYING_VERSION_NOT_AUTHORITATIVE"
  else
    match unresolved versions with
    | [v] => ⟨.established, some v, "UNIQUE_AUTHORITATIVE_VERSION"⟩
    | rest =>
      if 1 < (rest.map (ReferenceVersion.contentDigest py)).dedup.length then
        result .conflicting "MATERIAL_QUALIFYING_CONFLICT"
      else result .ambiguous "MULTIPLE_PLAUSIBLE_VERSIONS"

/-- The part of `_resolve` after the checks of the candidates and their coverage. -/
def adjudicate (py : Platform) (query : ReferenceQuery) (candidates : List ReferenceVersion)
    (coverage : CandidateSetCoverage) (negative : Option NegativeCoverageEvidence) : ResolutionResult :=
  if candidates ≠ [] ∧ (validateLineage candidates).toOption = none then
    result .conflicting "INVALID_OR_CONFLICTING_LINEAGE"
  else
    let versions := qualifying query candidates
    if versions = [] then
      if negativeMatches py negative coverage query (candidateEvidence candidates) = true then
        result .absent "AUTHORITATIVE_NEGATIVE_COVERAGE"
      else result .notEstablished "NO_APPLICABLE_VERSION"
    else select py versions

/-- `_resolve`. -/
def resolve (py : Platform) (query : ReferenceQuery) (candidates : List ReferenceVersion)
    (coverage : Option CandidateSetCoverage) (negative : Option NegativeCoverageEvidence) : ResolutionResult :=
  match checkCandidates query candidates coverage with
  | .error r => r
  | .ok coverage => adjudicate py query candidates coverage negative

/-- `resolve_instrument_reference`. -/
def resolveInstrumentReference (py : Platform) (instrumentId : InstrumentId)
    (effectiveAsOf knowledgeCutoff : Timestamp) (candidates : List ReferenceVersion)
    (coverage : Option CandidateSetCoverage) (negative : Option NegativeCoverageEvidence) : ResolutionResult :=
  resolve py ⟨.instrument, instrumentId, none, effectiveAsOf, knowledgeCutoff⟩ candidates coverage negative

/-- `resolve_listing_reference`. -/
def resolveListingReference (py : Platform) (instrumentId : InstrumentId) (listingId : ListingId)
    (effectiveAsOf knowledgeCutoff : Timestamp) (candidates : List ReferenceVersion)
    (coverage : Option CandidateSetCoverage) (negative : Option NegativeCoverageEvidence) : ResolutionResult :=
  resolve py ⟨.listing, instrumentId, some listingId, effectiveAsOf, knowledgeCutoff⟩ candidates coverage negative

end ATB.Instruments
