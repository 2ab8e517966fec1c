import AutomatedTradingBot.Source.Calendars
import AutomatedTradingBot.Source.Datasets.Foundation

/-!
# The resolution of a calendar session

`calendars/resolution.py`. The resolver reads a tuple of candidates for one query
and returns at the first reason not to establish a session: an early `return` is a
`Stop` of the computation, and so is an exception that nothing catches. The parts of
`resolve_calendar_session` are functions of their own, in its order.
-/

namespace ATB.Calendars

open ATB.Instruments

inductive CalendarCorrectionAuthorityDecision where
  | authorized
  | notAuthorized
deriving DecidableEq

inductive CalendarSessionResolutionReason where
  | uniqueAuthoritativeSession
  | authoritativeNonTradingDay
  | authoritativeNegativeCoverage
  | unsupportedSessionKind
  | resourceLimitExceeded
  | effectiveBoundaryMismatch
  | candidateSetCoverageMissing
  | candidateSetCoverageMismatch
  | candidateSetCoverageFuture
  | candidateSetCoverageNotAuthoritative
  | candidateSetIncomplete
  | candidateSetSurplus
  | candidateSelfCertifiedCoverage
  | wrongCalendarSubject
  | invalidOrConflictingLineage
  | noApplicableVersion
  | coverageNotEstablished
  | coverageConflict
  | correctionAuthorityMissing
  | correctionAuthorityNotEstablished
  | correctionAuthoritySelfCertified
  | correctionAuthorityConflict
  | multiplePlausibleVersions
  | materialQualifyingConflict
  | currentnessAssessmentMissing
  | currentnessAssessmentNotAuthoritative
  | currentnessAssessmentFuture
  | currentnessAssessmentOutsideValidity
  | calendarVersionStale
  | calendarCurrentnessUnknown
  | currentnessAssessmentConflict
  | tradingDayNotEstablished
  | tradingDayConflict
  | sessionNotEstablished
  | sessionConflict
  | positiveNegativeSessionConflict
  | timezoneRuleNotEstablished
  | timezoneRuleCorpusDigestMismatch
  | localTimeNotEstablished
  | utcBoundaryConflict
deriving DecidableEq

structure CalendarSessionResolutionQuery where
  calendarId : CalendarId
  localDate : LocalDate
  sessionKind : SessionKind
  effectiveAsOf : Timestamp
  knowledgeCutoff : Timestamp
  evaluationAt : Timestamp
  notAfter : knowledgeCutoff.value ≤ evaluationAt.value
deriving DecidableEq

structure CalendarCorrectionAuthorityAssessment where
  calendarId : CalendarId
  successorVersionId : CalendarVersionId
  predecessorVersionId : CalendarVersionId
  knowledgeFrom : Timestamp
  evaluatedAt : Timestamp
  authorityPolicyId : String
  decision : CalendarCorrectionAuthorityDecision
  evidenceRefs : List EvidenceRef
  validationState : ValidationState
  notSelf : successorVersionId ≠ predecessorVersionId
deriving DecidableEq

structure CalendarCurrentnessAssessment where
  calendarId : CalendarId
  calendarVersionId : CalendarVersionId
  knowledgeFrom : Timestamp
  evaluationAt : Timestamp
  validFrom : Timestamp
  validTo : Option Timestamp
  state : CalendarCurrentness
  validationPolicyId : String
  evidenceRefs : List EvidenceRef
  validationState : ValidationState
  positive : ¬ ∃ t, validTo = some t ∧ t.value ≤ validFrom.value
deriving DecidableEq

/-- `applies`. -/
def CalendarCurrentnessAssessment.applies (a : CalendarCurrentnessAssessment) (query : CalendarSessionResolutionQuery) : Bool :=
  decide (a.knowledgeFrom.value ≤ query.knowledgeCutoff.value) &&
    decide (a.validFrom.value ≤ query.evaluationAt.value) &&
    a.validTo.all fun t => decide (query.evaluationAt.value < t.value)

def CalendarCorrectionAuthorityDecision.value : CalendarCorrectionAuthorityDecision → String
  | .authorized => "AUTHORIZED"
  | .notAuthorized => "NOT_AUTHORIZED"

def CalendarCurrentness.value : CalendarCurrentness → String
  | .current => "CURRENT"
  | .stale => "STALE"
  | .unknown => "UNKNOWN"

def CalendarCorrectionAuthorityAssessment.contentDigest (py : Platform) (a : CalendarCorrectionAuthorityAssessment) :
    String :=
  digest py (.obj
    [("record_kind", .str "CALENDAR_CORRECTION_AUTHORITY_ASSESSMENT"), ("calendar_id", .str a.calendarId.toString),
      ("successor_version_id", .str a.successorVersionId.toString),
      ("predecessor_version_id", .str a.predecessorVersionId.toString),
      ("knowledge_from", .str (timeText a.knowledgeFrom)), ("evaluated_at", .str (timeText a.evaluatedAt)),
      ("authority_policy_id", .str a.authorityPolicyId), ("decision", .str a.decision.value),
      ("evidence_refs", evidenceJson a.evidenceRefs), ("validation_state", .str a.validationState.value)])

def CalendarCurrentnessAssessment.contentDigest (py : Platform) (a : CalendarCurrentnessAssessment) : String :=
  digest py (.obj
    [("record_kind", .str "CALENDAR_CURRENTNESS_ASSESSMENT"), ("calendar_id", .str a.calendarId.toString),
      ("calendar_version_id", .str a.calendarVersionId.toString), ("knowledge_from", .str (timeText a.knowledgeFrom)),
      ("evaluation_at", .str (timeText a.evaluationAt)), ("valid_from", .str (timeText a.validFrom)),
      ("valid_to", timeOrNull a.validTo), ("state", .str a.state.value),
      ("validation_policy_id", .str a.validationPolicyId), ("evidence_refs", evidenceJson a.evidenceRefs),
      ("validation_state", .str a.validationState.value)])

structure CalendarFactDescriptor where
  factKind : String
  calendarVersionId : CalendarVersionId
  dateOrRangeIdentity : String
  sessionKind : Option SessionKind
  factContentDigest : String
deriving DecidableEq

namespace CalendarFactDescriptor

/-- `from_fact`. -/
def fromFact (py : Platform) (fact : CalendarFact) : CalendarFactDescriptor :=
  match fact with
  | .coverage f => ⟨"HISTORICAL_COVERAGE", f.calendarVersionId,
    f.localDateFrom.isoformat ++ "/" ++ f.localDateTo.isoformat, none, fact.contentDigest py⟩
  | .day f => ⟨"TRADING_DAY", f.calendarVersionId, f.localDate.isoformat, none, fact.contentDigest py⟩
  | .session f => ⟨"SESSION", f.calendarVersionId, f.localDate.isoformat, some f.sessionKind, fact.contentDigest py⟩

def semanticMapping (d : CalendarFactDescriptor) : Json := .obj
  [("fact_kind", .str d.factKind), ("calendar_version_id", .str d.calendarVersionId.toString),
    ("date_or_range_identity", .str d.dateOrRangeIdentity),
    ("session_kind", textOrNull (d.sessionKind.map SessionKind.value)),
    ("fact_content_digest", .str d.factContentDigest)]

/-- `_canonical_bytes(item.semantic_mapping())`. -/
def canonical (d : CalendarFactDescriptor) : List Char := d.semanticMapping.dumps

end CalendarFactDescriptor

structure CalendarCandidateSetCoverage where
  calendarId : CalendarId
  localDate : LocalDate
  sessionKind : SessionKind
  effectiveAsOf : Timestamp
  knowledgeCutoff : Timestamp
  evaluationAt : Timestamp
  knowledgeFrom : Timestamp
  candidateVersionIds : List CalendarVersionId
  candidateFactDescriptors : List CalendarFactDescriptor
  evidenceRefs : List EvidenceRef
  validationPolicyId : String
  validationState : ValidationState
deriving DecidableEq

def CalendarCandidateSetCoverage.contentDigest (py : Platform) (c : CalendarCandidateSetCoverage) : String :=
  digest py (.obj
    [("record_kind", .str "CALENDAR_CANDIDATE_SET_COVERAGE"), ("calendar_id", .str c.calendarId.toString),
      ("local_date", .str c.localDate.isoformat), ("session_kind", .str c.sessionKind.value),
      ("effective_as_of", .str (timeText c.effectiveAsOf)), ("knowledge_cutoff", .str (timeText c.knowledgeCutoff)),
      ("evaluation_at", .str (timeText c.evaluationAt)), ("knowledge_from", .str (timeText c.knowledgeFrom)),
      ("candidate_version_ids", .arr (c.candidateVersionIds.map fun i => .str i.toString)),
      ("candidate_fact_descriptors", .arr (c.candidateFactDescriptors.map CalendarFactDescriptor.semanticMapping)),
      ("evidence_refs", evidenceJson c.evidenceRefs), ("validation_policy_id", .str c.validationPolicyId),
      ("validation_state", .str c.validationState.value)])

structure CalendarNegativeCoverageEvidence where
  calendarId : CalendarId
  localDate : LocalDate
  sessionKind : SessionKind
  effectiveAsOf : Timestamp
  knowledgeCutoff : Timestamp
  evaluationAt : Timestamp
  candidateSetDigest : String
  knowledgeFrom : Timestamp
  evidenceRefs : List EvidenceRef
  validationPolicyId : String
  validationState : ValidationState
deriving DecidableEq

structure TimezoneRuleCorpusInput where
  timezoneRuleId : String
  corpus : List UInt8
deriving DecidableEq

structure CalendarSessionResolutionCandidates where
  calendarVersions : List CalendarVersion
  historicalCoverages : List HistoricalCoverage
  tradingDayDefinitions : List TradingDayDefinition
  sessionDefinitions : List SessionDefinition
  timezoneRuleCorpora : List TimezoneRuleCorpusInput
  candidateSetCoverage : Option CalendarCandidateSetCoverage
  negativeCoverage : Option CalendarNegativeCoverageEvidence
  currentnessAssessments : List CalendarCurrentnessAssessment
  correctionAuthorityAssessments : List CalendarCorrectionAuthorityAssessment
deriving DecidableEq

/-- `CalendarSessionResolutionResult`, without the fields of the query. -/
structure CalendarSessionResolutionResult where
  disposition : ResolutionDisposition
  selectedCalendarVersionId : Option CalendarVersionId
  tradingDay : Option TradingDayDefinition
  session : Option SessionDefinition
  utcOpen : Option Timestamp
  utcClose : Option Timestamp
  timezoneRuleId : Option String
  timezoneRuleContentDigest : Option EvidenceContentDigest
  currentnessAssessmentDigest : Option String
  correctionAuthorityAssessmentDigests : List String
  evidenceRefs : List EvidenceRef
  reasonCode : CalendarSessionResolutionReason
deriving DecidableEq

/-- How the computation ends before its last line. -/
inductive Stop where
  | returned (result : CalendarSessionResolutionResult)
  | raised (error : PyError)
deriving DecidableEq

/-- `_empty_result`. -/
def emptyResult (disposition : ResolutionDisposition) (reason : CalendarSessionResolutionReason)
    (evidence : List EvidenceRef) : CalendarSessionResolutionResult :=
  ⟨disposition, none, none, none, none, none, none, none, none, [], evidence, reason⟩

/-- `return _empty_result(query, disposition, reason)`. -/
def stop (disposition : ResolutionDisposition) (reason : CalendarSessionResolutionReason) : Stop :=
  .returned (emptyResult disposition reason [])

/-- `_minimal_evidence`: `none` where it raises. -/
def minimalEvidence (refs : List EvidenceRef) : Option (List EvidenceRef) :=
  let byKey := refs.foldl (fun d e =>
    if ∃ x ∈ Dict.get? e.key d, x.contentDigest ≠ e.contentDigest then d else Dict.set e.key e d) []
  let ordered := (Dict.values byKey).insertionSort fun a b => a.mapping.dumps ≤ b.mapping.dumps
  if maxEvidenceRefs < ordered.length then none else some ordered

/-! ## What is visible at the cut-off -/

/-- The versions that are known at the cut-off, and their facts. -/
structure Visible where
  versions : List CalendarVersion
  coverages : List HistoricalCoverage
  days : List TradingDayDefinition
  sessions : List SessionDefinition
deriving DecidableEq

def visibleVersions (query : CalendarSessionResolutionQuery) (versions : List CalendarVersion) : List CalendarVersion :=
  versions.filter fun v => decide (v.knowledgeFrom.value ≤ query.knowledgeCutoff.value)

def visibleIds (query : CalendarSessionResolutionQuery) (versions : List CalendarVersion) : List CalendarVersionId :=
  (visibleVersions query versions).map CalendarVersion.calendarVersionId

def visible (query : CalendarSessionResolutionQuery) (candidates : CalendarSessionResolutionCandidates) : Visible :=
  let ids := visibleIds query candidates.calendarVersions
  { versions := visibleVersions query candidates.calendarVersions
    coverages := candidates.historicalCoverages.filter fun f => decide (f.calendarVersionId ∈ ids)
    days := candidates.tradingDayDefinitions.filter fun f => decide (f.calendarVersionId ∈ ids)
    sessions := candidates.sessionDefinitions.filter fun f => decide (f.calendarVersionId ∈ ids) }

namespace Visible

def facts (seen : Visible) : List CalendarFact :=
  seen.coverages.map .coverage ++ seen.days.map .day ++ seen.sessions.map .session

/-- The facts bound to a version. -/
def factsOf (seen : Visible) (id : CalendarVersionId) : List CalendarFact :=
  seen.facts.filter fun f => decide (f.calendarVersionId = id)

/-- `candidate_evidence`. -/
def evidence (seen : Visible) : List EvidenceKey :=
  (seen.versions.flatMap fun v => keys v.evidenceRefs) ++ seen.facts.flatMap fun f => keys f.evidenceRefs

end Visible

/-! ## The coverage and the lineage of the candidates -/

/-- `_query_matches` of a candidate set coverage. -/
def CalendarCandidateSetCoverage.queryMatches (c : CalendarCandidateSetCoverage) (query : CalendarSessionResolutionQuery) :
    Bool :=
  decide ((c.calendarId, c.localDate, c.sessionKind, c.effectiveAsOf, c.knowledgeCutoff, c.evaluationAt) =
    (query.calendarId, query.localDate, query.sessionKind, query.effectiveAsOf, query.knowledgeCutoff,
      query.evaluationAt))

/-- `_query_matches` of negative coverage. -/
def CalendarNegativeCoverageEvidence.queryMatches (n : CalendarNegativeCoverageEvidence)
    (query : CalendarSessionResolutionQuery) : Bool :=
  decide ((n.calendarId, n.localDate, n.sessionKind, n.effectiveAsOf, n.knowledgeCutoff, n.evaluationAt) =
    (query.calendarId, query.localDate, query.sessionKind, query.effectiveAsOf, query.knowledgeCutoff,
      query.evaluationAt))

def incompleteOrSurplus (surplus : Bool) : Stop :=
  stop .notEstablished (if surplus then .candidateSetSurplus else .candidateSetIncomplete)

/-- The coverage is authoritative for the query, and lists what is visible. -/
def checkManifest (py : Platform) (query : CalendarSessionResolutionQuery)
    (coverage : Option CalendarCandidateSetCoverage) (seen : Visible) : Except Stop CalendarCandidateSetCoverage := do
  let coverage ← orRaise (stop .notEstablished .candidateSetCoverageMissing) coverage
  raiseIf (coverage.queryMatches query = false) (stop .notEstablished .candidateSetCoverageMismatch)
  raiseIf (query.knowledgeCutoff.value < coverage.knowledgeFrom.value) (stop .notEstablished .candidateSetCoverageFuture)
  raiseIf (coverage.validationState ≠ .valid) (stop .notEstablished .candidateSetCoverageNotAuthoritative)
  let expectedIds := (seen.versions.map CalendarVersion.calendarVersionId).dedup.insertionSort
    fun a b => a.toString ≤ b.toString
  let expectedDescriptors := (seen.facts.map (CalendarFactDescriptor.fromFact py)).insertionSort
    fun a b => a.canonical ≤ b.canonical
  raiseIf (coverage.candidateVersionIds ≠ expectedIds)
    (incompleteOrSurplus (coverage.candidateVersionIds.any fun i => decide (i ∉ expectedIds)))
  raiseIf (coverage.candidateFactDescriptors ≠ expectedDescriptors)
    (incompleteOrSurplus (coverage.candidateFactDescriptors.any fun d =>
      decide (d.canonical ∉ expectedDescriptors.map CalendarFactDescriptor.canonical)))
  raiseIf (intersects (keys coverage.evidenceRefs) seen.evidence = true)
    (stop .notEstablished .candidateSelfCertifiedCoverage)
  return coverage

/-- One version of the ordered lineage with its facts, and their digests. -/
def validateVersion (py : Platform) (seen : Visible) (version : CalendarVersion) : Except String Unit := do
  let facts := seen.factsOf version.calendarVersionId
  validateFactBindings py version facts
  verifyCalendarContentDigest py version.semantics (version.contentDigest py)
  facts.forM fun fact => verifyCalendarContentDigest py fact.semantics (fact.contentDigest py)

/-- The visible versions are of the calendar, a lineage, and consistent with their facts. -/
def checkLineage (py : Platform) (query : CalendarSessionResolutionQuery) (seen : Visible) : Except Stop Unit := do
  raiseIf ((∃ v ∈ seen.versions, v.calendarId ≠ query.calendarId) ∨ ∃ f ∈ seen.facts, f.calendarId ≠ query.calendarId)
    (stop .conflicting .wrongCalendarSubject)
  let validated : Except String Unit := do
    let ordered ← validateCalendarLineage seen.versions
    ordered.forM (validateVersion py seen)
  raiseIf (seen.versions ≠ [] ∧ validated.toOption = none) (stop .conflicting .invalidOrConflictingLineage)

/-! ## Negative coverage -/

/-- `_valid_negative`. -/
def validNegative (py : Platform) (query : CalendarSessionResolutionQuery)
    (negative : Option CalendarNegativeCoverageEvidence) (coverage : CalendarCandidateSetCoverage)
    (candidateEvidence : List EvidenceKey) : Option CalendarNegativeCoverageEvidence :=
  negative.filter fun n => n.queryMatches query && decide (n.knowledgeFrom.value ≤ query.knowledgeCutoff.value) &&
    decide (n.validationState = .valid) && decide (n.candidateSetDigest = coverage.contentDigest py) &&
    !intersects (keys n.evidenceRefs) candidateEvidence

/-- `_negative_or_missing`. -/
def negativeOrMissing (py : Platform) (query : CalendarSessionResolutionQuery)
    (negative : Option CalendarNegativeCoverageEvidence) (coverage : CalendarCandidateSetCoverage)
    (candidateEvidence : List EvidenceKey) : Stop :=
  match validNegative py query negative coverage candidateEvidence with
  | some n => .returned (emptyResult .absent .authoritativeNegativeCoverage n.evidenceRefs)
  | none => stop .notEstablished .noApplicableVersion

/-! ## The version -/

/-- The assessments of one correction that are known at the cut-off. -/
def authorityFor (query : CalendarSessionResolutionQuery) (assessments : List CalendarCorrectionAuthorityAssessment)
    (successor predecessor : CalendarVersionId) : List CalendarCorrectionAuthorityAssessment :=
  assessments.filter fun a => decide (a.calendarId = query.calendarId) && decide (a.successorVersionId = successor) &&
    decide (a.predecessorVersionId = predecessor) && decide (a.knowledgeFrom.value ≤ query.knowledgeCutoff.value) &&
    decide (a.evaluatedAt.value ≤ query.evaluationAt.value)

/-- Evidence that may not certify the correction of `predecessor` by `version`. -/
def excludedEvidence (seen : Visible) (version : CalendarVersion) (predecessor : CalendarVersionId) : List EvidenceKey :=
  keys (version.evidenceRefs ++ version.correctionEvidenceRefs) ++
    ((seen.versions.find? fun v => v.calendarVersionId = predecessor).elim []
      fun v => keys (v.evidenceRefs ++ v.correctionEvidenceRefs)) ++
    (seen.factsOf version.calendarVersionId).flatMap fun f => keys f.evidenceRefs

/-- One iteration over the effective versions: the admissible ones so far, and the
assessments that were used for them. -/
def admitVersion (query : CalendarSessionResolutionQuery) (assessments : List CalendarCorrectionAuthorityAssessment)
    (seen : Visible) (so : List CalendarVersion × List CalendarCorrectionAuthorityAssessment) (version : CalendarVersion) :
    Except Stop (List CalendarVersion × List CalendarCorrectionAuthorityAssessment) :=
  match version.supersedesVersionId with
  | none => .ok (so.1 ++ [version], so.2)
  | some predecessor => do
    let known := authorityFor query assessments version.calendarVersionId predecessor
    raiseIf (known = []) (stop .notEstablished .correctionAuthorityMissing)
    let valid := known.filter fun a => decide (a.validationState = .valid)
    raiseIf (valid = []) (stop .notEstablished .correctionAuthorityNotEstablished)
    raiseIf (∃ a ∈ valid, ∀ k ∈ keys a.evidenceRefs, k ∈ excludedEvidence seen version predecessor)
      (stop .notEstablished .correctionAuthoritySelfCertified)
    let decisions := (valid.map CalendarCorrectionAuthorityAssessment.decision).dedup
    raiseIf (decisions.length ≠ 1) (stop .conflicting .correctionAuthorityConflict)
    if decisions.head? = some .authorized then return (so.1 ++ [version], so.2 ++ valid) else return so

/-- The admissible versions that no other of them supersedes. -/
def tips (versions : List CalendarVersion) : List CalendarVersion :=
  let superseded := versions.filterMap CalendarVersion.supersedesVersionId
  versions.filter fun v => decide (v.calendarVersionId ∉ superseded)

/-- The visible versions that are effective at the queried instant. -/
def effective (query : CalendarSessionResolutionQuery) (seen : Visible) : List CalendarVersion :=
  seen.versions.filter fun v => v.containsEffective query.effectiveAsOf

/-- The selected version, and the assessments of the corrections that led to it. -/
def selectVersion (env : Environment) (query : CalendarSessionResolutionQuery)
    (candidates : CalendarSessionResolutionCandidates) (coverage : CalendarCandidateSetCoverage) (seen : Visible) :
    Except Stop (CalendarVersion × List CalendarCorrectionAuthorityAssessment) := do
  raiseIf (seen.versions ≠ [] ∧ effective query seen = []) (stop .notEstablished .effectiveBoundaryMismatch)
  raiseIf (effective query seen = [])
    (negativeOrMissing env.py query candidates.negativeCoverage coverage seen.evidence)
  raiseIf (∃ v ∈ effective query seen, v.isAuthoritative = false) (stop .notEstablished .noApplicableVersion)
  let (admissible, used) ←
    (effective query seen).foldlM (admitVersion query candidates.correctionAuthorityAssessments seen) ([], [])
  match tips admissible with
  | [selected] => return (selected, used)
  | rest =>
    if 1 < (rest.map (CalendarVersion.contentDigest env.py)).dedup.length then
      throw (stop .conflicting .materialQualifyingConflict)
    else throw (stop .ambiguous .multiplePlausibleVersions)

/-! ## Currentness, coverage, day and session -/

/-- The assessments of a version of the calendar. -/
def currentnessOf (query : CalendarSessionResolutionQuery) (assessments : List CalendarCurrentnessAssessment)
    (selected : CalendarVersion) : List CalendarCurrentnessAssessment :=
  assessments.filter fun a =>
    decide (a.calendarId = query.calendarId) && decide (a.calendarVersionId = selected.calendarVersionId)

/-- The assessment by which the selected version is current. -/
def selectCurrentness (query : CalendarSessionResolutionQuery) (assessments : List CalendarCurrentnessAssessment)
    (selected : CalendarVersion) : Except Stop CalendarCurrentnessAssessment := do
  let bound := currentnessOf query assessments selected
  let applicable := bound.filter fun a => decide (a.knowledgeFrom.value ≤ query.knowledgeCutoff.value)
  raiseIf (applicable = []) (stop .notEstablished
    (if ∃ a ∈ bound, query.knowledgeCutoff.value < a.knowledgeFrom.value then .currentnessAssessmentFuture
      else .currentnessAssessmentMissing))
  let validTime := applicable.filter fun a => a.applies query
  raiseIf (validTime = []) (stop .notEstablished .currentnessAssessmentOutsideValidity)
  let authoritative := validTime.filter fun a => decide (a.validationState = .valid)
  let currentness ← orRaise (stop .notEstablished .currentnessAssessmentNotAuthoritative) authoritative.head?
  raiseIf ((authoritative.map CalendarCurrentnessAssessment.state).dedup.length ≠ 1)
    (stop .conflicting .currentnessAssessmentConflict)
  raiseIf (currentness.state = .stale) (stop .notEstablished .calendarVersionStale)
  raiseIf (currentness.state = .unknown) (stop .notEstablished .calendarCurrentnessUnknown)
  return currentness

/-- The coverage of the local date by the selected version. -/
def selectCoverage (query : CalendarSessionResolutionQuery) (seen : Visible) (selected : CalendarVersion) :
    Except Stop HistoricalCoverage := do
  let coverages := seen.coverages.filter fun c =>
    decide (c.calendarVersionId = selected.calendarVersionId) && c.contains query.localDate
  raiseIf (1 < coverages.length) (stop .conflicting .coverageConflict)
  let historical ← orRaise (stop .notEstablished .coverageNotEstablished) coverages.head?
  raiseIf (∃ t ∈ historical.coverageKnowledgeFrom, query.knowledgeCutoff.value < t.value)
    (stop .notEstablished .coverageNotEstablished)
  let related := (seen.days.map CalendarFact.day ++ seen.sessions.map CalendarFact.session).filter fun f =>
    decide (f.calendarVersionId = selected.calendarVersionId)
  let state := coverageDisposition historical query.localDate related
  raiseIf (state = .conflicting) (stop .conflicting .coverageConflict)
  raiseIf (state ≠ .established) (stop .notEstablished .coverageNotEstablished)
  return historical

/-- The trading day of the local date, by the selected version. -/
def selectDay (py : Platform) (query : CalendarSessionResolutionQuery)
    (negative : Option CalendarNegativeCoverageEvidence) (coverage : CalendarCandidateSetCoverage) (seen : Visible)
    (selected : CalendarVersion) : Except Stop TradingDayDefinition := do
  let days := seen.days.filter fun d =>
    decide (d.calendarVersionId = selected.calendarVersionId) && decide (d.localDate = query.localDate)
  let day ← orRaise (negativeOrMissing py query negative coverage seen.evidence) days.head?
  raiseIf ((days.map fun d => digest py d.semantics).dedup.length ≠ 1) (stop .conflicting .tradingDayConflict)
  raiseIf (day.validationState ≠ .valid) (stop .notEstablished .tradingDayNotEstablished)
  return day

/-- `_established`. -/
def established (py : Platform) (version : CalendarVersion) (day : TradingDayDefinition)
    (session : Option SessionDefinition) (currentness : CalendarCurrentnessAssessment)
    (authorities : List CalendarCorrectionAuthorityAssessment) (evidence : List EvidenceRef) :
    CalendarSessionResolutionResult :=
  match minimalEvidence (evidence ++ currentness.evidenceRefs ++
      authorities.flatMap CalendarCorrectionAuthorityAssessment.evidenceRefs) with
  | none => emptyResult .notEstablished .resourceLimitExceeded []
  | some supporting =>
    { disposition := .established
      selectedCalendarVersionId := some version.calendarVersionId
      tradingDay := some day
      session := session
      utcOpen := session.map SessionDefinition.utcOpen
      utcClose := session.map SessionDefinition.utcClose
      timezoneRuleId := session.map fun _ => version.timezoneRuleRef.timezoneRuleId
      timezoneRuleContentDigest := session.map fun _ => version.timezoneRuleRef.ruleContentDigest
      currentnessAssessmentDigest := some (currentness.contentDigest py)
      correctionAuthorityAssessmentDigests :=
        (authorities.map (CalendarCorrectionAuthorityAssessment.contentDigest py)).insertionSort (· ≤ ·)
      evidenceRefs := supporting
      reasonCode := if session.isSome then .uniqueAuthoritativeSession else .authoritativeNonTradingDay }

/-- The sessions of the local date, by the selected version. -/
def sessionsOf (query : CalendarSessionResolutionQuery) (seen : Visible) (selected : CalendarVersion) :
    List SessionDefinition :=
  seen.sessions.filter fun s => decide (s.calendarVersionId = selected.calendarVersionId) &&
    decide (s.localDate = query.localDate) && decide (s.sessionKind = query.sessionKind)

/-- The timezone corpus of the selected version, and the session's boundaries by it. -/
def checkBoundaries (env : Environment) (corpora : List TimezoneRuleCorpusInput) (selected : CalendarVersion)
    (session : SessionDefinition) : Except Stop Unit := do
  raiseIf (session.isAuthoritative = false ∨ session.timezoneRuleRef ≠ selected.timezoneRuleRef)
    (stop .notEstablished .timezoneRuleNotEstablished)
  let corpora := corpora.filter fun c => decide (c.timezoneRuleId = selected.timezoneRuleRef.timezoneRuleId)
  raiseIf (1 < corpora.length) (stop .conflicting .timezoneRuleNotEstablished)
  let corpus ← orRaise (stop .notEstablished .timezoneRuleNotEstablished) corpora.head?
  raiseIf (env.fromBytes corpus.corpus ≠ selected.timezoneRuleRef.ruleContentDigest)
    (stop .notEstablished .timezoneRuleCorpusDigestMismatch)
  (session.verifyUtcBoundaries env corpus.corpus).mapError fun error =>
    if error.cls ≠ .valueError then .raised error
    else if error.message = "UTC_CONVERSION_DISAGREEMENT" then stop .conflicting .utcBoundaryConflict
    else stop .notEstablished .localTimeNotEstablished

/-- Negative coverage contradicts a regular trading day. -/
def checkNegative (env : Environment) (query : CalendarSessionResolutionQuery)
    (negative : Option CalendarNegativeCoverageEvidence) (coverage : CalendarCandidateSetCoverage) (seen : Visible)
    (day : TradingDayDefinition) : Except Stop Unit :=
  match validNegative env.py query negative coverage seen.evidence with
  | none => .ok ()
  | some n =>
    match minimalEvidence (day.evidenceRefs ++ n.evidenceRefs) with
    | none => .error (stop .notEstablished .resourceLimitExceeded)
    | some evidence => .error (.returned (emptyResult .conflicting .positiveNegativeSessionConflict evidence))

/-- The session of a regular trading day. -/
def selectSession (env : Environment) (query : CalendarSessionResolutionQuery)
    (candidates : CalendarSessionResolutionCandidates) (coverage : CalendarCandidateSetCoverage) (seen : Visible)
    (selected : CalendarVersion) (day : TradingDayDefinition) : Except Stop SessionDefinition := do
  checkNegative env query candidates.negativeCoverage coverage seen day
  let sessions := sessionsOf query seen selected
  let session ← orRaise (stop .notEstablished .sessionNotEstablished) sessions.head?
  raiseIf ((sessions.map fun s => digest env.py s.semantics).dedup.length ≠ 1) (stop .conflicting .sessionConflict)
  checkBoundaries env candidates.timezoneRuleCorpora selected session
  return session

/-! ## The resolver -/

/-- The seven collections are within the resource limit. -/
def CalendarSessionResolutionCandidates.withinLimits (c : CalendarSessionResolutionCandidates) : Prop :=
  ∀ n ∈ [c.calendarVersions.length, c.historicalCoverages.length, c.tradingDayDefinitions.length,
    c.sessionDefinitions.length, c.timezoneRuleCorpora.length, c.currentnessAssessments.length,
    c.correctionAuthorityAssessments.length], n ≤ maxLineageVersions

instance (c : CalendarSessionResolutionCandidates) : Decidable c.withinLimits :=
  inferInstanceAs (Decidable (∀ n ∈ _, _))

/-- The day and the session of the selected version. -/
def resolveSession (env : Environment) (query : CalendarSessionResolutionQuery)
    (candidates : CalendarSessionResolutionCandidates) (coverage : CalendarCandidateSetCoverage) (seen : Visible)
    (selected : CalendarVersion) (authorities : List CalendarCorrectionAuthorityAssessment)
    (currentness : CalendarCurrentnessAssessment) : Except Stop CalendarSessionResolutionResult := do
  let historical ← selectCoverage query seen selected
  let day ← selectDay env.py query candidates.negativeCoverage coverage seen selected
  if day.dayKind ≠ .regularTradingDay then
    raiseIf (sessionsOf query seen selected ≠ []) (stop .conflicting .sessionConflict)
    return established env.py selected day none currentness authorities (historical.evidenceRefs ++ day.evidenceRefs)
  else
    let session ← selectSession env query candidates coverage seen selected day
    return established env.py selected day (some session) currentness authorities
      (historical.evidenceRefs ++ day.evidenceRefs ++ session.evidenceRefs ++ selected.timezoneRuleRef.evidenceRefs)

/-- `resolve_calendar_session`, up to its early returns. -/
def resolution (env : Environment) (query : CalendarSessionResolutionQuery)
    (candidates : CalendarSessionResolutionCandidates) : Except Stop CalendarSessionResolutionResult := do
  raiseIf (query.sessionKind ≠ .regular) (stop .notEstablished .unsupportedSessionKind)
  raiseIf (¬ candidates.withinLimits) (stop .notEstablished .resourceLimitExceeded)
  let seen := visible query candidates
  let coverage ← checkManifest env.py query candidates.candidateSetCoverage seen
  checkLineage env.py query seen
  let (selected, authorities) ← selectVersion env query candidates coverage seen
  let currentness ← selectCurrentness query candidates.currentnessAssessments selected
  resolveSession env query candidates coverage seen selected authorities currentness

/-- `resolve_calendar_session`. -/
def resolveCalendarSession (env : Environment) (query : CalendarSessionResolutionQuery)
    (candidates : CalendarSessionResolutionCandidates) : Outcome CalendarSessionResolutionResult :=
  match resolution env query candidates with
  | .ok result => .ok result
  | .error (.returned result) => .ok result
  | .error (.raised error) => .error error

/-! ## The constructor of the result -/

/-- What `canonicalize_evidence_refs` raises is a `ValueError`. -/
def evidenceError : Datasets.EvidenceError → PyError
  | .valueError message => ⟨.valueError, message⟩
  | .identityConflict message => ⟨.valueError, message⟩

namespace CalendarSessionResolutionResult

/-- The result carries no value. -/
def valueFree (r : CalendarSessionResolutionResult) : Prop :=
  r.selectedCalendarVersionId = none ∧ r.tradingDay = none ∧ r.session = none ∧ r.utcOpen = none ∧ r.utcClose = none ∧
    r.timezoneRuleId = none ∧ r.timezoneRuleContentDigest = none ∧ r.currentnessAssessmentDigest = none ∧
    r.correctionAuthorityAssessmentDigests = []

instance (r : CalendarSessionResolutionResult) : Decidable r.valueFree :=
  inferInstanceAs (Decidable (_ ∧ _ ∧ _ ∧ _ ∧ _ ∧ _ ∧ _ ∧ _ ∧ _))

/-- The values that a result of its disposition must and must not carry. -/
def checkValues (r : CalendarSessionResolutionResult) : Outcome Unit := do
  raiseIf (r.disposition ≠ .established ∧ ¬ r.valueFree)
    ⟨.valueError, "non-ESTABLISHED results must not contain authoritative values"⟩
  if r.disposition = .established then
    let _ ← orRaise ⟨.valueError, "ESTABLISHED results require a selected version and trading day"⟩
      r.selectedCalendarVersionId
    let day ← orRaise ⟨.valueError, "ESTABLISHED results require a selected version and trading day"⟩ r.tradingDay
    if day.dayKind = .regularTradingDay then
      raiseIf (r.session = none ∨ r.utcOpen = none ∨ r.utcClose = none ∨ r.timezoneRuleId = none ∨
          r.timezoneRuleContentDigest = none ∨ r.currentnessAssessmentDigest = none)
        ⟨.valueError, "ESTABLISHED regular sessions require complete value fields"⟩
    else
      raiseIf (r.session ≠ none ∨ r.utcOpen ≠ none ∨ r.utcClose ≠ none ∨ r.timezoneRuleId ≠ none ∨
          r.timezoneRuleContentDigest ≠ none)
        ⟨.valueError, "ESTABLISHED non-trading days must not contain a session"⟩

/-- The evidence of a result: there may be none. -/
def canonicalEvidence (refs : List EvidenceRef) : Outcome (List EvidenceRef) :=
  if refs = [] then .ok [] else (Datasets.canonicalizeEvidenceRefs refs).mapError evidenceError

/-- `__post_init__`, from the evidence on. -/
def postInit (r : CalendarSessionResolutionResult) : Outcome CalendarSessionResolutionResult := do
  let evidence ← canonicalEvidence r.evidenceRefs
  raiseIf (maxEvidenceRefs < evidence.length) ⟨.valueError, "result evidence exceeds MAX_EVIDENCE_REFS"⟩
  r.checkValues
  return { r with evidenceRefs := evidence }

end CalendarSessionResolutionResult

/-- `resolve_calendar_session`, with the constructor of the result that it returns. -/
def resolveCalendarSessionResult (env : Environment) (query : CalendarSessionResolutionQuery)
    (candidates : CalendarSessionResolutionCandidates) : Outcome CalendarSessionResolutionResult := do
  let result ← resolveCalendarSession env query candidates
  result.postInit

end ATB.Calendars
