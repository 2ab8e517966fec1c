import AutomatedTradingBot.Source.Instruments

/-!
# Calendars and their sessions

`calendars/model.py`: calendar versions with their facts, and the validation of
lineages and of facts. `EvidenceContentDigest.from_bytes` of a timezone corpus is a
parameter beside the platform; nothing is assumed of it.
-/

namespace ATB.Calendars

open ATB.Instruments

structure Environment where
  py : Platform
  /-- `EvidenceContentDigest.from_bytes`. -/
  fromBytes : List UInt8 → EvidenceContentDigest

structure CalendarId where
  value : Uuid
  uuid4 : requireUuid4 value = true

theorem CalendarId.value_inj {i j : CalendarId} : i.value = j.value ↔ i = j := by
  cases i
  cases j
  simp

instance : DecidableEq CalendarId := fun _ _ => decidable_of_iff _ CalendarId.value_inj

def CalendarId.toString (i : CalendarId) : String := "atis:calendar:v1:" ++ i.value.str

structure CalendarVersionId where
  value : Uuid
  uuid4 : requireUuid4 value = true

theorem CalendarVersionId.value_inj {i j : CalendarVersionId} : i.value = j.value ↔ i = j := by
  cases i
  cases j
  simp

instance : DecidableEq CalendarVersionId := fun _ _ => decidable_of_iff _ CalendarVersionId.value_inj

def CalendarVersionId.toString (i : CalendarVersionId) : String := "atis:calendar-version:v1:" ++ i.value.str

/-- `datetime.date`. -/
structure LocalDate where
  year : Nat
  month : Nat
  day : Nat
  real : RealTime year month day 0 0 0 0
deriving DecidableEq

namespace LocalDate

/-- The order of dates, as one number. -/
def key (d : LocalDate) : Nat := (d.year * 13 + d.month) * 32 + d.day

def isoformat (d : LocalDate) : String :=
  String.ofList (Text.zfill 4 d.year ++ '-' :: (Text.zfill 2 d.month ++ '-' :: Text.zfill 2 d.day))

def ofFields? (year month day : Nat) : Option LocalDate :=
  if h : RealTime year month day 0 0 0 0 then some ⟨year, month, day, h⟩ else none

/-- The day before, if there is a year for it. -/
def before? (d : LocalDate) : Option LocalDate :=
  if 1 < d.day then ofFields? d.year d.month (d.day - 1)
  else if 1 < d.month then ofFields? d.year (d.month - 1) (daysInMonth d.year (d.month - 1))
  else ofFields? (d.year - 1) 12 31

/-- The day after, if there is a year for it. -/
def after? (d : LocalDate) : Option LocalDate :=
  if d.day < daysInMonth d.year d.month then ofFields? d.year d.month (d.day + 1)
  else if d.month < 12 then ofFields? d.year (d.month + 1) 1
  else ofFields? (d.year + 1) 1 1

end LocalDate

/-! ## Records -/

inductive CalendarCoverageState where
  | covered
  | incomplete
  | conflicting
deriving DecidableEq

def CalendarCoverageState.value : CalendarCoverageState → String
  | .covered => "COVERED"
  | .incomplete => "INCOMPLETE"
  | .conflicting => "CONFLICTING"

inductive TradingDayKind where
  | regularTradingDay
  | exchangeHoliday
  | specialNonTradingDay
deriving DecidableEq

def TradingDayKind.value : TradingDayKind → String
  | .regularTradingDay => "REGULAR_TRADING_DAY"
  | .exchangeHoliday => "EXCHANGE_HOLIDAY"
  | .specialNonTradingDay => "SPECIAL_NON_TRADING_DAY"

inductive SessionKind where
  | regular
deriving DecidableEq

def SessionKind.value : SessionKind → String
  | .regular => "REGULAR"

inductive SessionScheduleVariation where
  | standard
  | earlyClose
deriving DecidableEq

def SessionScheduleVariation.value : SessionScheduleVariation → String
  | .standard => "STANDARD"
  | .earlyClose => "EARLY_CLOSE"

inductive CalendarCurrentness where
  | current
  | stale
  | unknown
deriving DecidableEq

structure TimezoneRuleRef where
  timezoneId : String
  timezoneRuleId : String
  ruleContentDigest : EvidenceContentDigest
  evidenceRefs : List EvidenceRef
  validationPolicyId : String
  validationState : ValidationState
deriving DecidableEq

namespace TimezoneRuleRef

def isAuthoritative (r : TimezoneRuleRef) : Bool := r.validationState = .valid

def semanticMapping (r : TimezoneRuleRef) : Json := .obj
  [("timezone_id", .str r.timezoneId), ("timezone_rule_id", .str r.timezoneRuleId),
    ("rule_content_digest", .str r.ruleContentDigest.value),
    ("evidence_refs", .arr (r.evidenceRefs.map EvidenceRef.mapping)),
    ("validation_policy_id", .str r.validationPolicyId), ("validation_state", .str r.validationState.value)]

/-- `verify_rule_corpus`. -/
def verifyRuleCorpus (env : Environment) (r : TimezoneRuleRef) (corpus : List UInt8) : Outcome Unit :=
  raiseIf (env.fromBytes corpus ≠ r.ruleContentDigest) ⟨.valueError, "TIMEZONE_RULE_CORPUS_DIGEST_MISMATCH"⟩

end TimezoneRuleRef

structure LocalWallTime where
  hour : Nat
  minute : Nat
  second : Nat
  microsecond : Nat
  utcOffsetMinutes : Option Int
  ambiguous : Bool
  nonexistent : Bool
  fold : Option Nat
  clock : hour < 24 ∧ minute < 60 ∧ second < 60 ∧ microsecond < 1000000
  offset : ∀ m ∈ utcOffsetMinutes, -1440 < m ∧ m < 1440
  exclusive : ¬ (ambiguous = true ∧ nonexistent = true)
  folded : ∀ f ∈ fold, ambiguous = true ∧ f ≤ 1
deriving DecidableEq

def intOrNull (n : Option Int) : Json := n.elim .null .int

namespace LocalWallTime

def semanticMapping (t : LocalWallTime) : Json := .obj
  [("hour", .int t.hour), ("minute", .int t.minute), ("second", .int t.second), ("microsecond", .int t.microsecond),
    ("utc_offset_minutes", intOrNull t.utcOffsetMinutes), ("ambiguous", .bool t.ambiguous),
    ("nonexistent", .bool t.nonexistent), ("fold", intOrNull (t.fold.map Int.ofNat))]

/-- The hour, minute, second and microsecond, as one number. -/
def key (t : LocalWallTime) : Nat := ((t.hour * 60 + t.minute) * 60 + t.second) * 1000000 + t.microsecond

/-- `local - timedelta(minutes=offset)`, which is out of range beyond the first and the
last year. -/
def shifted (t : LocalWallTime) (d : LocalDate) (offset : Int) : Option Datetime := do
  let minutes : Int := t.hour * 60 + t.minute - offset
  let day ← if minutes < 0 then d.before? else if 1440 ≤ minutes then d.after? else some d
  let minute := (minutes % 1440).toNat
  if h : RealTime day.year day.month day.day (minute / 60) (minute % 60) t.second t.microsecond then
    some ⟨day.year, day.month, day.day, minute / 60, minute % 60, t.second, t.microsecond, h⟩
  else none

/-- `to_utc`. -/
def toUtc (env : Environment) (t : LocalWallTime) (localDate : LocalDate) (rule : TimezoneRuleRef)
    (corpus : List UInt8) : Outcome Timestamp := do
  rule.verifyRuleCorpus env corpus
  raiseIf (rule.isAuthoritative = false) ⟨.valueError, "TIMEZONE_RULE_NOT_AUTHORITATIVE"⟩
  raiseIf (t.nonexistent = true) ⟨.valueError, "NONEXISTENT_OR_UNBOUND_LOCAL_TIME"⟩
  let offset ← orRaise ⟨.valueError, "NONEXISTENT_OR_UNBOUND_LOCAL_TIME"⟩ t.utcOffsetMinutes
  raiseIf (t.ambiguous = true ∧ t.fold = none) ⟨.valueError, "AMBIGUOUS_LOCAL_TIME"⟩
  let utc ← orRaise ⟨.arithmeticError, "date value out of range"⟩ (t.shifted localDate offset)
  return ⟨utc⟩

end LocalWallTime

structure CalendarVersion where
  calendarVersionId : CalendarVersionId
  calendarId : CalendarId
  marketCode : String
  venueCode : String
  effectiveFrom : Timestamp
  effectiveTo : Option Timestamp
  knowledgeFrom : Timestamp
  timezoneRuleRef : TimezoneRuleRef
  evidenceRefs : List EvidenceRef
  validationPolicyId : String
  validationState : ValidationState
  supersedesVersionId : Option CalendarVersionId
  correctionReason : Option String
  correctionEvidenceRefs : List EvidenceRef
  positive : ∀ t, effectiveTo = some t → effectiveFrom.value < t.value
  notSelf : supersedesVersionId ≠ some calendarVersionId
  corrected : if supersedesVersionId = none then correctionReason = none ∧ correctionEvidenceRefs = []
    else correctionReason ≠ none ∧ correctionEvidenceRefs ≠ []
deriving DecidableEq

structure HistoricalCoverage where
  calendarId : CalendarId
  calendarVersionId : CalendarVersionId
  localDateFrom : LocalDate
  localDateTo : LocalDate
  coverageState : CalendarCoverageState
  coverageKnowledgeFrom : Option Timestamp
  evidenceRefs : List EvidenceRef
  validationPolicyId : String
  validationState : ValidationState
  positive : localDateFrom.key < localDateTo.key
deriving DecidableEq

structure TradingDayDefinition where
  calendarId : CalendarId
  calendarVersionId : CalendarVersionId
  localDate : LocalDate
  dayKind : TradingDayKind
  evidenceRefs : List EvidenceRef
  validationPolicyId : String
  validationState : ValidationState
deriving DecidableEq

structure SessionDefinition where
  calendarId : CalendarId
  calendarVersionId : CalendarVersionId
  localDate : LocalDate
  sessionKind : SessionKind
  scheduleVariation : SessionScheduleVariation
  localOpen : LocalWallTime
  localClose : LocalWallTime
  utcOpen : Timestamp
  utcClose : Timestamp
  timezoneRuleRef : TimezoneRuleRef
  evidenceRefs : List EvidenceRef
  validationPolicyId : String
  validationState : ValidationState
  existent : localOpen.nonexistent = false ∧ localClose.nonexistent = false
  unambiguous : ∀ t ∈ [localOpen, localClose], t.ambiguous = true → t.fold ≠ none
  localPositive : localOpen.key < localClose.key
  utcPositive : utcOpen.value < utcClose.value
deriving DecidableEq

/-! ## Semantic mappings and digests -/

/-- `_digest`. -/
def digest (py : Platform) (mapping : Json) : String := "sha256:" ++ py.hexdigest mapping.dumps

def evidenceJson (refs : List EvidenceRef) : Json := .arr (refs.map EvidenceRef.mapping)

def timeOrNull (t : Option Timestamp) : Json := textOrNull (t.map timeText)

/-- `_calendar_version_semantics`. -/
def CalendarVersion.semantics (v : CalendarVersion) : Json := .obj
  [("record_kind", .str "CALENDAR_VERSION"), ("calendar_id", .str v.calendarId.toString),
    ("market_code", .str v.marketCode), ("venue_code", .str v.venueCode),
    ("effective_from", .str (timeText v.effectiveFrom)), ("effective_to", timeOrNull v.effectiveTo),
    ("knowledge_from", .str (timeText v.knowledgeFrom)), ("timezone_rule_ref", v.timezoneRuleRef.semanticMapping),
    ("evidence_refs", evidenceJson v.evidenceRefs), ("validation_policy_id", .str v.validationPolicyId),
    ("validation_state", .str v.validationState.value),
    ("supersedes_version_id", textOrNull (v.supersedesVersionId.map CalendarVersionId.toString)),
    ("correction_reason", textOrNull v.correctionReason),
    ("correction_evidence_refs", evidenceJson v.correctionEvidenceRefs)]

/-- `_coverage_semantics`. -/
def HistoricalCoverage.semantics (c : HistoricalCoverage) : Json := .obj
  [("record_kind", .str "HISTORICAL_COVERAGE"), ("calendar_id", .str c.calendarId.toString),
    ("calendar_version_id", .str c.calendarVersionId.toString), ("local_date_from", .str c.localDateFrom.isoformat),
    ("local_date_to", .str c.localDateTo.isoformat), ("coverage_state", .str c.coverageState.value),
    ("coverage_knowledge_from", timeOrNull c.coverageKnowledgeFrom), ("evidence_refs", evidenceJson c.evidenceRefs),
    ("validation_policy_id", .str c.validationPolicyId), ("validation_state", .str c.validationState.value)]

/-- `_day_semantics`. -/
def TradingDayDefinition.semantics (d : TradingDayDefinition) : Json := .obj
  [("record_kind", .str "TRADING_DAY_DEFINITION"), ("calendar_id", .str d.calendarId.toString),
    ("calendar_version_id", .str d.calendarVersionId.toString), ("local_date", .str d.localDate.isoformat),
    ("day_kind", .str d.dayKind.value), ("evidence_refs", evidenceJson d.evidenceRefs),
    ("validation_policy_id", .str d.validationPolicyId), ("validation_state", .str d.validationState.value)]

/-- `_session_semantics`. -/
def SessionDefinition.semantics (s : SessionDefinition) : Json := .obj
  [("record_kind", .str "SESSION_DEFINITION"), ("calendar_id", .str s.calendarId.toString),
    ("calendar_version_id", .str s.calendarVersionId.toString), ("local_date", .str s.localDate.isoformat),
    ("session_kind", .str s.sessionKind.value), ("schedule_variation", .str s.scheduleVariation.value),
    ("local_open", s.localOpen.semanticMapping), ("local_close", s.localClose.semanticMapping),
    ("utc_open", .str (timeText s.utcOpen)), ("utc_close", .str (timeText s.utcClose)),
    ("timezone_rule_ref", s.timezoneRuleRef.semanticMapping), ("evidence_refs", evidenceJson s.evidenceRefs),
    ("validation_policy_id", .str s.validationPolicyId), ("validation_state", .str s.validationState.value)]

def CalendarVersion.contentDigest (py : Platform) (v : CalendarVersion) : String := digest py v.semantics

namespace CalendarVersion

def isAuthoritative (v : CalendarVersion) : Bool := v.validationState = .valid && v.timezoneRuleRef.isAuthoritative

/-- `contains_effective`. -/
def containsEffective (v : CalendarVersion) (instant : Timestamp) : Bool :=
  decide (v.effectiveFrom.value ≤ instant.value) && v.effectiveTo.all fun t => decide (instant.value < t.value)

/-- What a lineage reads of a calendar version. -/
def view : LineageView CalendarVersion CalendarVersionId :=
  ⟨calendarVersionId, supersedesVersionId, fun v => v.knowledgeFrom.value⟩

end CalendarVersion

def HistoricalCoverage.contains (c : HistoricalCoverage) (d : LocalDate) : Bool :=
  decide (c.localDateFrom.key ≤ d.key) && decide (d.key < c.localDateTo.key)

def SessionDefinition.isAuthoritative (s : SessionDefinition) : Bool :=
  s.validationState = .valid && s.timezoneRuleRef.isAuthoritative

/-- `verify_utc_boundaries`. -/
def SessionDefinition.verifyUtcBoundaries (env : Environment) (s : SessionDefinition) (corpus : List UInt8) :
    Outcome Unit := do
  let expectedOpen ← s.localOpen.toUtc env s.localDate s.timezoneRuleRef corpus
  let expectedClose ← s.localClose.toUtc env s.localDate s.timezoneRuleRef corpus
  raiseIf (expectedOpen ≠ s.utcOpen ∨ expectedClose ≠ s.utcClose) ⟨.valueError, "UTC_CONVERSION_DISAGREEMENT"⟩

/-! ## Facts -/

inductive CalendarFact where
  | coverage (fact : HistoricalCoverage)
  | day (fact : TradingDayDefinition)
  | session (fact : SessionDefinition)
deriving DecidableEq

namespace CalendarFact

def calendarId : CalendarFact → CalendarId
  | .coverage f => f.calendarId
  | .day f => f.calendarId
  | .session f => f.calendarId

def calendarVersionId : CalendarFact → CalendarVersionId
  | .coverage f => f.calendarVersionId
  | .day f => f.calendarVersionId
  | .session f => f.calendarVersionId

def evidenceRefs : CalendarFact → List EvidenceRef
  | .coverage f => f.evidenceRefs
  | .day f => f.evidenceRefs
  | .session f => f.evidenceRefs

def semantics : CalendarFact → Json
  | .coverage f => f.semantics
  | .day f => f.semantics
  | .session f => f.semantics

def contentDigest (py : Platform) (fact : CalendarFact) : String := digest py fact.semantics

/-- The timezone rule of a session. -/
def timezoneRuleRef? : CalendarFact → Option TimezoneRuleRef
  | .session f => some f.timezoneRuleRef
  | _ => none

/-- `_fact_identity`. -/
def identity : CalendarFact → List String
  | .coverage f => ["COVERAGE", f.localDateFrom.isoformat, f.localDateTo.isoformat]
  | .day f => ["DAY", f.localDate.isoformat]
  | .session f => ["SESSION", f.localDate.isoformat, f.sessionKind.value]

end CalendarFact

/-- One fact against the version it must be bound to, and against the digests seen so far. -/
def validateFactBinding (py : Platform) (version : CalendarVersion) (seen : List (List String × String))
    (fact : CalendarFact) : Except String (List (List String × String)) := do
  raiseIf (version.calendarId ≠ fact.calendarId ∨ version.calendarVersionId ≠ fact.calendarVersionId)
    "CHILD_BOUND_TO_WRONG_CALENDAR_VERSION"
  raiseIf (∃ rule ∈ fact.timezoneRuleRef?, rule ≠ version.timezoneRuleRef) "TIMEZONE_RULE_MISMATCH"
  raiseIf (∃ d ∈ Dict.get? fact.identity seen, d ≠ fact.contentDigest py) "DUPLICATE_FACT_IDENTITY_DIFFERENT_CONTENT"
  return Dict.set fact.identity (fact.contentDigest py) seen

/-- `validate_fact_bindings`, without the sorted tuple that it returns. -/
def validateFactBindings (py : Platform) (version : CalendarVersion) (facts : List CalendarFact) : Except String Unit := do
  raiseIf (maxLineageVersions < facts.length) "FACT_RESOURCE_LIMIT_EXCEEDED"
  discard (facts.foldlM (validateFactBinding py version) [])

/-- `CalendarLineageValidationError`, by its message. -/
def calendarLineageMessage : LineageFault → String
  | .duplicate => "DUPLICATE_CALENDAR_VERSION_ID"
  | fault => lineageMessage fault

/-- `sorted(values, key=lambda item: item.calendar_version_id.to_string())`. -/
def sortedVersions (values : List CalendarVersion) : List CalendarVersion :=
  values.insertionSort fun a b => a.calendarVersionId.toString ≤ b.calendarVersionId.toString

/-- `validate_calendar_lineage`. -/
def validateCalendarLineage (values : List CalendarVersion) : Except String (List CalendarVersion) := do
  let first ← orRaise "lineage must not be empty" values.head?
  raiseIf (maxLineageVersions < values.length) "LINEAGE_RESOURCE_LIMIT_EXCEEDED"
  let byId ← (Lineage.index CalendarVersion.view values).mapError calendarLineageMessage
  raiseIf (∃ v ∈ values, v.calendarId ≠ first.calendarId) "CROSS_CALENDAR_EDGE"
  raiseIf (∃ v ∈ values, (v.marketCode, v.venueCode) ≠ (first.marketCode, first.venueCode)) "CONFLICTING_SCOPE"
  (Lineage.checkEdges CalendarVersion.view byId maxLineageDepth values).mapError calendarLineageMessage
  return sortedVersions values

/-- `verify_calendar_content_digest`. -/
def verifyCalendarContentDigest (py : Platform) (semantics : Json) (claimed : String) : Except String Unit :=
  raiseIf (claimed ≠ digest py semantics) "content_digest does not match canonical semantic content"

/-- `validate_coverage_independence`. -/
def validateCoverageIndependence (coverage : HistoricalCoverage) (facts : List CalendarFact) : Except String Unit :=
  raiseIf (∀ k ∈ keys coverage.evidenceRefs, k ∈ facts.flatMap fun f => keys f.evidenceRefs)
    "COVERAGE_SELF_CERTIFICATION"

/-- `coverage_disposition`. -/
def coverageDisposition (coverage : HistoricalCoverage) (localDate : LocalDate) (facts : List CalendarFact) :
    ResolutionDisposition :=
  if coverage.contains localDate = false then .notEstablished
  else if coverage.validationState ≠ .valid then .notEstablished
  else
    match coverage.coverageState with
    | .conflicting => .conflicting
    | .incomplete => .notEstablished
    | .covered =>
      match validateCoverageIndependence coverage facts with
      | .error _ => .notEstablished
      | .ok _ => .established

end ATB.Calendars
