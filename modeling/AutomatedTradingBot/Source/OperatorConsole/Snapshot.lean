import AutomatedTradingBot.Source.Datasets.PhysicalPersistence
import AutomatedTradingBot.Source.Reconcile
import AutomatedTradingBot.Source.Stage5.Authority
import AutomatedTradingBot.Source.StateCodec

/-!
# Reconciliation snapshots of the operator console

`reconciliation/operator_console_snapshot.py` and the codec of
`reconciliation/operator_console_snapshot_persistence.py`: producing, validating,
encoding and decoding a snapshot. A decimal is finite, a run and the references have
the patterns that their constructors ask for, and instants are compared as instants,
whatever object stands for the offset zero. A byte string is the text of its bytes, a
character for each.

What `_snapshot_from_bytes` raises inside its `try` is one exception, whatever it was.
A repeated key is refused there with every other text that is not the canonical one.
-/

namespace ATB.OperatorConsole

open Datasets (AttributedRef canonicalizeEvidenceRefs)
open Stage5 (dumpsAscii)

def schemaVersion : String := "ATIS-OC-RECONCILIATION-SNAPSHOT-V1"
def noTradingAuthority : String := "NO_TRADING_AUTHORITY"

/-- `SnapshotValidationError`, and the exceptions of the persistence. -/
inductive SnapshotError where
  | validation (message : String)
  | integrity (message : String)
deriving DecidableEq

abbrev Bytes := List Char

/-! ## Enumerations and texts -/

def reconciliationStates : List (ReconciliationState × String) :=
  [(.reconciled, "RECONCILED"), (.discrepancy, "DISCREPANCY"), (.invalidOrUnknown, "INVALID_OR_UNKNOWN")]

def discrepancyCodes : List (DiscrepancyCode × String) :=
  [(.missingOrder, "MISSING_ORDER"), (.missingFill, "MISSING_FILL"), (.missingLedgerEvent, "MISSING_LEDGER_EVENT"),
    (.duplicateOrder, "DUPLICATE_ORDER"), (.duplicateFill, "DUPLICATE_FILL"),
    (.duplicateLedgerPosting, "DUPLICATE_LEDGER_POSTING"), (.identityMismatch, "IDENTITY_MISMATCH"),
    (.instrumentMismatch, "INSTRUMENT_MISMATCH"), (.quantityMismatch, "QUANTITY_MISMATCH"),
    (.sideMismatch, "SIDE_MISMATCH"), (.currencyMismatch, "CURRENCY_MISMATCH"), (.timingMismatch, "TIMING_MISMATCH"),
    (.attributionMismatch, "ATTRIBUTION_MISMATCH"), (.costMismatch, "COST_MISMATCH"),
    (.ledgerStateMismatch, "LEDGER_STATE_MISMATCH"), (.invalidInput, "INVALID_INPUT")]

/-- `member.value`, from the values of an enumeration. -/
def enumValue {α : Type} [DecidableEq α] (members : List (α × String)) (a : α) : String := (Dict.get? a members).getD ""

/-- `Enum(text)`. -/
def enumOf? {α : Type} (members : List (α × String)) (text : String) : Option α :=
  (members.find? fun m => m.2 = text).map Prod.fst

def MetricAvailability.value : MetricAvailability → String
  | .notEstablished => "NOT_ESTABLISHED"

inductive FreshnessState where
  | unverified
deriving DecidableEq

def freshnessStates : List (FreshnessState × String) := [(.unverified, "UNVERIFIED")]

/-- `_utc_text`. -/
def utcText (t : Timestamp) : String :=
  let t := t.value
  String.ofList (Text.zfill 4 t.year ++ '-' :: (Text.zfill 2 t.month ++ '-' :: (Text.zfill 2 t.day ++ 'T' ::
    (Text.zfill 2 t.hour ++ ':' :: (Text.zfill 2 t.minute ++ ':' :: (Text.zfill 2 t.second ++ '.' ::
      (Text.zfill 6 t.microsecond ++ ['Z'])))))))

/-- `0|[1-9][0-9]*`, on digits. -/
def isNumeral : List Char → Bool
  | [] => false
  | c :: cs => c != '0' || cs.isEmpty

/-- `(?:E[+-]?(?:0|[1-9][0-9]*))?`. -/
def isCanonicalExponent : List Char → Bool
  | [] => true
  | c :: s =>
    let s := (Decimal.signOf s).2
    c == 'E' && s.all Char.isDigit && isNumeral s

/-- `_CANONICAL_DECIMAL_TEXT.fullmatch(text)`. -/
def isCanonicalDecimalText (text : List Char) : Bool :=
  let s := match text with
    | '-' :: s => s
    | s => s
  let rest := s.dropWhile Char.isDigit
  isNumeral (s.takeWhile Char.isDigit) && match rest with
    | '.' :: s => decide (s.takeWhile Char.isDigit ≠ []) && isCanonicalExponent (s.dropWhile Char.isDigit)
    | s => isCanonicalExponent s

/-- `_decimal_text`. -/
def decimalText (value : Decimal) (name : String) : Except SnapshotError String := do
  raiseIf (isCanonicalDecimalText (Text.chars value.str) = false) (.validation (name ++ " is not a canonical Decimal"))
  return value.str

/-! ## Performance -/

/-- A `MetricAvailability`, or a text in its place. -/
inductive MetricState where
  | availability (value : MetricAvailability)
  | text (value : String)
deriving DecidableEq

/-- The text that a metric state equals. -/
def MetricState.str : MetricState → String
  | .availability value => MetricAvailability.value value
  | .text value => value

/-- `_metric_state_text`. -/
def metricStateText (value : MetricState) (name : String) : Except SnapshotError String := do
  raiseIf (value.str ≠ MetricAvailability.value .notEstablished) (.validation (name ++ " is not a supported metric state"))
  return value.str

/-- `PerformanceSnapshotV1`. -/
structure PerformanceSnapshot where
  grossPnl : Decimal
  commissionFees : Decimal
  bidAskSpread : Decimal
  slippage : Decimal
  marketImpact : Decimal
  additionalFriction : Decimal
  netPnl : Decimal
  realisedPnl : Decimal
  unrealisedPnl : Decimal
  portfolioValue : Decimal
  turnover : Decimal
  participation : MetricState
  capacity : MetricState
deriving DecidableEq

namespace PerformanceSnapshot

/-- `_PERFORMANCE_DECIMAL_FIELDS` with the values. -/
def decimals (p : PerformanceSnapshot) : List (String × Decimal) :=
  [("gross_pnl", p.grossPnl), ("commission_fees", p.commissionFees), ("bid_ask_spread", p.bidAskSpread),
    ("slippage", p.slippage), ("market_impact", p.marketImpact), ("additional_friction", p.additionalFriction),
    ("net_pnl", p.netPnl), ("realised_pnl", p.realisedPnl), ("unrealised_pnl", p.unrealisedPnl),
    ("portfolio_value", p.portfolioValue), ("turnover", p.turnover)]

/-- `_validate_performance_snapshot`. -/
def validate (p : PerformanceSnapshot) : Except SnapshotError Unit := do
  p.decimals.forM fun d => do
    let _ ← decimalText d.2 d.1
  let _ ← metricStateText p.participation "participation"
  let _ ← metricStateText p.capacity "capacity"

/-- `from_truth`. -/
def fromTruth (truth : PerformanceTruth Decimal) : Except SnapshotError PerformanceSnapshot := do
  let costs := truth.executionCostDrag
  let p : PerformanceSnapshot :=
    ⟨truth.grossPnl, costs.commissionFees, costs.bidAskSpread, costs.slippage, costs.marketImpact,
      costs.additionalFriction, truth.netPnl, truth.realisedPnl, truth.unrealisedPnl, truth.portfolioValue, truth.turnover,
      .text (MetricAvailability.value truth.participation), .text (MetricAvailability.value truth.capacity)⟩
  p.decimals.forM fun d => do
    let _ ← decimalText d.2 d.1
  return p

/-- `as_mapping`. -/
def asMapping (p : PerformanceSnapshot) : Except SnapshotError Json := do
  let decimals ← p.decimals.mapM fun d => do
    return (d.1, Json.str (← decimalText d.2 d.1))
  let capacity ← metricStateText p.capacity "capacity"
  let participation ← metricStateText p.participation "participation"
  return .obj (decimals ++ [("capacity", .str capacity), ("participation", .str participation)])

/-- `==`: decimals are compared as numbers, and a metric state is its text. -/
instance : BEq PerformanceSnapshot := ⟨fun p q =>
  (p.decimals.zip q.decimals).all (fun d => d.1.2 == d.2.2) && p.participation.str == q.participation.str &&
    p.capacity.str == q.capacity.str⟩

end PerformanceSnapshot

/-! ## Evidence and identities -/

section Digests

variable (py : Platform)

/-- The body of `evidence_digest_for`. -/
def evidenceText (refs : List Instruments.EvidenceRef) : Bytes :=
  Text.chars "ATIS-OC-RECONCILIATION-EVIDENCE-V1" ++ Char.ofNat 0 ::
    dumpsAscii (.arr (refs.map Instruments.EvidenceRef.mapping))

/-- `evidence_digest_for`. -/
def evidenceDigestFor (evidenceRefs : List AttributedRef) : Except SnapshotError String := do
  let canonical ← (canonicalizeEvidenceRefs (evidenceRefs.map AttributedRef.ref)).mapError fun _ =>
    .validation "evidence_refs are invalid"
  return "sha256:" ++ py.hexdigest (evidenceText canonical)

/-- A `ResearchRunId`, with the pattern that its constructor asks for. -/
structure SourceRunId where
  id : ResearchRunId
  canonical : id.canonical = true
deriving DecidableEq

/-- The arguments of `_observation_id_for`. -/
structure Observation where
  sourceRunId : SourceRunId
  evidenceDigest : String
  reconciliationState : ReconciliationState
  discrepancyCodes : List DiscrepancyCode
  observedAtUtc : Timestamp
  producedAtUtc : Timestamp
  performance : Option PerformanceSnapshot
deriving DecidableEq

/-- `None if performance is None else performance.as_mapping()`. -/
def performanceMapping : Option PerformanceSnapshot → Except SnapshotError Json
  | none => .ok .null
  | some performance => performance.asMapping

/-- `identity_body`. -/
def Observation.body (o : Observation) (performance : Json) : Json := .obj
  [("discrepancy_codes", .arr (o.discrepancyCodes.map fun code => .str (enumValue OperatorConsole.discrepancyCodes code))),
    ("evidence_digest", .str o.evidenceDigest), ("observed_at_utc", .str (utcText o.observedAtUtc)),
    ("performance", performance), ("produced_at_utc", .str (utcText o.producedAtUtc)),
    ("reconciliation_state", .str (enumValue reconciliationStates o.reconciliationState)),
    ("schema_version", .str schemaVersion), ("simulation_only", .bool true),
    ("source_authority", .str reconciliationAuthority), ("source_run_id", .str o.sourceRunId.id.value),
    ("trading_authority", .str noTradingAuthority)]

def observationLead : String := "atis:operator-console:reconciliation-observation:v1:sha256:"

/-- `_observation_id_for`. -/
def observationIdFor (o : Observation) : Except SnapshotError String := do
  let performance ← performanceMapping o.performance
  return observationLead ++ py.hexdigest (dumpsAscii (o.body performance))

end Digests

/-! ## Snapshots -/

/-- `ReconciliationSnapshotV1`. -/
structure ReconciliationSnapshot extends Observation where
  schemaVersion : String
  observationId : String
  sourceAuthority : String
  evidenceRefs : List AttributedRef
  freshnessState : FreshnessState
  simulationOnly : Bool
  tradingAuthority : String
deriving DecidableEq

namespace ReconciliationSnapshot

/-- `as_mapping`. -/
def asMapping (s : ReconciliationSnapshot) : Except SnapshotError Json := do
  let performance ← performanceMapping s.performance
  return .obj
    [("discrepancy_codes", .arr (s.discrepancyCodes.map fun code => .str (enumValue OperatorConsole.discrepancyCodes code))),
      ("evidence_digest", .str s.evidenceDigest), ("evidence_refs", .arr (s.evidenceRefs.map AttributedRef.body)),
      ("freshness_state", .str (enumValue freshnessStates s.freshnessState)), ("observation_id", .str s.observationId),
      ("observed_at_utc", .str (utcText s.observedAtUtc)), ("performance", performance),
      ("produced_at_utc", .str (utcText s.producedAtUtc)),
      ("reconciliation_state", .str (enumValue reconciliationStates s.reconciliationState)),
      ("schema_version", .str s.schemaVersion), ("simulation_only", .bool s.simulationOnly),
      ("source_authority", .str s.sourceAuthority), ("source_run_id", .str s.sourceRunId.id.value),
      ("trading_authority", .str s.tradingAuthority)]

/-- `canonical_bytes`. -/
def canonicalBytes (s : ReconciliationSnapshot) : Except SnapshotError Bytes := do
  return dumpsAscii (← s.asMapping)

/-- `==`. -/
instance : BEq ReconciliationSnapshot := ⟨fun s t =>
  decide ({ s with performance := none } = ({ t with performance := none } : ReconciliationSnapshot)) &&
    match s.performance, t.performance with
    | none, none => true
    | some p, some q => p == q
    | _, _ => false⟩

end ReconciliationSnapshot

/-- `_OBSERVATION_ID.fullmatch(value)`. -/
def isObservationId (value : String) : Bool := Text.fullmatch observationLead Text.isLowerHex 64 64 value

/-- `validate_snapshot`. -/
def validateSnapshot (py : Platform) (snapshot : ReconciliationSnapshot) (evaluatedAtUtc : Timestamp) :
    Except SnapshotError Unit := do
  raiseIf (snapshot.schemaVersion ≠ schemaVersion) (.validation "unsupported schema version")
  raiseIf (isObservationId snapshot.observationId = false) (.validation "observation_id is invalid")
  raiseIf (snapshot.sourceAuthority ≠ reconciliationAuthority) (.validation "source authority is not authorised")
  raiseIf (snapshot.producedAtUtc.value < snapshot.observedAtUtc.value ∨
    evaluatedAtUtc.value < snapshot.producedAtUtc.value) (.validation "snapshot timestamps are not trusted")
  raiseIf (snapshot.freshnessState ≠ .unverified) (.validation "freshness policy is not qualified")
  raiseIf (snapshot.simulationOnly ≠ true ∨ snapshot.tradingAuthority ≠ noTradingAuthority)
    (.validation "snapshot authority boundary is invalid")
  let digest ← evidenceDigestFor py snapshot.evidenceRefs
  raiseIf (digest ≠ snapshot.evidenceDigest) (.validation "evidence digest mismatch")
  raiseIf (¬ snapshot.discrepancyCodes.Nodup) (.validation "duplicate discrepancy codes are ambiguous")
  if snapshot.reconciliationState = .reconciled then
    let performance ← orRaise (.validation "RECONCILED snapshot semantics are invalid")
      (if snapshot.discrepancyCodes = [] then snapshot.performance else none)
    performance.validate
  else
    raiseIf (snapshot.performance ≠ none ∨ snapshot.discrepancyCodes = [])
      (.validation "unreconciled snapshot semantics are invalid")
  let expected ← observationIdFor py snapshot.toObservation
  raiseIf (snapshot.observationId ≠ expected) (.validation "observation identity mismatch")

/-! ## Producing a snapshot -/

/-- `_result_parts`; the types of the result are as declared. -/
def resultParts (result : ReconciliationResult Decimal) :
    Except SnapshotError (List DiscrepancyCode × Option PerformanceSnapshot) := do
  raiseIf (result.authority ≠ reconciliationAuthority) (.validation "reconciliation authority is not canonical")
  if result.state = .reconciled then
    let truth ← orRaise (.validation "RECONCILED requires performance and no discrepancies")
      (if result.discrepancies = [] then result.performance else none)
    return ([], some (← PerformanceSnapshot.fromTruth truth))
  raiseIf (result.performance ≠ none) (.validation "unreconciled results must not expose performance")
  raiseIf (result.discrepancies = []) (.validation "unreconciled results require discrepancy evidence")
  return (Dict.keys (Dict.ofKeys id (result.discrepancies.map Discrepancy.code)), none)

/-- The references of `canonicalize_evidence_refs`, which keeps some of those it is given. -/
def attributed (evidenceRefs : List AttributedRef) (canonical : List Instruments.EvidenceRef) : List AttributedRef :=
  canonical.filterMap fun ref => evidenceRefs.find? fun e => e.ref = ref

/-- `produce_reconciliation_snapshot`. -/
def produceReconciliationSnapshot (py : Platform) (result : ReconciliationResult Decimal) (sourceRunId : SourceRunId)
    (evidenceRefs : List AttributedRef) (expectedEvidenceDigest : String)
    (observedAtUtc producedAtUtc evaluatedAtUtc : Timestamp) : Except SnapshotError ReconciliationSnapshot := do
  raiseIf (producedAtUtc.value < observedAtUtc.value) (.validation "observation cannot follow production")
  raiseIf (evaluatedAtUtc.value < observedAtUtc.value ∨ evaluatedAtUtc.value < producedAtUtc.value)
    (.validation "future timestamps are not trusted")
  let canonical ← (canonicalizeEvidenceRefs (evidenceRefs.map AttributedRef.ref)).mapError fun _ =>
    .validation "evidence_refs are invalid"
  let canonicalRefs := attributed evidenceRefs canonical
  let actualDigest ← evidenceDigestFor py canonicalRefs
  raiseIf (EvidenceContentDigest.canonical ⟨expectedEvidenceDigest⟩ = false)
    (.validation "expected_evidence_digest is invalid")
  raiseIf (expectedEvidenceDigest ≠ actualDigest) (.validation "evidence digest mismatch")
  let (codes, performance) ← resultParts result
  let observation : Observation :=
    ⟨sourceRunId, actualDigest, result.state, codes, observedAtUtc, producedAtUtc, performance⟩
  let observationId ← observationIdFor py observation
  let snapshot : ReconciliationSnapshot :=
    ⟨observation, schemaVersion, observationId, reconciliationAuthority, canonicalRefs, .unverified, true,
      noTradingAuthority⟩
  validateSnapshot py snapshot evaluatedAtUtc
  return snapshot

end ATB.OperatorConsole
