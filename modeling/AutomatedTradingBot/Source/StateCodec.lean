import AutomatedTradingBot.Framework.Decimal
import AutomatedTradingBot.Source.Execution
import AutomatedTradingBot.Source.Provenance

/-!
# The texts of orders, snapshots, cost models and states

The codecs of `research/simulation_state.py`: `_order_body` and `_order` and the
two like pairs, `_normal`, and the body that a fill's identity is hashed from.
Amounts are decimals. `str` of a list or a `dict`, which no writer puts where a
text is expected, raises here.
-/

namespace ATB

def simulationStateError (message : String) : PyError := ⟨.simulationStateError, message⟩

def Json.typeError : PyError := ⟨.typeError, "unexpected JSON value"⟩

namespace Json

/-- `body[k]`. -/
def field (k : String) : Json → Outcome Json
  | .dict fields => orRaise ⟨.keyError, k⟩ (find? k fields)
  | _ => .error typeError

/-- `str(j)`. -/
def toText : Json → Outcome String
  | .null => .ok "None"
  | .bool b => .ok (if b then "True" else "False")
  | .int n => .ok (String.ofList (intChars n))
  | .str s => .ok s
  | .arr _ => .error typeError
  | .dict _ => .error typeError

/-- `bool(j)`. -/
def truthy : Json → Bool
  | .null => false
  | .bool b => b
  | .int n => n != 0
  | .str s => s != ""
  | .arr items => !items.isEmpty
  | .dict fields => !fields.isEmpty

/-- `str(body[k])`. -/
def textField (k : String) (body : Json) : Outcome String := do (← body.field k).toText

/-- `None if body[k] is None else decode(str(body[k]))`. -/
def optionalField {α : Type} (k : String) (decode : String → Outcome α) (body : Json) : Outcome (Option α) := do
  match ← body.field k with
  | .null => return none
  | j => return some (← decode (← j.toText))

/-- A value that must be a list. -/
def toItems (message : String) : Json → Outcome (List Json)
  | .arr items => .ok items
  | _ => .error (simulationStateError message)

/-- An optional value. -/
def ofOption {α : Type} (encode : α → Json) : Option α → Json
  | none => .null
  | some a => encode a

end Json

/-! ## Parts -/

/-- `Enum(text)`. -/
def enumOf {α : Type} (name : String) (all : List α) (value : α → String) (text : String) : Outcome α :=
  orRaise ⟨.valueError, "'" ++ text ++ "' is not a valid " ++ name⟩ (all.find? fun a => value a = text)

def orderSideOf : String → Outcome OrderSide := enumOf "OrderSide" [.buy, .sell] OrderSide.value

def eligibilityStateOf : String → Outcome EligibilityState :=
  enumOf "EligibilityState" [.eligible, .ineligible] EligibilityState.value

def executionInputStateOf : String → Outcome ExecutionInputState :=
  enumOf "ExecutionInputState" [.available, .unavailable, .unknown] ExecutionInputState.value

def costScenarioOf : String → Outcome CostScenario :=
  enumOf "CostScenario" [.ec0, .ec1, .ec2, .ec3] CostScenario.value

def costComponentOf : String → Outcome CostComponent :=
  enumOf "CostComponent" CostComponent.all CostComponent.value

def costProvenanceOf : String → Outcome CostProvenance :=
  enumOf "CostProvenance" [.observed, .modelled, .proxy] CostProvenance.value

/-- `Decimal(text)`. -/
def decimalOf (text : String) : Outcome Decimal :=
  orRaise ⟨.arithmeticError, "invalid decimal"⟩ (Decimal.parse? text)

/-- `OrderId(UUID(text))`. -/
def orderIdOf (text : String) : Outcome OrderId :=
  OrderId.mk <$> orRaise ⟨.valueError, "badly formed hexadecimal UUID string"⟩ (Uuid.ofString? text)

/-- `_timestamp`. -/
def timestampOf (text : String) : Outcome Timestamp := do
  let (value, offset) ← orRaise ⟨.valueError, "Invalid isoformat string"⟩
    (Datetime.fromIsoformat? (String.ofList (Text.replaceChar 'Z' "+00:00" (Text.chars text))))
  raiseIf (offset = none) ⟨.valueError, "value must be timezone-aware"⟩
  raiseIf (offset ≠ some 0) ⟨.valueError, "value must have a UTC offset of zero"⟩
  return ⟨value⟩

/-! ## Bodies -/

/-- `_order_body`. -/
def orderBody (o : SimulatedOrder Decimal) : Json :=
  .obj [("order_id", .str o.orderId.value.str),
    ("instrument_id", .str o.instrumentId.toString),
    ("side", .str o.side.value),
    ("quantity", .str o.quantity.str),
    ("currency", .str o.currency.code),
    ("release_at", .str o.releaseAt.value.isoformat),
    ("research_run_id", .str o.researchRunId.value),
    ("evidence_digest", .str o.evidenceDigest.value),
    ("eligibility_state", .str o.eligibilityState.value),
    ("eligibility_reasons", .arr (o.eligibilityReasons.map .str)),
    ("eligibility_observation_id", .str o.eligibilityObservationId),
    ("decision_time", .str o.decisionTime.value.isoformat)]

/-- `_order`. -/
def orderOf (body : Json) : Outcome (SimulatedOrder Decimal) := do
  let reasons ← (← body.field "eligibility_reasons").toItems "eligibility reasons are invalid"
  let order : SimulatedOrder Decimal :=
    ⟨← orderIdOf (← body.textField "order_id"),
      ← InstrumentId.parse (← body.textField "instrument_id"),
      ← orderSideOf (← body.textField "side"),
      ← decimalOf (← body.textField "quantity"),
      ← Currency.make (← body.textField "currency"),
      ← timestampOf (← body.textField "release_at"),
      ← ResearchRunId.make (← body.textField "research_run_id"),
      ← EvidenceContentDigest.make (← body.textField "evidence_digest"),
      ← eligibilityStateOf (← body.textField "eligibility_state"),
      ← reasons.mapM Json.toText,
      ← body.textField "eligibility_observation_id",
      ← timestampOf (← body.textField "decision_time")⟩
  order.postInit
  return order

/-- `_snapshot_body`. -/
def snapshotBody (s : ExecutionSnapshot Decimal) : Json :=
  .obj [("execution_at", .str s.executionAt.value.isoformat),
    ("price", .ofOption (fun p => .str p.str) s.price),
    ("price_available_at", .ofOption (fun t => .str t.value.isoformat) s.priceAvailableAt),
    ("security_state", .str s.securityState.value),
    ("liquidity_state", .str s.liquidityState.value),
    ("available_quantity", .ofOption (fun q => .str q.str) s.availableQuantity),
    ("currency", .ofOption (fun c => .str c.code) s.currency),
    ("evidence_digest", .ofOption (fun d => .str d.value) s.evidenceDigest)]

/-- `_snapshot`. -/
def snapshotOf (body : Json) : Outcome (ExecutionSnapshot Decimal) := do
  let snapshot : ExecutionSnapshot Decimal :=
    ⟨← timestampOf (← body.textField "execution_at"),
      ← body.optionalField "price" decimalOf,
      ← body.optionalField "price_available_at" timestampOf,
      ← executionInputStateOf (← body.textField "security_state"),
      ← executionInputStateOf (← body.textField "liquidity_state"),
      ← body.optionalField "available_quantity" decimalOf,
      ← body.optionalField "currency" Currency.make,
      ← body.optionalField "evidence_digest" EvidenceContentDigest.make⟩
  snapshot.postInit
  return snapshot

def rateBody (r : CostRate Decimal) : Json :=
  .obj [("component", .str r.component.value),
    ("basis_points", .str r.basisPoints.str),
    ("provenance", .str r.provenance.value),
    ("evidence_digest", .str r.evidenceDigest.value)]

def rateOf (item : Json) : Outcome (CostRate Decimal) := do
  let rate : CostRate Decimal :=
    ⟨← costComponentOf (← item.textField "component"),
      ← decimalOf (← item.textField "basis_points"),
      ← costProvenanceOf (← item.textField "provenance"),
      ← EvidenceContentDigest.make (← item.textField "evidence_digest")⟩
  rate.postInit
  return rate

/-- `_model_body`. -/
def modelBody (m : ExecutionCostModel Decimal) : Json :=
  .obj [("model_id", .str m.modelId),
    ("scenario", .str m.scenario.value),
    ("diagnostic_only", .bool m.diagnosticOnly),
    ("rates", .arr (m.rates.map rateBody))]

/-- `_model`. -/
def modelOf (body : Json) : Outcome (ExecutionCostModel Decimal) := do
  let rates ← (← body.field "rates").toItems "cost rates are invalid"
  let model : ExecutionCostModel Decimal :=
    ⟨← body.textField "model_id",
      ← costScenarioOf (← body.textField "scenario"),
      ← rates.mapM rateOf,
      (← body.field "diagnostic_only").truthy⟩
  model.postInit
  return model

/-! ## The identity of a fill -/

/-- `_time`: `strftime("%Y-%m-%dT%H:%M:%S.%fZ")`. -/
def timeText (t : Timestamp) : String :=
  let v := t.value
  String.ofList (Text.zfill 4 v.year ++ '-' :: (Text.zfill 2 v.month ++ '-' :: (Text.zfill 2 v.day ++
    'T' :: (Text.zfill 2 v.hour ++ ':' :: (Text.zfill 2 v.minute ++ ':' :: (Text.zfill 2 v.second ++
      '.' :: (Text.zfill 6 v.microsecond ++ ['Z'])))))))

/-- `_uuid(fill_body)`. -/
def fillIdentity (py : Platform) (b : FillBody Decimal) : Outcome Uuid :=
  py.uuid (.obj [("cost_model_id", .str b.costModelId),
    ("evidence_digest", .str b.evidenceDigest.value),
    ("execution_at", .str (timeText b.executionAt)),
    ("execution_price", .str b.executionPrice.str),
    ("fill_sequence", .int b.fillSequence),
    ("order_id", .str b.orderId.value.str),
    ("quantity", .str b.quantity.str)])

/-! ## States

`_normal`: a dataclass is written as its name and its fields. -/

def dataclass (type : String) (fields : List (String × Json)) : Json :=
  .obj [("type", .str type), ("fields", .obj fields)]

/-- A dataclass with one field, `value`. -/
def valueClass (type value : String) : Json := dataclass type [("value", .str value)]

def normalUuid (type : String) (u : Uuid) : Json := valueClass type u.str

def normalCurrency (c : Currency) : Json := dataclass "Currency" [("code", .str c.code)]

def normalTimestamp (t : Timestamp) : Json := valueClass "Timestamp" t.value.isoformat

def normalRun (r : ResearchRunId) : Json := valueClass "ResearchRunId" r.value

def normalDigest (d : EvidenceContentDigest) : Json := valueClass "EvidenceContentDigest" d.value

def normalDecimal (d : Decimal) : Json := .str d.str

def normalTexts (l : List String) : Json := .arr (l.map .str)

def normalOrder (o : SimulatedOrder Decimal) : Json :=
  dataclass "SimulatedOrder" [("order_id", normalUuid "OrderId" o.orderId.value),
    ("instrument_id", normalUuid "InstrumentId" o.instrumentId.value),
    ("side", .str o.side.value),
    ("quantity", normalDecimal o.quantity),
    ("currency", normalCurrency o.currency),
    ("release_at", normalTimestamp o.releaseAt),
    ("research_run_id", normalRun o.researchRunId),
    ("evidence_digest", normalDigest o.evidenceDigest),
    ("eligibility_state", .str o.eligibilityState.value),
    ("eligibility_reasons", normalTexts o.eligibilityReasons),
    ("eligibility_observation_id", .str o.eligibilityObservationId),
    ("decision_time", normalTimestamp o.decisionTime)]

def normalRecord (r : OrderRecord Decimal) : Json :=
  dataclass "OrderRecord" [("order", normalOrder r.order),
    ("status", .str r.status.value),
    ("filled_quantity", normalDecimal r.filledQuantity),
    ("reasons", normalTexts r.reasons)]

def normalCosts (c : CostBreakdown Decimal) : Json :=
  dataclass "CostBreakdown" [("commission_fees", normalDecimal c.commissionFees),
    ("bid_ask_spread", normalDecimal c.bidAskSpread),
    ("slippage", normalDecimal c.slippage),
    ("market_impact", normalDecimal c.marketImpact),
    ("additional_friction", normalDecimal c.additionalFriction)]

def normalFill (f : SimulatedFill Decimal) : Json :=
  dataclass "SimulatedFill" [("fill_id", normalUuid "TradeId" f.fillId.value),
    ("order_id", normalUuid "OrderId" f.orderId.value),
    ("instrument_id", normalUuid "InstrumentId" f.instrumentId.value),
    ("side", .str f.side.value),
    ("quantity", normalDecimal f.quantity),
    ("execution_price", normalDecimal f.executionPrice),
    ("execution_at", normalTimestamp f.executionAt),
    ("currency", normalCurrency f.currency),
    ("execution_evidence", normalDigest f.executionEvidence),
    ("cost_model_id", .str f.costModelId),
    ("cost_scenario", .str f.costScenario.value),
    ("costs", normalCosts f.costs),
    ("research_run_id", normalRun f.researchRunId)]

def normalAttempt (a : ExecutionAttempt Decimal) : Json :=
  dataclass "ExecutionAttempt" [("order_id", normalUuid "OrderId" a.orderId.value),
    ("requested_quantity", normalDecimal a.requestedQuantity),
    ("outcome", .str a.outcome.value),
    ("reasons", normalTexts a.reasons),
    ("fill_id", .ofOption (fun i => normalUuid "TradeId" i.value) a.fillId)]

def normalOms (oms : SimulatedOms Decimal) : Json :=
  dataclass "SimulatedOms" [("orders", .arr (oms.orders.map normalRecord)),
    ("fills", .arr (oms.fills.map normalFill)),
    ("attempts", .arr (oms.attempts.map normalAttempt)),
    ("authority", .str oms.authority)]

def normalEvent (e : FinancialEvent Decimal) : Json :=
  dataclass "FinancialEvent" [("event_id", valueClass "LedgerEventId" e.eventId.value),
    ("sequence", .int e.sequence),
    ("occurred_at", normalTimestamp e.occurredAt),
    ("kind", .str e.kind.value),
    ("research_run_id", normalRun e.researchRunId),
    ("evidence_digest", normalDigest e.evidenceDigest),
    ("currency", .ofOption normalCurrency e.currency),
    ("instrument_id", .ofOption (fun i => normalUuid "InstrumentId" i.value) e.instrumentId),
    ("quantity", .ofOption normalDecimal e.quantity),
    ("unit_amount", .ofOption normalDecimal e.unitAmount),
    ("cash_delta", .ofOption normalDecimal e.cashDelta),
    ("corporate_action_version_id",
      .ofOption (fun a => valueClass "ActionVersionId" a.value) e.corporateActionVersionId)]

def normalPosition (p : PositionState Decimal) : Json :=
  dataclass "PositionState" [("instrument_id", normalUuid "InstrumentId" p.instrumentId.value),
    ("quantity", normalDecimal p.quantity),
    ("cost_basis", normalDecimal p.costBasis),
    ("mark_price", normalDecimal p.markPrice),
    ("realised_pnl", normalDecimal p.realisedPnl)]

def normalState (s : LedgerState Decimal) : Json :=
  dataclass "LedgerState" [("currency", normalCurrency s.currency),
    ("cash", normalDecimal s.cash),
    ("positions", .arr (s.positions.map normalPosition)),
    ("realised_pnl", normalDecimal s.realisedPnl),
    ("unrealised_pnl", normalDecimal s.unrealisedPnl),
    ("portfolio_value", normalDecimal s.portfolioValue)]

def normalLedger (l : SimulationLedger Decimal) : Json :=
  dataclass "SimulationLedger" [("currency", normalCurrency l.currency),
    ("events", .arr (l.events.map normalEvent)),
    ("state", normalState l.state),
    ("authority", .str l.authority)]

/-- `{"oms": _normal(oms), "ledger": _normal(ledger)}`. -/
def combinedState (oms : SimulatedOms Decimal) (ledger : SimulationLedger Decimal) : Json :=
  .obj [("oms", normalOms oms), ("ledger", normalLedger ledger)]

end ATB
