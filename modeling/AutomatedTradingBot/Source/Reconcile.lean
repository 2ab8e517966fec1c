import AutomatedTradingBot.Source.Execution

/-!
# Reconciliation and performance truth

`research/reconciliation_performance.py`. The list of discrepancies and the
`invalid` flag are the record `Findings` that each stage of `reconcile` extends;
the loop over the attempts carries a `Tally` with its counter and its cumulative
quantities. The values that `reconcile` receives need not have passed their
constructors. An exception that `reconcile` does not catch (a failed `assert` of
the replayed ledger) is its outcome.
-/

namespace ATB

def reconciliationAuthority : String := "RESEARCH_SIMULATION_TRUTH_NO_TRADING_AUTHORITY"

inductive ReconciliationState where
  | reconciled
  | discrepancy
  | invalidOrUnknown
deriving DecidableEq

inductive DiscrepancyCode where
  | missingOrder
  | missingFill
  | missingLedgerEvent
  | duplicateOrder
  | duplicateFill
  | duplicateLedgerPosting
  | identityMismatch
  | instrumentMismatch
  | quantityMismatch
  | sideMismatch
  | currencyMismatch
  | timingMismatch
  | attributionMismatch
  | costMismatch
  | ledgerStateMismatch
  | invalidInput
deriving DecidableEq

structure Discrepancy where
  code : DiscrepancyCode
  subject : String
deriving DecidableEq

inductive MetricAvailability where
  | notEstablished
deriving DecidableEq

/-- `CostDrag` has the fields and the total of a cost breakdown. -/
abbrev CostDrag := CostBreakdown

structure PerformanceTruth (D : Type) where
  grossPnl : D
  executionCostDrag : CostDrag D
  netPnl : D
  realisedPnl : D
  unrealisedPnl : D
  portfolioValue : D
  turnover : D
  participation : MetricAvailability
  capacity : MetricAvailability
deriving DecidableEq

structure ReconciliationResult (D : Type) where
  state : ReconciliationState
  discrepancies : List Discrepancy
  performance : Option (PerformanceTruth D)
  authority : String := reconciliationAuthority
deriving DecidableEq

/-! ## Findings -/

structure Findings where
  items : List Discrepancy := []
  invalid : Bool := false

namespace Findings

/-- `_add`. -/
def add (f : Findings) (code : DiscrepancyCode) (subject : String) : Findings :=
  if ⟨code, subject⟩ ∈ f.items then f else { f with items := f.items ++ [⟨code, subject⟩] }

/-- `if c: _add(...)`. -/
def addIf (f : Findings) (c : Prop) [Decidable c] (code : DiscrepancyCode) (subject : String) : Findings :=
  if c then f.add code subject else f

/-- An invalid input: noted, and the result can no longer be a discrepancy only. -/
def reject (f : Findings) (subject : String) : Findings := { f.add .invalidInput subject with invalid := true }

/-- `if c: _add(INVALID_INPUT, ...); invalid = True`. -/
def rejectIf (f : Findings) (c : Prop) [Decidable c] (subject : String) : Findings :=
  if c then f.reject subject else f

end Findings

variable {D : Type}

def performanceError (message : String) : PyError := ⟨.performanceTruthError, message⟩

/-! ## Validity of the received values -/

section Valid

variable [Zero D] [LE D] [LT D] [DecidableLE D] [DecidableLT D]

/-- `_valid_attempt`. -/
def ExecutionAttempt.valid (a : ExecutionAttempt D) : Bool := decide (0 < a.requestedQuantity)

/-- `_valid_order`. -/
def SimulatedOrder.valid (o : SimulatedOrder D) : Bool :=
  o.instrumentId.canonical && decide (0 < o.quantity) && o.currency.canonical &&
    o.researchRunId.canonical && o.evidenceDigest.canonical && decide (o.eligibilityObservationId ≠ "")

/-- `_valid_order_record`. -/
def OrderRecord.valid (r : OrderRecord D) : Bool :=
  r.order.valid && decide (0 ≤ r.filledQuantity) && decide (r.filledQuantity ≤ r.order.quantity)

/-- `_valid_cost_breakdown`. -/
def CostBreakdown.valid (c : CostBreakdown D) : Bool :=
  [c.commissionFees, c.bidAskSpread, c.slippage, c.marketImpact, c.additionalFriction].all
    fun value => decide (¬ value < 0)

/-- `_valid_fill`. -/
def SimulatedFill.valid (f : SimulatedFill D) : Bool :=
  f.instrumentId.canonical && decide (0 < f.quantity) && decide (0 < f.executionPrice) &&
    f.currency.canonical && f.executionEvidence.canonical &&
    Text.fullmatch "atis:simulation-cost-model:v1:" Text.isTokenChar 1 160 f.costModelId &&
    f.costs.valid && f.researchRunId.canonical

end Valid

/-! ## Amounts -/

section Amounts

/-- `_validated_costs`. -/
def validatedCosts [Zero D] [LT D] [DecidableLT D] (costs : CostBreakdown D) : Outcome (CostDrag D) := do
  raiseIf (¬ costs.valid) (performanceError "cost components cannot be negative")
  return costs

variable [Zero D] [Add D] [Sub D] [Neg D] [Mul D] [Div D] [BEq D] [LE D] [LT D] [DecidableLE D] [DecidableLT D]

/-- `_expected_unit_amount`. -/
def expectedUnitAmount (fill : SimulatedFill D) : Outcome D := do
  let total := (← validatedCosts fill.costs).total
  raiseIf (fill.quantity ≤ 0) (performanceError "fill quantity must be positive")
  let perUnitCost ← divide total fill.quantity
  return match fill.side with
    | .buy => fill.executionPrice + perUnitCost
    | .sell => fill.executionPrice - perUnitCost

/-- `_finite(event.cash_delta, "cash_delta")` over the funding events, summed. -/
def fundingSum (events : List (FinancialEvent D)) : Outcome D :=
  (events.filter fun event => event.kind.funding).foldlM (fun total event => do
    return total + (← orRaise ⟨.typeError, "cash_delta must be a Decimal"⟩ event.cashDelta)) 0

/-- The loop of `_performance`: cost drag and turnover over the fills. -/
def dragAndTurnover (fills : List (SimulatedFill D)) : Outcome (CostDrag D × D) :=
  fills.foldlM (fun ((drag, turnover) : CostDrag D × D) (fill : SimulatedFill D) => do
    let costs ← validatedCosts fill.costs
    let magnitude := if fill.quantity < 0 then -fill.quantity else fill.quantity
    return (⟨drag.commissionFees + costs.commissionFees, drag.bidAskSpread + costs.bidAskSpread,
      drag.slippage + costs.slippage, drag.marketImpact + costs.marketImpact,
      drag.additionalFriction + costs.additionalFriction⟩, turnover + magnitude * fill.executionPrice))
    (⟨0, 0, 0, 0, 0⟩, 0)

/-- `_performance`. -/
def performance (oms : SimulatedOms D) (ledger : SimulationLedger D) : Outcome (PerformanceTruth D) := do
  let (drag, turnover) ← dragAndTurnover oms.fills
  let funding ← fundingSum ledger.events
  let portfolio := ledger.state.portfolioValue
  let net := portfolio - funding
  let gross := net + drag.total
  raiseIf (gross - drag.total != net) (performanceError "gross/net performance does not reconcile")
  return ⟨gross, drag, net, ledger.state.realisedPnl, ledger.state.unrealisedPnl, portfolio, turnover,
    .notEstablished, .notEstablished⟩

end Amounts

/-! ## The stages of `reconcile` -/

/-- `_fill_events`. -/
def fillEvents (ledger : SimulationLedger D) : List (FinancialEvent D) :=
  ledger.events.filter fun event => Text.startsWith event.eventId.value fillEventLead

/-- The key of the event that posts a fill. -/
def SimulatedFill.eventKey (f : SimulatedFill D) : String := fillEventLead ++ f.fillId.value.hex

/-- What the loop over the attempts carries. -/
structure Tally (D : Type) where
  findings : Findings
  fillAttempts : List (TradeId × Nat) := []
  cumulative : List (OrderId × D) := []

section Stages

variable [Zero D] [Add D] [Sub D] [Neg D] [Mul D] [Div D] [BEq D] [LE D] [LT D] [DecidableLE D] [DecidableLT D]

/-- The ledger replays to its state. -/
def checkLedger (ledger : SimulationLedger D) : Outcome Findings :=
  match SimulationLedger.replay ledger.currency ledger.events with
  | .ok replayed => .ok (Findings.addIf {} (replayed.state != ledger.state) .ledgerStateMismatch "replay")
  | .error e => if e.cls.caught then .ok (Findings.reject {} "ledger") else .error e

/-- Orders and fills hold valid values. -/
def checkValues (oms : SimulatedOms D) (f : Findings) : Findings :=
  (f.rejectIf (¬ ∀ record ∈ oms.orders, record.valid) "orders").rejectIf
    (¬ ∀ fill ∈ oms.fills, fill.valid) "fills"

/-- One stage over the items of a counter. -/
def checkCounts {κ : Type} [DecidableEq κ] (code : DiscrepancyCode) (str : κ → String) (l : List κ)
    (f : Findings) : Findings :=
  (Dict.counter l).foldl (fun f (key, count) => f.addIf (count ≠ 1) code (str key)) f

/-- Orders, fills and postings occur once. -/
def checkIdentities (oms : SimulatedOms D) (ledger : SimulationLedger D) (f : Findings) : Findings :=
  checkCounts .duplicateLedgerPosting LedgerEventId.str ((fillEvents ledger).map FinancialEvent.eventId) <|
  checkCounts .duplicateFill TradeId.str (oms.fills.map SimulatedFill.fillId) <|
  checkCounts .duplicateOrder OrderId.str (oms.orders.map fun record => record.order.orderId) f

/-- One iteration over the attempts. -/
def Tally.attempt (orders : List (OrderId × OrderRecord D)) (fills : List (TradeId × SimulatedFill D))
    (t : Tally D) (a : ExecutionAttempt D) : Tally D :=
  let record := Dict.get? a.orderId orders
  let done := (Dict.get? a.orderId t.cumulative).getD 0
  let subject := "attempt:" ++ a.orderId.str
  let found := match record with
    | none => t.findings.add .missingOrder a.orderId.str
    | some r => t.findings.addIf (r.order.quantity - done < a.requestedQuantity) .quantityMismatch subject
  match a.fillId with
  | none =>
    let unexplained := a.reasons = [] ∨ ∃ reason ∈ a.reasons, ¬ Text.nonblank reason
    let found :=
      if a.outcome ≠ .unfilled then found.add .identityMismatch subject
      else found.addIf unexplained .attributionMismatch subject
    { t with findings := found }
  | some fillId =>
    let subject := "attempt:" ++ fillId.str
    let count := (Dict.get? fillId t.fillAttempts).getD 0 + 1
    let fillAttempts := Dict.set fillId count t.fillAttempts
    let wrongOutcome := a.outcome ≠ .partiallyFilled ∧ a.outcome ≠ .fullyFilled
    let found := found.addIf wrongOutcome .identityMismatch subject
    let found := found.addIf (a.reasons ≠ []) .attributionMismatch subject
    match Dict.get? fillId fills with
    | none => { t with findings := found.add .missingFill fillId.str, fillAttempts := fillAttempts }
    | some fill =>
      let found := found.addIf (fill.orderId ≠ a.orderId) .identityMismatch subject
      if fill.quantity ≤ 0 then
        { t with findings := found.reject fillId.str, fillAttempts := fillAttempts }
      else
        let found := found.addIf (a.requestedQuantity < fill.quantity) .quantityMismatch subject
        match record with
        | none => { t with findings := found, fillAttempts := fillAttempts }
        | some r =>
          if fill.orderId ≠ a.orderId then { t with findings := found, fillAttempts := fillAttempts }
          else
            let cumulative := done + fill.quantity
            let expected := if cumulative == r.order.quantity then OrderStatus.fullyFilled else .partiallyFilled
            let wrongTotal := r.order.quantity < cumulative ∨ a.outcome ≠ expected
            let consistent := count = 1 ∧ ¬ wrongOutcome ∧ a.reasons = [] ∧
              ¬ a.requestedQuantity < fill.quantity ∧
              ¬ r.order.quantity - done < a.requestedQuantity ∧ ¬ wrongTotal
            { findings := found.addIf wrongTotal .quantityMismatch subject
              fillAttempts := fillAttempts
              cumulative := if consistent then Dict.set a.orderId cumulative t.cumulative else t.cumulative }

/-- The posted event of a fill. -/
def checkEvent (fill : SimulatedFill D) (event : FinancialEvent D) (f : Findings) : Findings :=
  let subject := fill.fillId.value.hex
  let f := f.addIf (event.kind ≠ .trade) .identityMismatch subject
  let f := f.addIf (event.instrumentId ≠ some fill.instrumentId) .instrumentMismatch subject
  let f := f.addIf (event.quantity != some fill.signedQuantity) .quantityMismatch subject
  let f := f.addIf (event.currency ≠ some fill.currency) .currencyMismatch subject
  let f := f.addIf (event.occurredAt.value < fill.executionAt.value) .timingMismatch subject
  let f := f.addIf (event.researchRunId ≠ fill.researchRunId ∨ event.evidenceDigest ≠ fill.executionEvidence)
    .attributionMismatch subject
  match expectedUnitAmount fill with
  | .ok amount => f.addIf (event.unitAmount != some amount) .costMismatch subject
  | .error _ => f.reject subject

/-- One iteration over the fills. -/
def checkFill (orders : List (OrderId × OrderRecord D)) (events : List (String × FinancialEvent D))
    (fillAttempts : List (TradeId × Nat)) (f : Findings) (fill : SimulatedFill D) : Findings :=
  let subject := fill.fillId.value.hex
  match Dict.get? fill.orderId orders with
  | none => f.add .missingOrder subject
  | some record =>
    let order := record.order
    let f := f.addIf ((Dict.get? fill.fillId fillAttempts).getD 0 ≠ 1) .identityMismatch ("attempt:" ++ subject)
    let f := f.addIf (fill.instrumentId ≠ order.instrumentId) .instrumentMismatch subject
    let f := f.addIf (fill.side ≠ order.side) .sideMismatch subject
    let f := f.addIf (fill.currency ≠ order.currency) .currencyMismatch subject
    let f := f.addIf (fill.researchRunId ≠ order.researchRunId) .attributionMismatch subject
    let f := f.addIf (fill.executionAt.value ≤ order.releaseAt.value) .timingMismatch subject
    match Dict.get? fill.eventKey events with
    | none => f.add .missingLedgerEvent subject
    | some event => checkEvent fill event f

/-- One iteration over the orders. -/
def checkOrder (oms : SimulatedOms D) (f : Findings) : OrderId × OrderRecord D → Findings
  | (orderId, record) =>
    let total := sumBy SimulatedFill.quantity (oms.fills.filter fun fill => fill.orderId = orderId)
    let f := f.addIf (total != record.filledQuantity) .quantityMismatch orderId.str
    let f := f.addIf (¬ 0 < total ∧ (record.status = .partiallyFilled ∨ record.status = .fullyFilled))
      .quantityMismatch orderId.str
    let expected :=
      if 0 < total then
        if record.status = .cancelled ∧ total < record.order.quantity then .cancelled
        else if total == record.order.quantity then OrderStatus.fullyFilled else .partiallyFilled
      else record.status
    f.addIf (record.order.quantity < total ∨ expected ≠ record.status) .quantityMismatch orderId.str

/-- The findings over values that are valid. -/
def checkRelations (oms : SimulatedOms D) (ledger : SimulationLedger D) (f : Findings) : Findings :=
  let f := checkIdentities oms ledger f
  let orders := Dict.ofKeys (fun record : OrderRecord D => record.order.orderId) oms.orders
  let fills := Dict.ofKeys SimulatedFill.fillId oms.fills
  let events := Dict.ofKeys (fun event : FinancialEvent D => event.eventId.value) (fillEvents ledger)
  let tally := oms.attempts.foldl (Tally.attempt orders fills) { findings := f }
  let f := oms.fills.foldl (checkFill orders events tally.fillAttempts) tally.findings
  let f := (Dict.keys events).foldl
    (fun f key => f.addIf (key ∉ oms.fills.map SimulatedFill.eventKey) .missingFill key) f
  orders.foldl (checkOrder oms) f

/-- The result over the findings: performance only when there are none. -/
def conclude (oms : SimulatedOms D) (ledger : SimulationLedger D) (f : Findings) :
    Outcome (ReconciliationResult D) :=
  if f.invalid then .ok { state := .invalidOrUnknown, discrepancies := f.items, performance := none }
  else if f.items ≠ [] then .ok { state := .discrepancy, discrepancies := f.items, performance := none }
  else
    match performance oms ledger with
    | .ok truth => .ok { state := .reconciled, discrepancies := [], performance := some truth }
    | .error e =>
      if e.cls.caught then
        .ok { state := .invalidOrUnknown, discrepancies := [⟨.invalidInput, "performance"⟩], performance := none }
      else .error e

/-- `reconcile`. -/
def reconcile (oms : SimulatedOms D) (ledger : SimulationLedger D) : Outcome (ReconciliationResult D) := do
  let f := checkValues oms (← checkLedger ledger)
  if f.invalid then
    return { state := .invalidOrUnknown, discrepancies := f.items, performance := none }
  else if ¬ ∀ attempt ∈ oms.attempts, attempt.valid then
    let f := f.add .invalidInput "attempts"
    return { state := .invalidOrUnknown, discrepancies := f.items, performance := none }
  else conclude oms ledger (checkRelations oms ledger f)

end Stages

end ATB
