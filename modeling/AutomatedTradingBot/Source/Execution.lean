import AutomatedTradingBot.Source.Ledger

/-!
# The simulated OMS

`research/simulated_execution.py`: orders, fills, attempts, and the operations of
`SimulatedOms`. Amounts are of any type `D`, as in the ledger, and are finite.
Records are plain: what a constructor checks is its `postInit`, and the subtypes
`ConstructedOrder` and so on are the values that it accepts. The identity of a
fill, `_uuid(fill_body)`, is the parameter `identify`, a function of the values
that the body is written from.
-/

namespace ATB

def simulatedExecutionAuthority : String := "RESEARCH_SIMULATION_ONLY_NO_LIVE_TRADING_AUTHORITY"

inductive OrderStatus where
  | accepted
  | rejected
  | cancelled
  | unfilled
  | partiallyFilled
  | fullyFilled
deriving DecidableEq

def OrderStatus.value : OrderStatus → String
  | .accepted => "ACCEPTED"
  | .rejected => "REJECTED"
  | .cancelled => "CANCELLED"
  | .unfilled => "UNFILLED"
  | .partiallyFilled => "PARTIALLY_FILLED"
  | .fullyFilled => "FULLY_FILLED"

/-- `_TERMINAL`. -/
def OrderStatus.terminal : OrderStatus → Bool
  | .rejected | .cancelled | .unfilled | .fullyFilled => true
  | .accepted | .partiallyFilled => false

inductive ExecutionInputState where
  | available
  | unavailable
  | unknown
deriving DecidableEq

def ExecutionInputState.value : ExecutionInputState → String
  | .available => "AVAILABLE"
  | .unavailable => "UNAVAILABLE"
  | .unknown => "UNKNOWN"

inductive CostScenario where
  | ec0
  | ec1
  | ec2
  | ec3
deriving DecidableEq

def CostScenario.value : CostScenario → String
  | .ec0 => "EC0"
  | .ec1 => "EC1"
  | .ec2 => "EC2"
  | .ec3 => "EC3"

inductive CostProvenance where
  | observed
  | modelled
  | proxy
deriving DecidableEq

def CostProvenance.value : CostProvenance → String
  | .observed => "OBSERVED"
  | .modelled => "MODELLED"
  | .proxy => "PROXY"

inductive CostComponent where
  | commissionFees
  | bidAskSpread
  | slippage
  | marketImpact
  | additionalFriction
deriving DecidableEq

def CostComponent.value : CostComponent → String
  | .commissionFees => "COMMISSION_FEES"
  | .bidAskSpread => "BID_ASK_SPREAD"
  | .slippage => "SLIPPAGE"
  | .marketImpact => "MARKET_IMPACT"
  | .additionalFriction => "ADDITIONAL_FRICTION"

/-- `set(CostComponent)`. -/
def CostComponent.all : List CostComponent :=
  [.commissionFees, .bidAskSpread, .slippage, .marketImpact, .additionalFriction]

variable {D : Type}

def executionError (message : String) : PyError := ⟨.simulatedExecutionError, message⟩

/-- `_finite(value, name, positive=True)`. -/
def requirePositive [Zero D] [LE D] [DecidableLE D] (name : String) (value : D) : Outcome Unit :=
  raiseIf (value ≤ 0) (executionError (name ++ " must be positive and finite"))

def requireNonnegative [Zero D] [LT D] [DecidableLT D] (name : String) (value : D) : Outcome Unit :=
  raiseIf (value < 0) (executionError (name ++ " cannot be negative"))

/-! ## Costs -/

structure CostRate (D : Type) where
  component : CostComponent
  basisPoints : D
  provenance : CostProvenance
  evidenceDigest : EvidenceContentDigest
deriving BEq, ReflBEq, LawfulBEq, DecidableEq

/-- `CostRate.__post_init__`. -/
def CostRate.postInit [Zero D] [LT D] [DecidableLT D] (r : CostRate D) : Outcome Unit :=
  requireNonnegative "basis_points" r.basisPoints

structure CostBreakdown (D : Type) where
  commissionFees : D
  bidAskSpread : D
  slippage : D
  marketImpact : D
  additionalFriction : D
deriving BEq, ReflBEq, LawfulBEq, DecidableEq

/-- `CostBreakdown.total`. -/
def CostBreakdown.total [Add D] (c : CostBreakdown D) : D :=
  c.commissionFees + c.bidAskSpread + c.slippage + c.marketImpact + c.additionalFriction

/-- `_validate_cost_breakdown`. -/
def CostBreakdown.validate [Zero D] [LT D] [DecidableLT D] (c : CostBreakdown D) : Outcome Unit := do
  requireNonnegative "commission_fees" c.commissionFees
  requireNonnegative "bid_ask_spread" c.bidAskSpread
  requireNonnegative "slippage" c.slippage
  requireNonnegative "market_impact" c.marketImpact
  requireNonnegative "additional_friction" c.additionalFriction

/-- `_validate_cost_binding`. -/
def validateCostBinding (modelId : String) : Outcome Unit :=
  raiseIf (¬ Text.fullmatch "atis:simulation-cost-model:v1:" Text.isTokenChar 1 160 modelId)
    (executionError "cost_model_id is not canonical")

structure ExecutionCostModel (D : Type) where
  modelId : String
  scenario : CostScenario
  rates : List (CostRate D)
  diagnosticOnly : Bool
deriving BEq, ReflBEq, LawfulBEq, DecidableEq

namespace ExecutionCostModel

/-- `ExecutionCostModel.__post_init__`. -/
def postInit [Zero D] [BEq D] (m : ExecutionCostModel D) : Outcome Unit := do
  validateCostBinding m.modelId
  raiseIf (¬ ∀ c ∈ CostComponent.all, c ∈ m.rates.map CostRate.component)
    (executionError "cost model requires every cost component exactly once")
  raiseIf (m.rates.length ≠ CostComponent.all.length)
    (executionError "cost model contains duplicate components")
  let allZero := m.rates.all fun rate => rate.basisPoints == 0
  if m.scenario = .ec0 then
    raiseIf (!m.diagnosticOnly || !allZero)
      (executionError "EC0 must be zero-cost and diagnostic-only")
  else
    raiseIf (m.diagnosticOnly || allZero)
      (executionError "EC1-EC3 must be non-diagnostic with explicit cost")

/-- `ExecutionCostModel.calculate`. -/
def calculate [Zero D] [Mul D] [Div D] [NatCast D] [LE D] [LT D] [DecidableLE D] [DecidableLT D]
    (m : ExecutionCostModel D) (quantity price : D) : Outcome (CostBreakdown D) := do
  requirePositive "quantity" quantity
  requirePositive "price" price
  let notional := quantity * price
  let values := Dict.ofList (m.rates.map fun rate =>
    (rate.component, notional * rate.basisPoints / ((10000 : Nat) : D)))
  let value (c : CostComponent) := orRaise ⟨.keyError, c.value⟩ (Dict.get? c values)
  let costs : CostBreakdown D := ⟨← value .commissionFees, ← value .bidAskSpread, ← value .slippage,
    ← value .marketImpact, ← value .additionalFriction⟩
  costs.validate
  return costs

end ExecutionCostModel

/-! ## Orders, snapshots and fills -/

structure SimulatedOrder (D : Type) where
  orderId : OrderId
  instrumentId : InstrumentId
  side : OrderSide
  quantity : D
  currency : Currency
  releaseAt : Timestamp
  researchRunId : ResearchRunId
  evidenceDigest : EvidenceContentDigest
  eligibilityState : EligibilityState
  eligibilityReasons : List String
  eligibilityObservationId : String
  decisionTime : Timestamp
deriving BEq, ReflBEq, LawfulBEq, DecidableEq

/-- `SimulatedOrder.__post_init__`. -/
def SimulatedOrder.postInit [Zero D] [LE D] [DecidableLE D] (o : SimulatedOrder D) : Outcome Unit := do
  requirePositive "quantity" o.quantity
  raiseIf (o.eligibilityObservationId = "") (executionError "eligibility observation identity is required")

structure OrderRecord (D : Type) where
  order : SimulatedOrder D
  status : OrderStatus
  filledQuantity : D
  reasons : List String
deriving BEq, ReflBEq, LawfulBEq, DecidableEq

/-- `OrderRecord.remaining_quantity`. -/
def OrderRecord.remainingQuantity [Sub D] (r : OrderRecord D) : D := r.order.quantity - r.filledQuantity

structure ExecutionSnapshot (D : Type) where
  executionAt : Timestamp
  price : Option D
  priceAvailableAt : Option Timestamp
  securityState : ExecutionInputState
  liquidityState : ExecutionInputState
  availableQuantity : Option D
  currency : Option Currency
  evidenceDigest : Option EvidenceContentDigest
deriving BEq, ReflBEq, LawfulBEq, DecidableEq

/-- `ExecutionSnapshot.__post_init__`. -/
def ExecutionSnapshot.postInit [Zero D] [LE D] [DecidableLE D] (s : ExecutionSnapshot D) : Outcome Unit :=
  match s.price with
  | some price => requirePositive "price" price
  | none => pure ()

structure SimulatedFill (D : Type) where
  fillId : TradeId
  orderId : OrderId
  instrumentId : InstrumentId
  side : OrderSide
  quantity : D
  executionPrice : D
  executionAt : Timestamp
  currency : Currency
  executionEvidence : EvidenceContentDigest
  costModelId : String
  costScenario : CostScenario
  costs : CostBreakdown D
  researchRunId : ResearchRunId
deriving BEq, ReflBEq, LawfulBEq, DecidableEq

namespace SimulatedFill

variable [Zero D] [LE D] [LT D] [DecidableLE D] [DecidableLT D]

/-- The checks that `SimulatedFill.__post_init__` and `_validate_fill_payload` share;
they name the quantity differently. -/
def validate (quantityName : String) (f : SimulatedFill D) : Outcome Unit := do
  requirePositive quantityName f.quantity
  requirePositive "execution_price" f.executionPrice
  validateCostBinding f.costModelId
  f.costs.validate

/-- `SimulatedFill.__post_init__`. -/
def postInit : SimulatedFill D → Outcome Unit := validate "quantity"

/-- `_validate_fill_payload`. -/
def validatePayload : SimulatedFill D → Outcome Unit := validate "fill quantity"

end SimulatedFill

structure ExecutionAttempt (D : Type) where
  orderId : OrderId
  requestedQuantity : D
  outcome : OrderStatus
  reasons : List String
  fillId : Option TradeId := none
deriving BEq, ReflBEq, LawfulBEq, DecidableEq

/-- What the body of a fill's identity is written from. -/
structure FillBody (D : Type) where
  costModelId : String
  evidenceDigest : EvidenceContentDigest
  executionAt : Timestamp
  executionPrice : D
  fillSequence : Nat
  orderId : OrderId
  quantity : D

/-- `_execution_reasons`. -/
def executionReasons [Zero D] [LE D] [DecidableLE D] (order : SimulatedOrder D)
    (snapshot : ExecutionSnapshot D) : List String :=
  Text.sortedSet <|
    (match snapshot.price, snapshot.priceAvailableAt with
      | some _, some availableAt =>
        if snapshot.executionAt.value < availableAt.value then ["PRICE_NOT_AVAILABLE_AT_EXECUTION"] else []
      | _, _ => ["PRICE_UNAVAILABLE"]) ++
    (if snapshot.securityState ≠ .available then ["SECURITY_" ++ snapshot.securityState.value] else []) ++
    (if snapshot.liquidityState ≠ .available then ["LIQUIDITY_" ++ snapshot.liquidityState.value] else []) ++
    (if ∀ q ∈ snapshot.availableQuantity, q ≤ 0 then ["LIQUIDITY_QUANTITY_INVALID"] else []) ++
    (if snapshot.executionAt.value ≤ order.releaseAt.value then ["EXECUTION_NOT_AFTER_RELEASE"] else []) ++
    (match snapshot.currency with
      | none => ["CURRENCY_UNKNOWN"]
      | some c => if c ≠ order.currency then ["CURRENCY_MISMATCH"] else []) ++
    (if snapshot.evidenceDigest = none then ["EXECUTION_EVIDENCE_MISSING"] else [])

/-! ## The order management system -/

structure SimulatedOms (D : Type) where
  orders : List (OrderRecord D) := []
  fills : List (SimulatedFill D) := []
  attempts : List (ExecutionAttempt D) := []
  authority : String := simulatedExecutionAuthority
deriving BEq, ReflBEq, LawfulBEq, DecidableEq

namespace SimulatedOms

/-- `SimulatedOms.order`. -/
def order (oms : SimulatedOms D) (orderId : OrderId) : Option (OrderRecord D) :=
  oms.orders.find? fun record => record.order.orderId = orderId

/-- `_active`. -/
def active (oms : SimulatedOms D) (orderId : OrderId) : Outcome (OrderRecord D) := do
  let record ← orRaise (executionError "order does not exist") (oms.order orderId)
  raiseIf record.status.terminal (executionError "terminal order accepts no transition or fill")
  return record

/-- `_replace_order`: `old` is the record that `order` found, so it stands where the
first record of its identity does. -/
def replaceOrder (oms : SimulatedOms D) (old new : OrderRecord D) : SimulatedOms D :=
  let place := oms.orders.findIdx fun record => record.order.orderId = old.order.orderId
  { oms with orders := oms.orders.set place new }

/-- `SimulatedOms.submit`. -/
def submit [Zero D] [BEq D] (oms : SimulatedOms D) (order : SimulatedOrder D) : Outcome (SimulatedOms D) :=
  match oms.order order.orderId with
  | some existing => do
    raiseIf (existing.order != order) (executionError "order identity conflicts with immutable history")
    return oms
  | none =>
    let reasons := Text.sortedSet <| order.eligibilityReasons ++
      (if order.eligibilityState ≠ .eligible then ["INELIGIBLE_DECISION_INPUT"] else []) ++
      (if order.releaseAt.value ≤ order.decisionTime.value then ["ORDER_RELEASE_NOT_AFTER_DECISION"] else [])
    let status := if reasons = [] then OrderStatus.accepted else .rejected
    return { oms with orders := oms.orders ++ [⟨order, status, 0, reasons⟩] }

/-- `SimulatedOms.cancel`. -/
def cancel (oms : SimulatedOms D) (orderId : OrderId) : Outcome (SimulatedOms D) := do
  let record ← oms.active orderId
  return oms.replaceOrder record { record with status := .cancelled }

/-- `SimulatedOms.mark_unfilled`. -/
def markUnfilled [Zero D] [Sub D] [BEq D] (oms : SimulatedOms D) (orderId : OrderId) (reason : String) :
    Outcome (SimulatedOms D) := do
  let record ← oms.active orderId
  raiseIf (¬ Text.nonblank reason) (executionError "unfilled reason must be explicit")
  raiseIf (record.filledQuantity != 0)
    (executionError "UNFILLED requires zero executed quantity; cancel partial orders")
  let updated := { record with status := .unfilled, reasons := [reason] }
  let attempt := ⟨orderId, record.remainingQuantity, .unfilled, [reason], none⟩
  return { oms.replaceOrder record updated with attempts := oms.attempts ++ [attempt] }

variable [Zero D] [Add D] [Sub D] [Mul D] [Div D] [NatCast D] [BEq D] [LE D] [LT D] [DecidableLE D]
  [DecidableLT D]

/-- `SimulatedOms.apply_fill`. -/
def applyFill (oms : SimulatedOms D) (fill : SimulatedFill D) (requestedQuantity : Option D) :
    Outcome (SimulatedOms D) := do
  fill.validatePayload
  match oms.fills.find? fun value => value.fillId = fill.fillId with
  | some existing =>
    raiseIf (existing != fill) (executionError "fill identity conflicts with immutable history")
    return oms
  | none =>
    let record ← oms.active fill.orderId
    raiseIf (fill.instrumentId ≠ record.order.instrumentId ∨ fill.side ≠ record.order.side)
      (executionError "fill does not match its order")
    raiseIf (fill.currency ≠ record.order.currency)
      (executionError "fill currency does not match order currency")
    raiseIf (fill.researchRunId ≠ record.order.researchRunId)
      (executionError "fill research attribution does not match order")
    raiseIf (fill.executionAt.value ≤ record.order.releaseAt.value)
      (executionError "fill execution must be after order release")
    let cumulative := record.filledQuantity + fill.quantity
    raiseIf (record.order.quantity < cumulative) (executionError "fill would overfill order")
    let status := if cumulative == record.order.quantity then OrderStatus.fullyFilled else .partiallyFilled
    let updated := { record with status := status, filledQuantity := cumulative, reasons := [] }
    let requested := requestedQuantity.getD fill.quantity
    requirePositive "requested_quantity" requested
    raiseIf (requested < fill.quantity)
      (executionError "requested quantity cannot be below fill quantity")
    raiseIf (record.remainingQuantity < requested)
      (executionError "requested quantity exceeds remaining quantity")
    let attempt := ⟨fill.orderId, requested, status, [], some fill.fillId⟩
    return { oms.replaceOrder record updated with
      fills := oms.fills ++ [fill], attempts := oms.attempts ++ [attempt] }

/-- `SimulatedOms.execute`. -/
def execute (identify : FillBody D → Outcome Uuid) (oms : SimulatedOms D) (orderId : OrderId)
    (requestedQuantity : D) (snapshot : ExecutionSnapshot D) (costModel : ExecutionCostModel D) :
    Outcome (SimulatedOms D) := do
  let record ← oms.active orderId
  requirePositive "requested_quantity" requestedQuantity
  raiseIf (record.remainingQuantity < requestedQuantity)
    (executionError "requested fill would overfill order")
  let reasons := executionReasons record.order snapshot
  if reasons ≠ [] then
    let nextOms :=
      if record.filledQuantity == 0 then
        oms.replaceOrder record { record with status := .unfilled, reasons := reasons }
      else oms
    let attempt := ⟨orderId, requestedQuantity, .unfilled, reasons, none⟩
    return { nextOms with attempts := oms.attempts ++ [attempt] }
  else
    let available ← asserted snapshot.availableQuantity
    let price ← asserted snapshot.price
    let currency ← asserted snapshot.currency
    let evidence ← asserted snapshot.evidenceDigest
    let fillQuantity := if available < requestedQuantity then available else requestedQuantity
    if fillQuantity ≤ 0 then
      oms.markUnfilled orderId "NO_AVAILABLE_LIQUIDITY"
    else
      let costs ← costModel.calculate fillQuantity price
      let fillId ← identify
        ⟨costModel.modelId, evidence, snapshot.executionAt, price, oms.fills.length + 1, orderId, fillQuantity⟩
      let fill : SimulatedFill D := ⟨⟨fillId⟩, orderId, record.order.instrumentId, record.order.side,
        fillQuantity, price, snapshot.executionAt, currency, evidence, costModel.modelId,
        costModel.scenario, costs, record.order.researchRunId⟩
      fill.postInit
      oms.applyFill fill (some requestedQuantity)

end SimulatedOms

/-! ## Posting -/

/-- The text that starts the event ids of posted fills. -/
def fillEventLead : String := LedgerEventId.lead ++ "fill-"

/-- The cost-adjusted unit amount of a fill. -/
def SimulatedFill.unitAmount [Add D] [Sub D] [Div D] (fill : SimulatedFill D) : D :=
  let perUnitCost := fill.costs.total / fill.quantity
  match fill.side with
  | .buy => fill.executionPrice + perUnitCost
  | .sell => fill.executionPrice - perUnitCost

def SimulatedFill.signedQuantity [Neg D] (fill : SimulatedFill D) : D :=
  match fill.side with
  | .buy => fill.quantity
  | .sell => -fill.quantity

section Post

variable [Zero D] [Add D] [Sub D] [Neg D] [Mul D] [Div D] [BEq D] [LE D] [LT D] [DecidableLE D]
  [DecidableLT D]

/-- `post_fill_to_ledger`. -/
def postFillToLedger (ledger : SimulationLedger D) (fill : SimulatedFill D) : Outcome (SimulationLedger D) := do
  raiseIf (fill.currency ≠ ledger.currency)
    (executionError "fill currency does not match ledger currency")
  raiseIf (fill.quantity == 0) ⟨.arithmeticError, "division by zero"⟩
  raiseIf (fill.unitAmount ≤ 0) (executionError "cost-adjusted execution price must remain positive")
  let eventId ← LedgerEventId.make (fillEventLead ++ fill.fillId.value.hex)
  let event : FinancialEvent D :=
    { eventId := eventId, sequence := ledger.events.length + 1, occurredAt := fill.executionAt,
      kind := .trade, researchRunId := fill.researchRunId, evidenceDigest := fill.executionEvidence,
      currency := some fill.currency, instrumentId := some fill.instrumentId,
      quantity := some fill.signedQuantity, unitAmount := some fill.unitAmount }
  event.postInit
  ledger.apply event

end Post

/-! ## Calls

The values that a caller can pass are those that a constructor accepted, and so
are their parts. -/

section Calls

variable [Zero D] [LE D] [DecidableLE D]

/-- The order and its parts passed their constructors. -/
structure SimulatedOrder.Constructed (o : SimulatedOrder D) : Prop where
  instrumentId : o.instrumentId.canonical
  currency : o.currency.canonical
  researchRunId : o.researchRunId.canonical
  evidenceDigest : o.evidenceDigest.canonical
  postInit : o.postInit = .ok ()

/-- The snapshot and its parts passed their constructors. -/
structure ExecutionSnapshot.Constructed (s : ExecutionSnapshot D) : Prop where
  currency : ∀ c ∈ s.currency, c.canonical
  evidenceDigest : ∀ d ∈ s.evidenceDigest, d.canonical
  postInit : s.postInit = .ok ()

variable [BEq D] [LT D] [DecidableLT D]

/-- The cost model and its rates passed their constructors. -/
structure ExecutionCostModel.Constructed (m : ExecutionCostModel D) : Prop where
  evidenceDigest : ∀ rate ∈ m.rates, rate.evidenceDigest.canonical
  rates : ∀ rate ∈ m.rates, rate.postInit = .ok ()
  postInit : m.postInit = .ok ()

/-- The fill and its parts passed their constructors. -/
structure SimulatedFill.Constructed (f : SimulatedFill D) : Prop where
  instrumentId : f.instrumentId.canonical
  currency : f.currency.canonical
  executionEvidence : f.executionEvidence.canonical
  researchRunId : f.researchRunId.canonical
  postInit : f.postInit = .ok ()

variable (D) in
/-- A call of one of the operations of `SimulatedOms`. -/
inductive OmsCall where
  | submit (order : { o : SimulatedOrder D // o.Constructed })
  | cancel (orderId : OrderId)
  | markUnfilled (orderId : OrderId) (reason : String)
  | execute (orderId : OrderId) (requestedQuantity : D)
      (snapshot : { s : ExecutionSnapshot D // s.Constructed })
      (costModel : { m : ExecutionCostModel D // m.Constructed })
  | applyFill (fill : { f : SimulatedFill D // f.Constructed }) (requestedQuantity : Option D)

variable [Add D] [Sub D] [Mul D] [Div D] [NatCast D]

def OmsCall.perform (identify : FillBody D → Outcome Uuid) (oms : SimulatedOms D) :
    OmsCall D → Outcome (SimulatedOms D)
  | .submit order => oms.submit order
  | .cancel orderId => oms.cancel orderId
  | .markUnfilled orderId reason => oms.markUnfilled orderId reason
  | .execute orderId requested snapshot costModel =>
    oms.execute identify orderId requested snapshot costModel
  | .applyFill fill requested => oms.applyFill fill requested

/-- The value that a caller holds after a call: a call that raises leaves it. -/
def SimulatedOms.call (identify : FillBody D → Outcome Uuid) (oms : SimulatedOms D) (c : OmsCall D) :
    SimulatedOms D :=
  match c.perform identify oms with
  | .ok next => next
  | .error _ => oms

/-- A run of calls. -/
def SimulatedOms.run (identify : FillBody D → Outcome Uuid) (oms : SimulatedOms D) (calls : List (OmsCall D)) :
    SimulatedOms D :=
  calls.foldl (SimulatedOms.call identify) oms

end Calls

end ATB
