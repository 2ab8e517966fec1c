import Mathlib.Data.List.Sort
import AutomatedTradingBot.Framework.Dict
import AutomatedTradingBot.Source.Domain

/-!
# The simulation ledger

`research/simulation_ledger.py`. Amounts are of any type `D` with the arithmetic
that the code uses (exact rationals where a result reads `Decimal` as such, and
decimals with their textual form where the form matters). `transition` is
`_transition`, `apply` and `replay` are the methods of `SimulationLedger`, and
`FinancialEvent.postInit` is the check of the event's constructor. An
`assert` that fails raises `AssertionError`, and a division by zero
`ArithmeticError`.
-/

namespace ATB

def simulationOnlyAuthority : String := "RESEARCH_SIMULATION_ONLY_NO_TRADING_AUTHORITY"

inductive FinancialEventKind where
  | openingCash
  | cashAdjustment
  | trade
  | mark
  | cashDividend
  | split
deriving DecidableEq

def FinancialEventKind.value : FinancialEventKind → String
  | .openingCash => "OPENING_CASH"
  | .cashAdjustment => "CASH_ADJUSTMENT"
  | .trade => "TRADE"
  | .mark => "MARK"
  | .cashDividend => "CASH_DIVIDEND"
  | .split => "SPLIT"

structure LedgerEventId where
  value : String
deriving DecidableEq

def LedgerEventId.lead : String := "atis:simulation-ledger-event:v1:"

/-- `str(event_id)`. -/
def LedgerEventId.str (i : LedgerEventId) : String := "LedgerEventId(value='" ++ i.value ++ "')"

/-- `_EVENT_ID.fullmatch`. -/
def LedgerEventId.canonical (i : LedgerEventId) : Bool :=
  Text.fullmatch lead Text.isTokenChar 1 160 i.value

/-- `LedgerEventId(value)`. -/
def LedgerEventId.make (value : String) : Outcome LedgerEventId := do
  raiseIf (¬ LedgerEventId.canonical ⟨value⟩) ⟨.ledgerContractError, "event_id is not canonical"⟩
  return ⟨value⟩

structure FinancialEvent (D : Type) where
  eventId : LedgerEventId
  sequence : Nat
  occurredAt : Timestamp
  kind : FinancialEventKind
  researchRunId : ResearchRunId
  evidenceDigest : EvidenceContentDigest
  currency : Option Currency := none
  instrumentId : Option InstrumentId := none
  quantity : Option D := none
  unitAmount : Option D := none
  cashDelta : Option D := none
  corporateActionVersionId : Option ActionVersionId := none
deriving BEq, ReflBEq, LawfulBEq, DecidableEq

structure PositionState (D : Type) where
  instrumentId : InstrumentId
  quantity : D
  costBasis : D
  markPrice : D
  realisedPnl : D
deriving BEq, ReflBEq, LawfulBEq, DecidableEq

structure LedgerState (D : Type) where
  currency : Currency
  cash : D
  positions : List (PositionState D)
  realisedPnl : D
  unrealisedPnl : D
  portfolioValue : D
deriving BEq, ReflBEq, LawfulBEq, DecidableEq

structure SimulationLedger (D : Type) where
  currency : Currency
  events : List (FinancialEvent D)
  state : LedgerState D
  authority : String := simulationOnlyAuthority
deriving BEq, ReflBEq, LawfulBEq, DecidableEq

variable {D : Type}

/-! ## The constructor of an event -/

namespace FinancialEventKind

/-- `monetary_kinds`. -/
def monetary : FinancialEventKind → Bool
  | .split => false
  | _ => true

/-- `instrument_required`. -/
def instrumentRequired : FinancialEventKind → Bool
  | .trade | .mark | .cashDividend | .split => true
  | _ => false

/-- The kinds that fund the account. -/
def funding : FinancialEventKind → Bool
  | .openingCash | .cashAdjustment => true
  | _ => false

end FinancialEventKind

namespace FinancialEvent

variable (e : FinancialEvent D)

def contract (message : String) : PyError := ⟨.ledgerContractError, message⟩

/-- `_forbid`: the named fields that must be absent. -/
def forbid (quantity unitAmount cashDelta action : Bool) : Outcome Unit :=
  let present :=
    (if quantity && e.quantity.isSome then ["quantity"] else []) ++
    (if unitAmount && e.unitAmount.isSome then ["unit_amount"] else []) ++
    (if cashDelta && e.cashDelta.isSome then ["cash_delta"] else []) ++
    (if action && e.corporateActionVersionId.isSome then ["corporate_action_version_id"] else [])
  raiseIf (present ≠ []) (contract (e.kind.value ++ " forbids " ++ ", ".intercalate present))

/-- `_require_action`. -/
def requireAction : Outcome Unit :=
  raiseIf (e.corporateActionVersionId = none)
    (contract (e.kind.value ++ " requires corporate-action attribution"))

variable [Zero D] [BEq D] [LE D] [LT D] [DecidableLE D] [DecidableLT D]

/-- The last part of `_validate_shape`: the amounts that a kind carries. -/
def validateAmounts : Outcome Unit :=
  match e.kind with
  | .openingCash | .cashAdjustment => do
    raiseIf (∀ v ∈ e.cashDelta, v == 0) (contract (e.kind.value ++ " requires nonzero cash_delta"))
    e.forbid true true false true
  | .trade => do
    raiseIf (∀ v ∈ e.quantity, v == 0) (contract "TRADE requires nonzero quantity")
    raiseIf (∀ v ∈ e.unitAmount, v ≤ 0) (contract "TRADE requires positive unit_amount")
    e.forbid false false true true
  | .mark => do
    raiseIf (∀ v ∈ e.unitAmount, v < 0) (contract "MARK requires nonnegative unit_amount")
    e.forbid true false true true
  | .cashDividend => do
    raiseIf (∀ v ∈ e.unitAmount, v < 0) (contract "CASH_DIVIDEND requires nonnegative unit_amount")
    e.requireAction
    e.forbid true false true false
  | .split => do
    raiseIf (∀ v ∈ e.quantity, v ≤ 0) (contract "SPLIT requires a positive factor in quantity")
    e.requireAction
    e.forbid false true true false

/-- `_validate_shape`. -/
def validateShape : Outcome Unit := do
  (if e.kind.monetary then
      raiseIf (e.currency = none) (contract (e.kind.value ++ " requires explicit currency"))
    else raiseIf (e.currency ≠ none) (contract (e.kind.value ++ " forbids currency")) : Outcome Unit)
  (if e.kind.instrumentRequired then
      raiseIf (e.instrumentId = none) (contract (e.kind.value ++ " requires instrument_id"))
    else raiseIf (e.instrumentId ≠ none) (contract (e.kind.value ++ " forbids instrument_id")) : Outcome Unit)
  e.validateAmounts

/-- `FinancialEvent.__post_init__`. -/
def postInit : Outcome Unit := do
  raiseIf (e.sequence < 1) (contract "sequence must be a positive integer")
  e.validateShape

end FinancialEvent

/-- An event that its constructor accepted. -/
abbrev ConstructedEvent (D : Type) [Zero D] [BEq D] [LE D] [LT D] [DecidableLE D] [DecidableLT D] :=
  { e : FinancialEvent D // e.postInit = .ok () }

/-! ## Positions -/

namespace PositionState

variable [Mul D] [Sub D]

def marketValue (p : PositionState D) : D := p.quantity * p.markPrice

def unrealisedPnl (p : PositionState D) : D := p.marketValue - p.costBasis

end PositionState

/-- `LedgerState.position`. -/
def LedgerState.position (s : LedgerState D) (instrumentId : InstrumentId) : Option (PositionState D) :=
  s.positions.find? fun item => item.instrumentId = instrumentId

/-- `sum((f(x) for x in l), Decimal(0))`. -/
def sumBy [Zero D] [Add D] {α : Type} (f : α → D) (l : List α) : D := l.foldl (fun a x => a + f x) 0

/-! ## Transitions -/

section Transition

variable [Zero D] [Add D] [Sub D] [Neg D] [Mul D] [Div D] [BEq D] [LE D] [LT D]
  [DecidableLE D] [DecidableLT D]

/-- An `assert` on an optional field. -/
def asserted {α : Type} : Option α → Outcome α := orRaise ⟨.assertionError, ""⟩

/-- `a / b`, which raises when `b` is zero. -/
def divide (a b : D) : Outcome D := do
  raiseIf (b == 0) ⟨.arithmeticError, "division by zero"⟩
  return a / b

/-- The state that a transition returns from its cash and positions: positions
sorted by instrument, and the totals over them. -/
def settle (currency : Currency) (cash : D) (positions : List (InstrumentId × PositionState D)) :
    Outcome (LedgerState D) := do
  let ordered := (Dict.values positions).insertionSort
    fun a b => a.instrumentId.toString ≤ b.instrumentId.toString
  let realised := sumBy PositionState.realisedPnl ordered
  let unrealised := sumBy PositionState.unrealisedPnl ordered
  let marketValue := sumBy PositionState.marketValue ordered
  let portfolioValue := cash + marketValue
  raiseIf (portfolioValue != cash + marketValue)
    ⟨.ledgerContractError, "portfolio value does not reconcile"⟩
  return ⟨currency, cash, ordered, realised, unrealised, portfolioValue⟩

/-- The position of a held instrument, or `message`. -/
def held (positions : List (InstrumentId × PositionState D)) (instrumentId : InstrumentId)
    (message : String) : Outcome (PositionState D) := do
  let old ← orRaise (FinancialEvent.contract message) (Dict.get? instrumentId positions)
  raiseIf (old.quantity == 0) (FinancialEvent.contract message)
  return old

/-- The `TRADE` branch: the position of the instrument after the trade. -/
def tradePosition (old : PositionState D) (instrumentId : InstrumentId) (quantity unitAmount : D) :
    Outcome (PositionState D) := do
  let newQuantity := old.quantity + quantity
  raiseIf (newQuantity < 0)
    (FinancialEvent.contract "trade would create an unsupported short position")
  let (costBasis, realised) ←
    if 0 < quantity then
      pure (old.costBasis + quantity * unitAmount, old.realisedPnl)
    else do
      raiseIf (old.quantity == 0) (FinancialEvent.contract "cannot sell an empty position")
      let sold := -quantity
      let averageCost ← divide old.costBasis old.quantity
      pure (old.costBasis - averageCost * sold, old.realisedPnl + (unitAmount - averageCost) * sold)
  let costBasis := if newQuantity == 0 then 0 else costBasis
  return ⟨instrumentId, newQuantity, costBasis, unitAmount, realised⟩

/-- `_transition`. -/
def transition (state : LedgerState D) (event : FinancialEvent D) : Outcome (LedgerState D) := do
  let positions := Dict.ofKeys PositionState.instrumentId state.positions
  match event.kind with
  | .openingCash | .cashAdjustment =>
    let delta ← asserted event.cashDelta
    settle state.currency (state.cash + delta) positions
  | .trade =>
    let instrumentId ← asserted event.instrumentId
    let quantity ← asserted event.quantity
    let unitAmount ← asserted event.unitAmount
    let old := (Dict.get? instrumentId positions).getD ⟨instrumentId, 0, 0, unitAmount, 0⟩
    let new ← tradePosition old instrumentId quantity unitAmount
    settle state.currency (state.cash - quantity * unitAmount) (Dict.set instrumentId new positions)
  | .mark =>
    let instrumentId ← asserted event.instrumentId
    let unitAmount ← asserted event.unitAmount
    let old ← held positions instrumentId "cannot mark an unknown or empty position"
    settle state.currency state.cash (Dict.set instrumentId { old with markPrice := unitAmount } positions)
  | .cashDividend =>
    let instrumentId ← asserted event.instrumentId
    let unitAmount ← asserted event.unitAmount
    let old ← held positions instrumentId "cannot pay a dividend on an unknown or empty position"
    let income := old.quantity * unitAmount
    settle state.currency (state.cash + income)
      (Dict.set instrumentId { old with realisedPnl := old.realisedPnl + income } positions)
  | .split =>
    let instrumentId ← asserted event.instrumentId
    let quantity ← asserted event.quantity
    let old ← held positions instrumentId "cannot split an unknown or empty position"
    let markPrice ← divide old.markPrice quantity
    settle state.currency state.cash
      (Dict.set instrumentId { old with quantity := old.quantity * quantity, markPrice := markPrice } positions)

namespace SimulationLedger

/-- `SimulationLedger.empty`. -/
def empty (currency : Currency) : SimulationLedger D :=
  ⟨currency, [], ⟨currency, 0, [], 0, 0, 0⟩, simulationOnlyAuthority⟩

/-- `SimulationLedger.apply`. -/
def apply (ledger : SimulationLedger D) (event : FinancialEvent D) : Outcome (SimulationLedger D) := do
  raiseIf (event.currency ≠ none ∧ event.currency ≠ some ledger.currency)
    (FinancialEvent.contract "event currency does not match ledger currency")
  match ledger.events.find? fun item => item.eventId = event.eventId with
  | some existing =>
    raiseIf (existing != event) (FinancialEvent.contract "event_id conflicts with immutable history")
    return ledger
  | none =>
    raiseIf (event.sequence ≠ ledger.events.length + 1)
      (FinancialEvent.contract "event sequence is not contiguous")
    raiseIf (ledger.events = [] ∧ event.kind ≠ .openingCash)
      (FinancialEvent.contract "first event must establish attributable opening cash")
    raiseIf (ledger.events ≠ [] ∧ event.kind = .openingCash)
      (FinancialEvent.contract "opening cash may be established only once")
    let nextState ← transition ledger.state event
    return ⟨ledger.currency, ledger.events ++ [event], nextState, simulationOnlyAuthority⟩

/-- `SimulationLedger.replay`. -/
def replay (currency : Currency) (events : List (FinancialEvent D)) : Outcome (SimulationLedger D) :=
  events.foldlM apply (empty currency)

end SimulationLedger

end Transition

end ATB
