import Mathlib.Data.Finset.Dedup
import AutomatedTradingBot.Source.Portfolio

/-!
# The commitment book

`research/portfolio_construction.py`: reservations of cash and holdings, their
records, and the operations of a book. A record carries the request that it was
reserved from, a request may carry a rebalance schedule, and a schedule retains the
book that it was made for, so the four types are mutually recursive, and the
constructor of a book rebuilds every schedule in it (`rebuildSchedule`).

`PortfolioEnvironment` is what the book's code calls and this module does not fix:
the digests, and the calendar part of `schedule_monthly_rebalance`, which reads the
supplied calendar inputs and sessions (a value of `C`) and gives the release time and
the dates of the two sessions. Nothing is assumed of them.
-/

namespace ATB

inductive CommitmentSide where
  | buy
  | sell
deriving DecidableEq

def CommitmentSide.value : CommitmentSide → String
  | .buy => "BUY"
  | .sell => "SELL"

inductive CommitmentState where
  | reserved
  | partiallyFilled
  | released
deriving DecidableEq

/-- A ceiling carries what its constructor checks. -/
structure PriceCostCeiling where
  upperPrice : ℚ
  availableAt : Timestamp
  evidenceDigest : EvidenceContentDigest
  currency : Currency
  current : Bool
  costModel : ExecutionCostModel ℚ
  positive : 0 < upperPrice
deriving DecidableEq

/-- The fields of a request but its schedule. -/
structure CommitmentOrder where
  strategyId : String
  order : SimulatedOrder ℚ
  priceCostCeiling : Option PriceCostCeiling := none
  holdingsLedger : Option (SimulationLedger ℚ) := none
  holdingsAsOf : Option Timestamp := none
  holdingsOms : Option (SimulatedOms ℚ) := none
  holdingsReconciliation : Option (ReconciliationResult ℚ) := none
  executionCostModel : Option (ExecutionCostModel ℚ) := none
deriving DecidableEq

/-- The fields of a record but its request and its digest. -/
structure CommitmentEntry where
  sequence : Nat
  strategyId : String
  researchRunId : String
  orderId : OrderId
  instrumentId : InstrumentId
  side : CommitmentSide
  quantity : ℚ
  filledQuantity : ℚ
  reservedCash : ℚ
  reservedHolding : ℚ
  actualCashEffect : ℚ
  state : CommitmentState
  upperPrice : Option ℚ
  unitCashCeiling : Option ℚ
  costModelId : Option String
  ceilingEvidenceDigest : Option String
  orderStatus : OrderStatus
  predecessorDigest : Option String
  originalOrder : SimulatedOrder ℚ
  costModel : ExecutionCostModel ℚ
  sourceOms : Option (SimulatedOms ℚ)
  sourceLedger : Option (SimulationLedger ℚ)
deriving DecidableEq

/-- The fields of a schedule but the book that it retains and its digest. The
calendar inputs and the two sessions are `calendar`. -/
structure ScheduleEntry (C : Type) where
  sourceOms : SimulatedOms ℚ
  sourceLedger : SimulationLedger ℚ
  calendar : C
  decisionTime : Timestamp
  releaseTime : Timestamp
  finalSessionDate : String
  nextSessionDate : String
  preservedObligations : List String
  removedStrategies : List String
  authority : String := portfolioAuthority
deriving DecidableEq

mutual

structure CommitmentRequest (C : Type) extends CommitmentOrder where
  schedule : Option (RebalanceSchedule C)

structure CommitmentRecord (C : Type) extends CommitmentEntry where
  reservationRequest : Option (CommitmentRequest C)
  recordDigest : String

structure CommitmentBook (C : Type) where
  allocation : PortfolioAllocation
  admissions : List PortfolioAdmission
  records : List (CommitmentRecord C)
  evidenceDigest : String
  authority : String
  removedStrategies : List String
  rebalanceTransitions : List (RebalanceSchedule C)

structure RebalanceSchedule (C : Type) extends ScheduleEntry C where
  retainedBook : CommitmentBook C
  evidenceDigest : String

end

/-! ## Equality

The comparisons of the source are of whole values, retained books included. -/

section Equality

variable {C : Type} [DecidableEq C]

mutual

def CommitmentRequest.decideEq : (a b : CommitmentRequest C) → Decidable (a = b)
  | ⟨h, s⟩, ⟨h', s'⟩ =>
    haveI := decideEqSchedule? s s'
    decidable_of_iff (h = h' ∧ s = s') (CommitmentRequest.mk.injEq h s h' s' ▸ Iff.rfl)

def decideEqSchedule? : (a b : Option (RebalanceSchedule C)) → Decidable (a = b)
  | none, none => .isTrue rfl
  | some a, some b =>
    haveI := RebalanceSchedule.decideEq a b
    decidable_of_iff (a = b) (Option.some.injEq a b ▸ Iff.rfl)
  | none, some _ => .isFalse nofun
  | some _, none => .isFalse nofun

def CommitmentRecord.decideEq : (a b : CommitmentRecord C) → Decidable (a = b)
  | ⟨h, r, d⟩, ⟨h', r', d'⟩ =>
    haveI := decideEqRequest? r r'
    decidable_of_iff (h = h' ∧ r = r' ∧ d = d') (CommitmentRecord.mk.injEq h r d h' r' d' ▸ Iff.rfl)

def decideEqRequest? : (a b : Option (CommitmentRequest C)) → Decidable (a = b)
  | none, none => .isTrue rfl
  | some a, some b =>
    haveI := CommitmentRequest.decideEq a b
    decidable_of_iff (a = b) (Option.some.injEq a b ▸ Iff.rfl)
  | none, some _ => .isFalse nofun
  | some _, none => .isFalse nofun

def decideEqRecords : (a b : List (CommitmentRecord C)) → Decidable (a = b)
  | [], [] => .isTrue rfl
  | a :: l, b :: m =>
    haveI := CommitmentRecord.decideEq a b
    haveI := decideEqRecords l m
    decidable_of_iff (a = b ∧ l = m) (List.cons.injEq a l b m ▸ Iff.rfl)
  | [], _ :: _ => .isFalse nofun
  | _ :: _, [] => .isFalse nofun

def decideEqSchedules : (a b : List (RebalanceSchedule C)) → Decidable (a = b)
  | [], [] => .isTrue rfl
  | a :: l, b :: m =>
    haveI := RebalanceSchedule.decideEq a b
    haveI := decideEqSchedules l m
    decidable_of_iff (a = b ∧ l = m) (List.cons.injEq a l b m ▸ Iff.rfl)
  | [], _ :: _ => .isFalse nofun
  | _ :: _, [] => .isFalse nofun

def CommitmentBook.decideEq : (a b : CommitmentBook C) → Decidable (a = b)
  | ⟨a, m, r, e, u, s, t⟩, ⟨a', m', r', e', u', s', t'⟩ =>
    haveI := decideEqRecords r r'
    haveI := decideEqSchedules t t'
    decidable_of_iff (a = a' ∧ m = m' ∧ r = r' ∧ e = e' ∧ u = u' ∧ s = s' ∧ t = t')
      (CommitmentBook.mk.injEq a m r e u s t a' m' r' e' u' s' t' ▸ Iff.rfl)

def RebalanceSchedule.decideEq : (a b : RebalanceSchedule C) → Decidable (a = b)
  | ⟨h, r, d⟩, ⟨h', r', d'⟩ =>
    haveI := CommitmentBook.decideEq r r'
    decidable_of_iff (h = h' ∧ r = r' ∧ d = d') (RebalanceSchedule.mk.injEq h r d h' r' d' ▸ Iff.rfl)

end

instance : DecidableEq (CommitmentRequest C) := CommitmentRequest.decideEq
instance : DecidableEq (CommitmentRecord C) := CommitmentRecord.decideEq
instance : DecidableEq (CommitmentBook C) := CommitmentBook.decideEq
instance : DecidableEq (RebalanceSchedule C) := RebalanceSchedule.decideEq

end Equality

/-- What the book's code calls outside this module. -/
structure PortfolioEnvironment (C : Type) extends EvidenceDigests where
  /-- `S4-13-COMMITMENT-RECORD-V1`: every field of a record but its digest. -/
  record : CommitmentEntry → Option (CommitmentRequest C) → String
  /-- `S4-13-COMMITMENT-BOOK-V1`: the allocation's digest, the removed strategies, and the
  digests of the transitions, the admissions and the records. -/
  book : String → List String → List String → List String → List String → String
  /-- `S4-13-REBALANCE-V1`. -/
  schedule : CommitmentBook C → ScheduleEntry C → String
  /-- `not calendar_inputs`. -/
  noCalendarInputs : C → Bool
  /-- The calendar checks at a decision time: the release time and the two session dates. -/
  sessions : C → Timestamp → Outcome (Timestamp × String × String)

/-! ## Records -/

section Records

variable {C : Type}

/-- `_latest_records`. -/
def latestRecords (records : List (CommitmentRecord C)) : List (CommitmentRecord C) :=
  Dict.values (Dict.ofKeys (fun item => item.orderId) records)

/-- `_active_records`. -/
def activeRecords (records : List (CommitmentRecord C)) : List (CommitmentRecord C) :=
  (latestRecords records).filter fun item => item.state ≠ .released

/-- `_latest_record`. -/
def latestRecord (records : List (CommitmentRecord C)) (orderId : OrderId) : Outcome (CommitmentRecord C) :=
  orRaise (portfolioError "unknown commitment order") (records.reverse.find? fun item => item.orderId = orderId)

/-- The events of a ledger no longer begin with those of a known one. -/
def staleFor (ledger : SimulationLedger ℚ) (known : Option (SimulationLedger ℚ)) : Prop :=
  ∃ l ∈ known, ledger.events.take l.events.length ≠ l.events

instance (ledger : SimulationLedger ℚ) (known : Option (SimulationLedger ℚ)) : Decidable (staleFor ledger known) :=
  inferInstanceAs (Decidable (∃ l ∈ known, _))

/-- The times of the fills of an order are in order. -/
def fillsMonotone (oms : SimulatedOms ℚ) (orderId : OrderId) : Prop :=
  ((oms.fills.filter fun fill => fill.orderId = orderId).map fun fill => fill.executionAt.value).Pairwise (· ≤ ·)

instance (oms : SimulatedOms ℚ) (orderId : OrderId) : Decidable (fillsMonotone oms orderId) :=
  inferInstanceAs (Decidable (List.Pairwise _ _))

/-- `_validate_financial_extension`. -/
def validateFinancialExtension (records : List (CommitmentRecord C)) (oms : SimulatedOms ℚ)
    (ledger : SimulationLedger ℚ) (admissions : List PortfolioAdmission) (cutoff : Option Timestamp) :
    Outcome Unit := do
  let runs := admissions.map fun a => a.strategy.researchRunId
  raiseIf (∃ event ∈ ledger.events, event.researchRunId.value ∉ runs) (portfolioError "foreign holding research run")
  let times := ledger.events.map fun e => e.occurredAt.value
  raiseIf (¬ times.Pairwise (· ≤ ·) ∨ ∃ c ∈ cutoff, ∃ t ∈ times, c.value < t)
    (portfolioError "financial event chronology or cutoff mismatch")
  records.forM fun record => do
    raiseIf (staleFor ledger record.sourceLedger)
      (portfolioError "stale holding ledger omits known financial history")
    raiseIf (∃ o ∈ record.sourceOms, oms.fills.take o.fills.length ≠ o.fills)
      (portfolioError "immutable fill history truncated or substituted")
  oms.orders.forM fun record =>
    raiseIf (¬ fillsMonotone oms record.order.orderId) (portfolioError "fill chronology is not monotone")

/-- What the fills of an order cost a buyer or bring a seller. -/
def cashEffect (side : CommitmentSide) (fills : List (SimulatedFill ℚ)) : ℚ :=
  sumBy (fun fill => match side with
    | .buy => fill.quantity * fill.executionPrice + fill.costs.total
    | .sell => fill.quantity * fill.executionPrice - fill.costs.total) fills

/-- The state of a commitment whose order has a status and a filled quantity. -/
def expectedState (status : OrderStatus) (filled : ℚ) : CommitmentState :=
  if status.terminal then .released else if filled ≠ 0 then .partiallyFilled else .reserved

end Records

/-! ## The checks of a book's history -/

section History

variable {C : Type} [DecidableEq C] (env : PortfolioEnvironment C)
  (rebuild : RebalanceSchedule C → Outcome (RebalanceSchedule C))
  (allocation : PortfolioAllocation) (admissions : List PortfolioAdmission)

/-- `_validate_scheduled_request`. -/
def validateScheduledRequest (request : CommitmentRequest C) (records : List (CommitmentRecord C)) : Outcome Unit :=
  match request.schedule with
  | none => pure ()
  | some schedule => do
    let rebuilt ← rebuild schedule
    let retained := schedule.retainedBook
    raiseIf (rebuilt ≠ schedule ∨ allocation ≠ retained.allocation ∨ admissions ≠ retained.admissions ∨
        records.take retained.records.length ≠ retained.records)
      (portfolioError "schedule or pending obligations substituted")
    raiseIf (request.order.decisionTime ≠ schedule.decisionTime ∨ request.order.releaseAt ≠ schedule.releaseTime)
      (portfolioError "order release does not match calendar schedule")
    raiseIf (request.strategyId ∈ schedule.removedStrategies)
      (portfolioError "removed strategy cannot add obligations")

/-- The cost model of a record comes from its request. -/
def checkCostSource (item : CommitmentRecord C) (request : CommitmentRequest C) : Outcome Unit :=
  match item.side with
  | .buy => do
    let substitution := portfolioError "commitment ceiling source substitution"
    let ceiling ← orRaise substitution request.priceCostCeiling
    raiseIf (!ceiling.current ∨ ceiling.currency ≠ item.originalOrder.currency ∨
        item.originalOrder.decisionTime.value < ceiling.availableAt.value ∨ ceiling.costModel ≠ item.costModel ∨
        item.upperPrice ≠ some ceiling.upperPrice ∨ item.ceilingEvidenceDigest ≠ some ceiling.evidenceDigest.value)
      substitution
  | .sell =>
    raiseIf (request.executionCostModel ≠ some item.costModel)
      (portfolioError "commitment sell cost source substitution")

/-- The cash and the holding that a record must reserve. -/
def liability (item : CommitmentRecord C) : Outcome (ℚ × ℚ) :=
  let remaining := item.quantity - item.filledQuantity
  match item.side with
  | .buy => do
    let mismatch := portfolioError "commitment cost model binding mismatch"
    let upperPrice ← orRaise mismatch item.upperPrice
    raiseIf (item.costModelId ≠ some item.costModel.modelId) mismatch
    let costs ← item.costModel.calculate item.quantity upperPrice
    let unit := (item.quantity * upperPrice + costs.total) / item.quantity
    raiseIf (item.unitCashCeiling ≠ some unit) (portfolioError "commitment unit liability mismatch")
    let cash ← (if item.orderStatus.terminal then pure 0 else ceilCents (unit * remaining) : Outcome ℚ)
    return (cash, 0)
  | .sell => return (0, if item.orderStatus.terminal then 0 else remaining)

/-- The first record of an order: a reservation. -/
def checkReservation (seen : List (CommitmentRecord C)) (item : CommitmentRecord C) (request : CommitmentRequest C) :
    Outcome Unit := do
  validateScheduledRequest rebuild allocation admissions request seen
  match item.side with
    | .sell => do
      let missing := portfolioError "sell reservation holding source missing or inconsistent"
      let ledger ← orRaise missing request.holdingsLedger
      let oms ← orRaise missing request.holdingsOms
      raiseIf (request.holdingsAsOf ≠ some item.originalOrder.decisionTime) missing
      let result ← reconcile oms ledger
      raiseIf (request.holdingsReconciliation ≠ some result) missing
      validateFinancialExtension seen oms ledger admissions (some item.originalOrder.decisionTime)
      verifyCurrency oms ledger allocation.currency
      let _ ← requirePerformance result
      raiseIf (ledger.currency ≠ item.originalOrder.currency) (portfolioError "sell reservation ledger mismatch")
      let replayed ← SimulationLedger.replay ledger.currency ledger.events
      raiseIf (replayed ≠ ledger) (portfolioError "sell reservation ledger mismatch")
      let already := sumBy (fun r => r.reservedHolding) ((latestRecords seen).filter fun r =>
        r.strategyId = item.strategyId ∧ r.instrumentId = item.instrumentId ∧ r.side = .sell)
      let holding ← holdingAt ledger item.researchRunId item.instrumentId item.originalOrder.decisionTime
      raiseIf (holding < item.quantity + already) (portfolioError "sell reservation liability exceeds holdings")
    | .buy => pure ()
  raiseIf (item.filledQuantity ≠ 0 ∨ item.actualCashEffect ≠ 0 ∨ item.orderStatus ≠ .accepted ∨
      item.orderStatus.terminal) (portfolioError "invalid initial commitment")

/-- A fill that a record counts was made under the record's terms. -/
def checkFillTerms (item : CommitmentRecord C) (fill : SimulatedFill ℚ) : Outcome Unit := do
  let mismatch := portfolioError "commitment fill costs or cash mismatch"
  raiseIf (fill.costModelId ≠ item.costModel.modelId) mismatch
  let costs ← item.costModel.calculate fill.quantity fill.executionPrice
  raiseIf (fill.costs ≠ costs) mismatch
  raiseIf (item.side = .buy ∧ ∀ upper ∈ item.upperPrice, upper < fill.executionPrice) mismatch

/-- A later record of an order: what the order management system and the ledger say of it. -/
def checkTransition (seen : List (CommitmentRecord C)) (prior item : CommitmentRecord C) : Outcome Unit := do
  let missing := portfolioError "commitment transition sources missing"
  let oms ← orRaise missing item.sourceOms
  let ledger ← orRaise missing item.sourceLedger
  validateFinancialExtension seen oms ledger admissions none
  verifyCurrency oms ledger allocation.currency
  let result ← reconcile oms ledger
  let _ ← requirePerformance result
  let mismatch := portfolioError "commitment transition OMS mismatch"
  let current ← orRaise mismatch (oms.order item.orderId)
  raiseIf (current.order ≠ item.originalOrder ∨ current.status ≠ item.orderStatus ∨
    current.filledQuantity ≠ item.filledQuantity) mismatch
  let fills := oms.fills.filter fun fill => fill.orderId = item.orderId
  raiseIf (cashEffect item.side fills ≠ item.actualCashEffect)
    (portfolioError "commitment fill costs or cash mismatch")
  fills.forM (checkFillTerms item)
  raiseIf (staleFor ledger prior.sourceLedger)
    (portfolioError "commitment ledger history truncated or replaced")
  raiseIf (prior.state = .released ∨ item.originalOrder ≠ prior.originalOrder ∨ item.costModel ≠ prior.costModel ∨
      item.reservationRequest ≠ prior.reservationRequest) (portfolioError "conflicting commitment transition")
  raiseIf (item.strategyId ≠ prior.strategyId ∨ item.researchRunId ≠ prior.researchRunId ∨
      item.quantity ≠ prior.quantity ∨ item.upperPrice ≠ prior.upperPrice ∨
      item.unitCashCeiling ≠ prior.unitCashCeiling) (portfolioError "immutable commitment terms changed")
  raiseIf (item.filledQuantity < prior.filledQuantity) (portfolioError "filled quantity cannot decrease")

/-- One iteration of `_validate_history`: `known` is the dictionary of the records before. -/
def checkRecord (seen : List (CommitmentRecord C)) (item : CommitmentRecord C) : Outcome Unit := do
  raiseIf (item.sequence ≠ seen.length + 1 ∨
      item.predecessorDigest ≠ seen.getLast?.map fun previous => previous.recordDigest)
    (portfolioError "commitment history is reordered or discontinuous")
  raiseIf (item.recordDigest ≠ env.record item.toCommitmentEntry item.reservationRequest)
    (portfolioError "commitment record digest mismatch")
  let order := item.originalOrder
  let missing := portfolioError "commitment reservation source missing or substituted"
  let request ← orRaise missing item.reservationRequest
  raiseIf (request.order ≠ order ∨ request.strategyId ≠ item.strategyId) missing
  checkCostSource item request
  raiseIf (item.orderId ≠ order.orderId ∨ item.instrumentId ≠ order.instrumentId ∨
      item.researchRunId ≠ order.researchRunId.value ∨ item.quantity ≠ order.quantity ∨
      item.side.value ≠ order.side.value) (portfolioError "commitment original order identity mismatch")
  raiseIf (¬ (0 ≤ item.filledQuantity ∧ item.filledQuantity ≤ item.quantity))
    (portfolioError "commitment quantity out of bounds")
  let (cash, holding) ← liability item
  raiseIf (item.state ≠ expectedState item.orderStatus item.filledQuantity ∨ item.reservedCash ≠ cash ∨
      item.reservedHolding ≠ holding) (portfolioError "commitment reservation liability mismatch")
  raiseIf (order.currency ≠ allocation.currency ∨ order.releaseAt.value ≤ order.decisionTime.value)
    (portfolioError "commitment currency or release chronology mismatch")
  let known := Dict.ofKeys (fun r : CommitmentRecord C => r.orderId) seen
  match Dict.get? item.orderId known with
    | none => checkReservation rebuild allocation admissions seen item request
    | some prior => checkTransition allocation admissions seen prior item

/-- `_validate_history`. -/
def validateHistory (records : List (CommitmentRecord C)) : Outcome Unit :=
  eachPrefix (checkRecord env rebuild allocation admissions) records

/-- One iteration of `_validate_rebalance_transitions`. -/
def checkRebalance (records : List (CommitmentRecord C)) (seen : List (RebalanceSchedule C))
    (schedule : RebalanceSchedule C) : Outcome Unit := do
  let prior := schedule.retainedBook
  let removed := seen.flatMap fun s => s.removedStrategies
  raiseIf (prior.rebalanceTransitions ≠ seen ∨ prior.removedStrategies.toFinset ≠ removed.toFinset)
    (portfolioError "rebalance transition history is discontinuous")
  raiseIf (prior.allocation ≠ allocation ∨ prior.admissions ≠ admissions ∨
      records.take prior.records.length ≠ prior.records)
    (portfolioError "rebalance transition replaces retained obligations")
  raiseIf (∃ previous ∈ seen.getLast?, schedule.decisionTime.value ≤ previous.decisionTime.value)
    (portfolioError "rebalance effective time must increase")
  let rebuilt ← rebuild schedule
  raiseIf (rebuilt ≠ schedule) (portfolioError "rebalance transition content substitution")
  let removed := removed ++ schedule.removedStrategies
  eachPrefix (fun (between : List (CommitmentRecord C)) record =>
      raiseIf (record.orderId ∉ (prior.records ++ between).map (fun r => r.orderId) ∧ record.strategyId ∈ removed)
        (portfolioError "removed strategy cannot add reconstructed obligations"))
    (records.drop prior.records.length)

/-- `_validate_rebalance_transitions`. -/
def validateRebalanceTransitions (book : CommitmentBook C) : Outcome Unit := do
  eachPrefix (checkRebalance rebuild book.allocation book.admissions book.records) book.rebalanceTransitions
  raiseIf (Text.sortedSet (book.rebalanceTransitions.flatMap fun s => s.removedStrategies) ≠ book.removedStrategies)
    (portfolioError "removed strategy state does not match retained rebalance transitions")

end History

/-! ## The constructor -/

namespace CommitmentBook

/-- The schedules in a book: those of its transitions and of its records' requests. -/
def schedules {C : Type} (book : CommitmentBook C) : List (RebalanceSchedule C) :=
  book.rebalanceTransitions ++
    book.records.filterMap fun record => record.reservationRequest.bind fun request => request.schedule

/-- `admission_runs` and `budget_runs` of a book. -/
def admissionRuns {C : Type} (book : CommitmentBook C) : List (String × String) :=
  Dict.ofList (book.admissions.map fun item => (item.strategy.strategyId, item.strategy.researchRunId))

def budgetRuns {C : Type} (book : CommitmentBook C) : List (String × String) :=
  Dict.ofList (book.allocation.budgets.map fun item => (item.strategyId, item.researchRunId))

/-- What the buys of a strategy have consumed and reserved. -/
def used {C : Type} (strategyId : String) (latest : List (CommitmentRecord C)) : ℚ :=
  sumBy (fun r => r.actualCashEffect + r.reservedCash)
    (latest.filter fun r => r.strategyId = strategyId ∧ r.side = .buy)

/-- One iteration over the prefixes of the records. -/
def checkBudgets {C : Type} (book : CommitmentBook C) (records : List (CommitmentRecord C)) : Outcome Unit := do
  let latest := latestRecords records
  book.allocation.budgets.forM fun budget =>
    raiseIf (budget.amount < used budget.strategyId latest)
      (portfolioError "commitment history budget overcommitment")
  raiseIf (∃ r ∈ latest, Dict.get? r.strategyId book.budgetRuns ≠ some r.researchRunId)
    (portfolioError "commitment history strategy-run mismatch")

variable {C : Type} [DecidableEq C] (env : PortfolioEnvironment C)
  (rebuild : RebalanceSchedule C → Outcome (RebalanceSchedule C))

/-- The digest that the constructor expects. -/
def expectedDigest (book : CommitmentBook C) : String :=
  env.book book.allocation.evidenceDigest (book.removedStrategies.insertionSort (· ≤ ·))
    (book.rebalanceTransitions.map fun s => s.evidenceDigest) (book.admissions.map fun a => a.evidenceDigest)
    (book.records.map fun r => r.recordDigest)

/-- `CommitmentBook.__post_init__`: the book, with its digest written. -/
def postInit (book : CommitmentBook C) : Outcome (CommitmentBook C) := do
  uniqueAdmissions env.toEvidenceDigests book.admissions
  requireTexts book.removedStrategies "removed_strategies"
  raiseIf (∃ s ∈ book.removedStrategies, s ∉ book.admissions.map fun a => a.strategy.strategyId)
    (portfolioError "unknown removed strategy")
  let rebuiltAllocation ← allocateEqualBudgets env.toEvidenceDigests book.admissions book.allocation.total
    book.allocation.currency book.allocation.hypothetical
  raiseIf (rebuiltAllocation ≠ book.allocation)
    (portfolioError "allocation/admission strategy-run or content mismatch")
  raiseIf (∃ p ∈ book.budgetRuns, Dict.get? p.1 book.admissionRuns ≠ some p.2)
    (portfolioError "allocation/admission strategy-run identity mismatch")
  validateRebalanceTransitions rebuild book
  validateHistory env rebuild book.allocation book.admissions book.records
  eachPrefix (fun seen item => book.checkBudgets (seen ++ [item])) book.records
  raiseIf (book.evidenceDigest ≠ "" ∧ book.evidenceDigest ≠ book.expectedDigest env)
    (portfolioError "commitment book digest mismatch")
  return { book with evidenceDigest := book.expectedDigest env }

/-- `CommitmentBook(allocation, admissions, records, removed_strategies=…, rebalance_transitions=…)`. -/
def make (allocation : PortfolioAllocation) (admissions : List PortfolioAdmission)
    (records : List (CommitmentRecord C)) (removedStrategies : List String)
    (rebalanceTransitions : List (RebalanceSchedule C)) : Outcome (CommitmentBook C) :=
  postInit env rebuild
    ⟨allocation, admissions, records, "", portfolioAuthority, removedStrategies, rebalanceTransitions⟩

/-- `_check_book`. -/
def check (book : CommitmentBook C) : Outcome Unit := do
  let rebuilt ← make env rebuild book.allocation book.admissions book.records book.removedStrategies
    book.rebalanceTransitions
  raiseIf (book ≠ rebuilt) (portfolioError "commitment book content substitution")

end CommitmentBook

/-! ## Rebalancing -/

/-- A schedule in a retained book is smaller than the schedule that retains it. -/
theorem sizeOf_schedule_lt {C : Type} {s t : RebalanceSchedule C} (h : t ∈ s.retainedBook.schedules) :
    sizeOf t < sizeOf s := by
  obtain ⟨e, ⟨a, m, r, d, u, rs, ts⟩, w⟩ := s
  have hbook : sizeOf t < 1 + sizeOf r + sizeOf ts := by
    rcases List.mem_append.mp h with h | h
    · have := List.sizeOf_lt_of_mem h
      simp only at this
      omega
    · obtain ⟨⟨entry, request, digest⟩, hrecord, hschedule⟩ := List.mem_filterMap.mp h
      have hlt := List.sizeOf_lt_of_mem hrecord
      cases request with
      | none => cases hschedule
      | some request =>
        obtain ⟨order, schedule⟩ := request
        simp only [Option.bind_some] at hschedule
        subst hschedule
        simp only [CommitmentRecord.mk.sizeOf_spec, CommitmentRequest.mk.sizeOf_spec, Option.some.sizeOf_spec] at hlt
        omega
  simp only [RebalanceSchedule.mk.sizeOf_spec, CommitmentBook.mk.sizeOf_spec]
  omega

section Rebalance

variable {C : Type} [DecidableEq C] (env : PortfolioEnvironment C)

/-- The latest records are what the order management system and the ledger say now. -/
def checkObligation (oms : SimulatedOms ℚ) (ledger : SimulationLedger ℚ) (record : CommitmentRecord C) :
    Outcome Unit := do
  let stale := portfolioError "rebalance obligations not current"
  let current ← orRaise stale (oms.order record.orderId)
  raiseIf (current.order ≠ record.originalOrder ∨ current.status ≠ record.orderStatus ∨
    current.filledQuantity ≠ record.filledQuantity) stale
  raiseIf (staleFor ledger record.sourceLedger) (portfolioError "rebalance history is stale")

/-- `schedule_monthly_rebalance`, with the book, the order management system and the
ledger given. -/
def scheduleMonthlyRebalance (rebuild : RebalanceSchedule C → Outcome (RebalanceSchedule C))
    (commitments : CommitmentBook C) (oms : SimulatedOms ℚ) (ledger : SimulationLedger ℚ) (calendar : C)
    (decisionTime : Timestamp) (preservedObligations removedStrategies : List String) :
    Outcome (RebalanceSchedule C) := do
  raiseIf (env.noCalendarInputs calendar) (insufficientEvidence "complete calendar resolver inputs required")
  let rebuilt ← CommitmentBook.make env rebuild commitments.allocation commitments.admissions commitments.records
    commitments.removedStrategies commitments.rebalanceTransitions
  raiseIf (commitments ≠ rebuilt) (portfolioError "rebalance commitment substitution")
  verifyCurrency oms ledger commitments.allocation.currency
  let result ← reconcile oms ledger
  let _ ← requirePerformance result
  raiseIf (∃ event ∈ ledger.events, decisionTime.value < event.occurredAt.value)
    (portfolioError "rebalance ledger is after decision")
  (latestRecords commitments.records).forM (checkObligation oms ledger)
  raiseIf (∃ r ∈ activeRecords commitments.records, r.strategyId ∉ preservedObligations)
    (portfolioError "pending exit obligations omitted")
  raiseIf (∃ s ∈ removedStrategies, s ∉ commitments.admissions.map fun a => a.strategy.strategyId)
    (portfolioError "unknown removed strategy")
  let (releaseTime, finalSessionDate, nextSessionDate) ← env.sessions calendar decisionTime
  requireTexts preservedObligations "preserved_obligations"
  requireTexts removedStrategies "removed_strategies"
  raiseIf (∃ s ∈ removedStrategies, s ∉ preservedObligations)
    (portfolioError "removed strategy obligations must remain preserved")
  let entry : ScheduleEntry C := ⟨oms, ledger, calendar, decisionTime, releaseTime, finalSessionDate,
    nextSessionDate, preservedObligations, removedStrategies, portfolioAuthority⟩
  return ⟨entry, commitments, env.schedule commitments entry⟩

/-- The schedule that a schedule's own inputs give, `schedule_monthly_rebalance(…)` over its
fields. The book that it retains is constructed again, and with it every schedule inside;
the constructor rebuilds no other. -/
def rebuildSchedule (schedule : RebalanceSchedule C) : Outcome (RebalanceSchedule C) :=
  scheduleMonthlyRebalance env
    (fun inner => if _h : inner ∈ schedule.retainedBook.schedules then rebuildSchedule inner else .ok inner)
    schedule.retainedBook schedule.sourceOms schedule.sourceLedger schedule.calendar schedule.decisionTime
    schedule.preservedObligations schedule.removedStrategies
termination_by sizeOf schedule
decreasing_by exact sizeOf_schedule_lt _h

/-- `carry_forward_rebalance`. -/
def carryForwardRebalance (schedule : RebalanceSchedule C) : Outcome (CommitmentBook C) := do
  let rebuilt ← rebuildSchedule env schedule
  raiseIf (rebuilt ≠ schedule) (portfolioError "rebalance schedule substitution")
  let book := schedule.retainedBook
  let removed := Text.sortedSet (book.removedStrategies ++ schedule.removedStrategies)
  CommitmentBook.make env (rebuildSchedule env) book.allocation book.admissions book.records removed
    (book.rebalanceTransitions ++ [schedule])

end Rebalance

/-! ## Operations -/

section Operations

variable {C : Type} [DecidableEq C] (env : PortfolioEnvironment C)

/-- `create_commitment_book`. -/
def createCommitmentBook (allocation : PortfolioAllocation) (admissions : List PortfolioAdmission) :
    Outcome (CommitmentBook C) :=
  CommitmentBook.make env (rebuildSchedule env) allocation
    (admissions.insertionSort fun a b => a.strategy.strategyId ≤ b.strategy.strategyId) [] [] []

/-- `_record`, from its fields and the request. -/
def makeRecord (entry : CommitmentEntry) (request : Option (CommitmentRequest C)) : CommitmentRecord C :=
  ⟨entry, request, env.record entry request⟩

/-- `CommitmentBook(…, book.records + (record,), …)`. -/
def CommitmentBook.extend (book : CommitmentBook C) (record : CommitmentRecord C) : Outcome (CommitmentBook C) :=
  CommitmentBook.make env (rebuildSchedule env) book.allocation book.admissions (book.records ++ [record])
    book.removedStrategies book.rebalanceTransitions

/-- The cash that a record holds against a budget. -/
def CommitmentEntry.cashLiability (item : CommitmentEntry) : ℚ :=
  item.reservedCash + if item.side = .buy then item.actualCashEffect else 0

/-- What a reservation sets: the side, the cash, the holding, the ceiling's price, its cash for
one unit, its model and evidence, and the cost model. -/
structure ReservationTerms where
  side : CommitmentSide
  cash : ℚ
  holding : ℚ
  upper : Option ℚ
  unitCashCeiling : Option ℚ
  model : Option String
  evidence : Option String
  approvedModel : ExecutionCostModel ℚ

/-- The `BUY` branch of `_reserve_one`. -/
def buyTerms (book : CommitmentBook C) (budget : StrategyBudget) (request : CommitmentRequest C) :
    Outcome ReservationTerms := do
  let required := portfolioError "current qualified buy ceiling required"
  let ceiling ← orRaise required request.priceCostCeiling
  raiseIf (!ceiling.current) required
  raiseIf (ceiling.currency ≠ request.order.currency ∨ request.order.decisionTime.value < ceiling.availableAt.value)
    (portfolioError "buy ceiling timing or currency mismatch")
  let costs ← ceiling.costModel.calculate request.order.quantity ceiling.upperPrice
  let rawMaximum := request.order.quantity * ceiling.upperPrice + costs.total
  let maximum ← ceilCents rawMaximum
  let latest := latestRecords book.records
  let strategyUsed := sumBy (fun r => r.cashLiability) (latest.filter fun r => r.strategyId = request.strategyId)
  let portfolioUsed := sumBy (fun r => r.cashLiability) latest
  raiseIf (budget.amount < strategyUsed + maximum) (portfolioError "strategy budget overcommitment")
  raiseIf (book.allocation.total < portfolioUsed + maximum) (portfolioError "portfolio cash overcommitment")
  return ⟨.buy, maximum, 0, some ceiling.upperPrice, some (rawMaximum / request.order.quantity),
    some ceiling.costModel.modelId, some ceiling.evidenceDigest.value, ceiling.costModel⟩

/-- The `SELL` branch of `_reserve_one`. -/
def sellTerms (book : CommitmentBook C) (request : CommitmentRequest C) : Outcome ReservationTerms := do
  let authoritative := portfolioError "sell requires authoritative holding ledger and as-of time"
  let ledger ← orRaise authoritative request.holdingsLedger
  let asOf ← orRaise authoritative request.holdingsAsOf
  match request.holdingsOms with
    | some oms => validateFinancialExtension book.records oms ledger book.admissions (some asOf)
    | none => pure ()
  raiseIf (asOf.value ≠ request.order.decisionTime.value) (portfolioError "sell holding evidence is stale")
  let approvedModel ← orRaise (portfolioError "sell requires approved execution cost model") request.executionCostModel
  raiseIf (ledger.currency ≠ book.allocation.currency) (portfolioError "holding currency mismatch")
  let reconciled := portfolioError "sell requires reconciled OMS holding evidence"
  let oms ← orRaise reconciled request.holdingsOms
  let claimed ← orRaise reconciled request.holdingsReconciliation
  let result ← reconcile oms ledger
  raiseIf (result ≠ claimed) (portfolioError "holding reconciliation substitution")
  let _ ← requirePerformance claimed
  let replayed ← SimulationLedger.replay ledger.currency ledger.events
  raiseIf (replayed ≠ ledger) (portfolioError "holding ledger replay mismatch")
  raiseIf (∃ event ∈ ledger.events, asOf.value < event.occurredAt.value)
    (portfolioError "holding evidence is after decision cutoff")
  raiseIf (¬ (ledger.events.map fun e => e.occurredAt.value).Pairwise (· ≤ ·))
    (portfolioError "holding event chronology mismatch")
  raiseIf (∃ known ∈ book.records, staleFor ledger known.sourceLedger)
    (portfolioError "stale holding ledger omits known financial history")
  raiseIf (∃ event ∈ ledger.events,
      event.researchRunId.value ∉ book.admissions.map fun a => a.strategy.researchRunId)
    (portfolioError "foreign holding research run")
  let attributableHolding ← holdingAt ledger request.order.researchRunId.value request.order.instrumentId asOf
  let already := sumBy (fun r => r.reservedHolding) ((activeRecords book.records).filter fun r =>
    r.strategyId = request.strategyId ∧ r.instrumentId = request.order.instrumentId ∧ r.side = .sell)
  raiseIf (attributableHolding < request.order.quantity + already)
    (portfolioError "unsupported short sale or sell overcommitment")
  return ⟨.sell, 0, request.order.quantity, none, none, none, none, approvedModel⟩

/-- `_reserve_one`. -/
def reserveOne (book : CommitmentBook C) (request : CommitmentRequest C) : Outcome (CommitmentBook C) := do
  requireText request.strategyId "strategy_id"
  raiseIf (request.strategyId ∈ book.removedStrategies)
    (portfolioError "removed strategy cannot add obligations")
  validateScheduledRequest (rebuildSchedule env) book.allocation book.admissions request book.records
  let unallocated := portfolioError "strategy is not allocated and evidence-supported"
  let admission ← orRaise unallocated
    (book.admissions.find? fun item => item.strategy.strategyId = request.strategyId)
  let budget ← orRaise unallocated (book.allocation.budget request.strategyId)
  raiseIf (admission.admissionClass ≠ .evidenceSupportedResearchEligibility ∧ !book.allocation.hypothetical) unallocated
  let order := request.order
  raiseIf (order.researchRunId.value ≠ admission.strategy.researchRunId)
    (portfolioError "order research-run attribution mismatch")
  raiseIf (order.releaseAt.value ≤ order.decisionTime.value)
    (portfolioError "same-close or retrospective order release")
  raiseIf (∃ record ∈ book.records, record.orderId = order.orderId)
    (portfolioError "duplicate commitment order identity")
  raiseIf (order.currency ≠ book.allocation.currency) (portfolioError "commitment currency mismatch")
  let terms ← (match order.side with
    | .buy => buyTerms book budget request
    | .sell => sellTerms book request : Outcome ReservationTerms)
  book.extend env (makeRecord env
    { sequence := book.records.length + 1, strategyId := request.strategyId,
      researchRunId := order.researchRunId.value, orderId := order.orderId, instrumentId := order.instrumentId,
      side := terms.side, quantity := order.quantity, filledQuantity := 0, reservedCash := terms.cash,
      reservedHolding := terms.holding, actualCashEffect := 0, state := .reserved, upperPrice := terms.upper,
      unitCashCeiling := terms.unitCashCeiling, costModelId := terms.model,
      ceilingEvidenceDigest := terms.evidence, orderStatus := .accepted,
      predecessorDigest := book.records.getLast?.map fun r => r.recordDigest, originalOrder := order,
      costModel := terms.approvedModel, sourceOms := request.holdingsOms, sourceLedger := request.holdingsLedger }
    (some request))

/-- The order of `reserve_commitments`: by release time, strategy and the order's identity. -/
def CommitmentRequest.before (a b : CommitmentRequest C) : Prop :=
  a.order.releaseAt.value < b.order.releaseAt.value ∨
    a.order.releaseAt.value = b.order.releaseAt.value ∧
      (a.strategyId < b.strategyId ∨
        a.strategyId = b.strategyId ∧ a.order.orderId.value.hex ≤ b.order.orderId.value.hex)

instance (a b : CommitmentRequest C) : Decidable (a.before b) :=
  inferInstanceAs (Decidable (_ ∨ _ ∧ (_ ∨ _ ∧ _)))

/-- `reserve_commitments`. -/
def reserveCommitments (book : CommitmentBook C) (requests : List (CommitmentRequest C)) :
    Outcome (CommitmentBook C) := do
  book.check env (rebuildSchedule env)
  (requests.insertionSort CommitmentRequest.before).foldlM (reserveOne env) book

/-- The checks of `reconcile_commitment` over one fill. -/
def checkReconciledFill (book : CommitmentBook C) (prior : CommitmentRecord C) (order : SimulatedOrder ℚ)
    (fill : SimulatedFill ℚ) : Outcome Unit := do
  let exceeds := portfolioError "fill exceeds approved price or cost model parameters"
  raiseIf (fill.costModelId ≠ prior.costModel.modelId) exceeds
  let costs ← prior.costModel.calculate fill.quantity fill.executionPrice
  raiseIf (fill.costs ≠ costs) exceeds
  raiseIf (fill.instrumentId ≠ prior.instrumentId ∨ fill.researchRunId.value ≠ prior.researchRunId ∨
      fill.currency ≠ book.allocation.currency ∨ fill.executionAt.value ≤ order.releaseAt.value)
    (portfolioError "fill identity, currency, or chronology mismatch")
  raiseIf (prior.side = .buy ∧
      ((∀ upper ∈ prior.upperPrice, upper < fill.executionPrice) ∨ prior.costModelId ≠ some fill.costModelId))
    (portfolioError "fill exceeds approved price or cost model")

/-- What an order that is still open reserves. -/
def openLiability (book : CommitmentBook C) (prior : CommitmentRecord C) (remaining : ℚ) : Outcome (ℚ × ℚ) :=
  match prior.side with
  | .buy => do
    raiseIf (prior.upperPrice = none ∨ prior.costModelId = none)
      (portfolioError "buy commitment ceiling is incomplete")
    raiseIf (¬ ∃ record ∈ book.records, record.orderId = prior.orderId ∧ record.upperPrice ≠ none)
      (portfolioError "buy commitment history is incomplete")
    let unit ← orRaise (portfolioError "buy unit cash ceiling is missing") prior.unitCashCeiling
    let cash ← ceilCents (unit * remaining)
    return (cash, 0)
  | .sell => return (0, remaining)

/-- The budget of a buy after its fills. -/
def checkLiability (book : CommitmentBook C) (prior : CommitmentRecord C) (actual cash : ℚ) : Outcome Unit :=
  match prior.side with
  | .sell => pure ()
  | .buy => do
    let latestOther := (latestRecords book.records).filter fun item => item.orderId ≠ prior.orderId
    let strategyTotal := actual + cash +
      sumBy (fun r => r.cashLiability) (latestOther.filter fun item => item.strategyId = prior.strategyId)
    let portfolioTotal := actual + cash + sumBy (fun r => r.cashLiability) latestOther
    let exceeds := portfolioError "partial-fill strategy liability exceeds budget"
    let budget ← orRaise exceeds (book.allocation.budget prior.strategyId)
    raiseIf (budget.amount < strategyTotal) exceeds
    raiseIf (book.allocation.total < portfolioTotal)
      (portfolioError "partial-fill portfolio liability exceeds cash")

/-- `reconcile_commitment`. -/
def reconcileCommitment (book : CommitmentBook C) (orderId : OrderId) (oms : SimulatedOms ℚ)
    (ledger : SimulationLedger ℚ) : Outcome (CommitmentBook C) := do
  book.check env (rebuildSchedule env)
  verifyCurrency oms ledger book.allocation.currency
  raiseIf (∃ known ∈ book.records, staleFor ledger known.sourceLedger)
    (portfolioError "commitment ledger history is stale")
  validateFinancialExtension book.records oms ledger book.admissions none
  let result ← reconcile oms ledger
  let _ ← requirePerformance result
  let prior ← latestRecord book.records orderId
  raiseIf (prior.state = .released) (portfolioError "released commitment cannot transition")
  let attribution := portfolioError "OMS order attribution mismatch"
  let orderRecord ← orRaise attribution (oms.order orderId)
  raiseIf (orderRecord.order ≠ prior.originalOrder) attribution
  let fills := oms.fills.filter fun fill => fill.orderId = orderId
  raiseIf (¬ fillsMonotone oms orderId) (portfolioError "fill chronology is not monotone")
  fills.forM (checkReconciledFill book prior orderRecord.order)
  let filled := sumBy SimulatedFill.quantity fills
  let actual := cashEffect prior.side fills
  let remaining := prior.quantity - filled
  raiseIf (remaining < 0) (portfolioError "fills exceed committed quantity")
  let (cash, holding) ← (if orderRecord.status.terminal then pure (0, 0)
    else openLiability book prior remaining : Outcome (ℚ × ℚ))
  checkLiability book prior actual cash
  book.extend env (makeRecord env
    { prior.toCommitmentEntry with
      sequence := book.records.length + 1, filledQuantity := filled, reservedCash := cash, reservedHolding := holding,
      actualCashEffect := actual, state := expectedState orderRecord.status filled,
      orderStatus := orderRecord.status,
      predecessorDigest := book.records.getLast?.map fun r => r.recordDigest,
      sourceOms := some oms, sourceLedger := some ledger }
    prior.reservationRequest)

/-- `totals[key] = totals.get(key, 0) + record.reserved_holding`, over the records. -/
def addUp {κ : Type} [DecidableEq κ] (key : CommitmentRecord C → κ) (records : List (CommitmentRecord C)) :
    List (κ × ℚ) :=
  records.foldl (fun d r => Dict.set (key r) ((Dict.get? (key r) d).getD 0 + r.reservedHolding) d) []

/-- The issue of a run that reserved more than it holds. -/
def runIssue (ledger : SimulationLedger ℚ) (cutoff : Timestamp) (p : (String × InstrumentId) × ℚ) :
    Outcome (Option String) := do
  let holding ← holdingAt ledger p.1.1 p.1.2 cutoff
  return if holding < p.2 then some ("INFEASIBLE_RESERVATION:" ++ p.1.1 ++ ":" ++ p.1.2.toString) else none

/-- The issue of more being reserved than the portfolio holds. -/
def portfolioIssue (ledger : SimulationLedger ℚ) (p : InstrumentId × ℚ) : Option String :=
  if ((ledger.state.position p.1).map PositionState.quantity).getD 0 < p.2 then
    some ("INFEASIBLE_RESERVATION:portfolio:" ++ p.1.toString)
  else none

/-- `current_reservation_issues`. -/
def currentReservationIssues (book : CommitmentBook C) (oms : SimulatedOms ℚ) (ledger : SimulationLedger ℚ)
    (cutoff : Timestamp) : Outcome (List String) := do
  book.check env (rebuildSchedule env)
  verifyCurrency oms ledger book.allocation.currency
  let result ← reconcile oms ledger
  let _ ← requirePerformance result
  (if book.admissions ≠ [] then
    validateFinancialExtension book.records oms ledger book.admissions (some cutoff) else pure () : Outcome Unit)
  let active := activeRecords book.records
  let sells := active.filter fun r => r.side = .sell
  let totals := addUp (fun r => (r.researchRunId, r.instrumentId)) sells
  let aggregate := addUp (fun r => r.instrumentId) sells
  let reservedCash := sumBy (fun r => r.reservedCash) (active.filter fun r => r.side = .buy)
  let cashIssues := if ledger.state.cash < reservedCash then ["INFEASIBLE_RESERVATION:cash"] else []
  let runIssues ← totals.mapM (runIssue ledger cutoff)
  let portfolioIssues := aggregate.filterMap (portfolioIssue ledger)
  return (cashIssues ++ runIssues.filterMap id ++ portfolioIssues).insertionSort (· ≤ ·)

end Operations

end ATB
