import Mathlib.Algebra.Order.Floor.Ring
import Mathlib.Data.Rat.Floor
import AutomatedTradingBot.Framework.Decimal
import AutomatedTradingBot.Source.Reconcile

/-!
# Portfolio admissions, budgets and holdings

`research/portfolio_construction.py` up to the commitments: the admission of a
strategy (`_from_assurance`, over `assess_robustness` of
`research/robustness_assurance.py`), the equal budgets of the admitted strategies,
the apportionment of a shared adjustment, and what one research run holds
(`_holding_at`). Amounts of money are exact rationals, but for the apportionment,
whose quotients the decimal context rounds; `holdingAt` is of any type `D`, as the
ledger is. A digest is a function
of the values that its body is written from, and nothing is assumed of it
(`EvidenceDigests`).
-/

namespace ATB

def portfolioAuthority : String := "RESEARCH_ONLY_NO_BROKER_CAPITAL_OR_TRADING_AUTHORITY"

/-- `ResearchAuthority.RESEARCH_ONLY`. -/
def researchAuthority : String := "RESEARCH_ONLY_NO_BROKER_OR_TRADING_AUTHORITY"

/-- `USD`. -/
def usd : Currency := ⟨"USD"⟩

def portfolioError (message : String) : PyError := ⟨.portfolioConstructionError, message⟩

def insufficientEvidence (message : String) : PyError :=
  ⟨.insufficientEvidenceError, "INSUFFICIENT_EVIDENCE: " ++ message⟩

/-- `_text`. -/
def requireText (value name : String) : Outcome Unit :=
  raiseIf (¬ Text.nonblank value) (portfolioError (name ++ " must be nonempty text"))

/-- `_texts(value, name, nonempty=False)`. -/
def requireTexts (value : List String) (name : String) : Outcome Unit := do
  raiseIf (¬ ∀ item ∈ value, Text.nonblank item) (portfolioError (name ++ " must be a text tuple"))
  raiseIf (¬ value.Nodup) (portfolioError (name ++ " contains duplicates"))

/-! ## Robustness evidence -/

inductive RobustnessTest where
  | replay
  | costStress
  | executionStress
  | parameterNeighbourhood
  | universePerturbation
  | subperiods
  | regimes
  | adversePeriods
  | concentration
  | removeContributors
  | outOfSample
  | protectedHoldout
  | adversarialChallenge
deriving DecidableEq

/-- `set(RobustnessTest)`. -/
def RobustnessTest.all : List RobustnessTest :=
  [.replay, .costStress, .executionStress, .parameterNeighbourhood, .universePerturbation, .subperiods,
    .regimes, .adversePeriods, .concentration, .removeContributors, .outOfSample, .protectedHoldout,
    .adversarialChallenge]

inductive AssuranceOutcome where
  | testPass
  | testFail
  | insufficientEvidence
  | invalid
deriving DecidableEq

structure RobustnessCase where
  test : RobustnessTest
  outcome : AssuranceOutcome
  finding : String
  evidenceIds : List String
  limitations : List String
deriving DecidableEq

structure RobustnessReport where
  contextDigest : String
  cases : List RobustnessCase
  outcome : AssuranceOutcome
  economicEdge : String
  permittedConclusions : List String
  evidenceDigest : String
  authority : String := researchAuthority
deriving DecidableEq

structure StrategyBinding where
  strategyId : String
  researchRunId : String
  decisionTime : String
  outputDigest : String
  authority : String := researchAuthority
deriving DecidableEq

structure AssuranceContext where
  strategy : StrategyBinding
  planDigest : String
  experimentId : String
  datasetId : String
  datasetVersion : String
  qualificationId : String
  admissionEventId : String
  trialIds : List String
  performance : PerformanceTruth ℚ
  contextDigest : String
deriving DecidableEq

inductive AdmissionClass where
  | hypotheticalParticipation
  | evidenceSupportedResearchEligibility
deriving DecidableEq

structure StrategyBudget where
  strategyId : String
  researchRunId : String
  cents : Int
deriving DecidableEq

/-- `StrategyBudget.amount`. -/
def StrategyBudget.amount (b : StrategyBudget) : ℚ := b.cents / 100

/-- The digests of the evidence, as functions of what their bodies are written from. -/
structure EvidenceDigests where
  /-- `ROBUSTNESS-REPORT-V1`: the context's digest, the cases and the outcome. -/
  robustness : String → List RobustnessCase → AssuranceOutcome → String
  /-- `S4-13-ADMISSION-V1`: the class, the context, the robustness digest and the limitations. -/
  admission : AdmissionClass → AssuranceContext → Option String → List String → String
  /-- `S4-13-ALLOCATION-V1`: the currency, whether hypothetical, the total, the budgets and the rest. -/
  allocation : Currency → Bool → Int → List StrategyBudget → Int → String

/-- `assess_robustness`. -/
def assessRobustness (digests : EvidenceDigests) (context : AssuranceContext) (cases : List RobustnessCase) :
    Outcome RobustnessReport := do
  raiseIf (cases.length ≠ RobustnessTest.all.length ∨ ¬ ∀ t ∈ RobustnessTest.all, t ∈ cases.map RobustnessCase.test)
    ⟨.robustnessAssuranceError, "exact ROB-01 through ROB-13 coverage required"⟩
  let outcomes := cases.map RobustnessCase.outcome
  let outcome :=
    if .invalid ∈ outcomes then AssuranceOutcome.invalid
    else if .testFail ∈ outcomes then .testFail
    else if .insufficientEvidence ∈ outcomes then .insufficientEvidence
    else .testPass
  return { contextDigest := context.contextDigest, cases := cases, outcome := outcome,
           economicEdge := "NOT_ESTABLISHED",
           permittedConclusions :=
             ["ENGINEERING_BEHAVIOUR_AS_SPECIFIED", "ECONOMIC_EDGE_NOT_ESTABLISHED", "NO_BROKER_OR_TRADING_AUTHORITY"],
           evidenceDigest := digests.robustness context.contextDigest cases outcome }

/-! ## Admissions -/

structure PortfolioAdmission where
  sourceContext : AssuranceContext
  sourceRobustness : Option RobustnessReport
  admissionClass : AdmissionClass
  strategy : StrategyBinding
  contextDigest : String
  planDigest : String
  admissionEventId : String
  datasetId : String
  datasetVersion : String
  qualificationId : String
  robustnessEvidenceDigest : Option String
  limitations : List String
  permittedConclusions : List String
  evidenceDigest : String
  authority : String := portfolioAuthority
deriving DecidableEq

/-- `PortfolioAdmission._from_assurance`. -/
def PortfolioAdmission.fromAssurance (digests : EvidenceDigests) (context : AssuranceContext)
    (admissionClass : AdmissionClass) (robustness : Option RobustnessReport) (limitations : List String) :
    Outcome PortfolioAdmission := do
  requireTexts limitations "limitations"
  raiseIf (admissionClass = .evidenceSupportedResearchEligibility)
    (insufficientEvidence ("attributable ROB outcomes require authentic source evidence; " ++
      "report identity or TEST_PASS alone is insufficient"))
  match robustness with
    | some report => do
      let rebuilt ← assessRobustness digests context report.cases
      raiseIf (rebuilt ≠ report) (portfolioError "hypothetical robustness binding is invalid")
    | none => pure ()
  let robustnessDigest := robustness.map RobustnessReport.evidenceDigest
  let effectiveLimitations := Text.sortedSet
    (limitations ++ ["HYPOTHETICAL_PARTICIPATION", "RESEARCH_ELIGIBILITY_NOT_ESTABLISHED"])
  return { sourceContext := context, sourceRobustness := robustness, admissionClass := admissionClass,
           strategy := context.strategy, contextDigest := context.contextDigest,
           planDigest := context.planDigest, admissionEventId := context.admissionEventId,
           datasetId := context.datasetId, datasetVersion := context.datasetVersion,
           qualificationId := context.qualificationId, robustnessEvidenceDigest := robustnessDigest,
           limitations := effectiveLimitations,
           permittedConclusions := ["HYPOTHETICAL_ENGINEERING_PARTICIPATION_ONLY", "ECONOMIC_EDGE_NOT_ESTABLISHED",
             "NO_BROKER_CAPITAL_OR_TRADING_AUTHORITY"],
           evidenceDigest := digests.admission admissionClass context robustnessDigest effectiveLimitations }

/-- `_unique_admissions`. -/
def uniqueAdmissions (digests : EvidenceDigests) (admissions : List PortfolioAdmission) : Outcome Unit := do
  admissions.forM fun item => do
    raiseIf (item.admissionClass ≠ .hypotheticalParticipation)
      (insufficientEvidence "research eligibility not established")
    let rebuilt ← PortfolioAdmission.fromAssurance digests item.sourceContext item.admissionClass
      item.sourceRobustness item.limitations
    raiseIf (rebuilt ≠ item) (portfolioError "admission content or authority substitution")
  raiseIf (¬ (admissions.map fun item => item.strategy.strategyId).Nodup ∨
      ¬ (admissions.map fun item => item.strategy.researchRunId).Nodup)
    (portfolioError "strategy and research-run admissions must be unique")

/-! ## Budgets -/

structure PortfolioAllocation where
  currency : Currency
  totalCents : Int
  budgets : List StrategyBudget
  unallocatedCents : Int
  evidenceDigest : String
  authority : String := portfolioAuthority
  hypothetical : Bool := false
deriving DecidableEq

/-- `PortfolioAllocation.budget`. -/
def PortfolioAllocation.budget (a : PortfolioAllocation) (strategyId : String) : Option StrategyBudget :=
  a.budgets.find? fun item => item.strategyId = strategyId

/-- `Decimal(allocation.total_cents) / 100`. -/
def PortfolioAllocation.total (a : PortfolioAllocation) : ℚ := a.totalCents / 100

/-- `_exact_cents`: an amount is its own quantization to cents when it is a whole
number of them. -/
def exactCents (value : ℚ) (name : String) : Outcome Int := do
  raiseIf (value < 0 ∨ (value * 100).den ≠ 1)
    (portfolioError (name ++ " must be a nonnegative exact USD-cent amount"))
  return (value * 100).num

/-- `_ceil_cents`. -/
def ceilCents (value : ℚ) : Outcome ℚ := do
  raiseIf (value < 0) (portfolioError "financial liability cannot be negative")
  return (⌈value * 100⌉ : ℚ) / 100

/-- The budgets of the eligible strategies: the last ones in order take the
remaining cents. -/
def equalBudgets (cents : Int) (eligible : List PortfolioAdmission) : List StrategyBudget :=
  let quotient := cents / eligible.length
  let cutoff := eligible.length - cents % eligible.length
  eligible.mapIdx fun index item =>
    ⟨item.strategy.strategyId, item.strategy.researchRunId, quotient + if cutoff ≤ index then 1 else 0⟩

/-- `allocate_equal_budgets`. -/
def allocateEqualBudgets (digests : EvidenceDigests) (admissions : List PortfolioAdmission) (totalCapital : ℚ)
    (currency : Currency) (hypothetical : Bool) : Outcome PortfolioAllocation := do
  uniqueAdmissions digests admissions
  raiseIf (currency ≠ usd) (portfolioError "initial S4-13 scope is USD only")
  let cents ← exactCents totalCapital "total_capital"
  let eligible := (admissions.filter fun item =>
      decide (item.admissionClass = .evidenceSupportedResearchEligibility) ||
        (hypothetical && decide (item.admissionClass = .hypotheticalParticipation))).insertionSort
    fun a b => a.strategy.strategyId ≤ b.strategy.strategyId
  let budgets := equalBudgets cents eligible
  let allocated := (budgets.map StrategyBudget.cents).sum
  return { currency := currency, totalCents := cents, budgets := budgets,
           unallocatedCents := cents - allocated,
           evidenceDigest := digests.allocation currency hypothetical cents budgets (cents - allocated),
           hypothetical := hypothetical }

/-! ## Shared adjustments -/

/-- `_exact_cents`, in decimals. -/
def exactDecimalCents (value : Decimal) (name : String) : Outcome Int := do
  let inexact := portfolioError (name ++ " must be a nonnegative exact USD-cent amount")
  raiseIf (value < 0) inexact
  let rounded ← orRaise ⟨.arithmeticError, "[<class 'decimal.InvalidOperation'>]"⟩ (value.quantize (-2))
  raiseIf ((value == rounded) = false) inexact
  return (value * (100 : Nat)).toInt

/-- `items[start:]`, where a negative `start` counts from the end. -/
def sliceFrom {α : Type} (items : List α) (start : Int) : List α :=
  items.drop (if start < 0 then items.length + start else start).toNat

/-- The cents of `allocate_shared_cents`, key by key in order: the integer parts of the
shares, and one more for each of the last positive keys until no cent remains. -/
def sharedCents (totalCents : Int) (ordered : List (String × Decimal)) (denominator : Decimal) : List Int :=
  let raw := ordered.map fun item => Decimal.ofInt totalCents * item.2 / denominator
  let cents := raw.map Decimal.toInt
  let remainder := totalCents - cents.sum
  let positiveIndices := (ordered.zipIdx.filter fun item => 0 < item.1.2).map Prod.snd
  let last := if remainder = 0 then [] else sliceFrom positiveIndices (positiveIndices.length - remainder)
  last.foldl (fun cents index => cents.modify index (· + 1)) cents

/-- `allocate_shared_cents`. -/
def allocateSharedCents (total : Decimal) (notionals : List (String × Decimal)) : Outcome (List (String × Decimal)) := do
  let totalCents ← exactDecimalCents total "total"
  raiseIf (notionals = []) (portfolioError "notional evidence required")
  raiseIf (¬ (notionals.map Prod.fst).Nodup) (portfolioError "duplicate strategy notional")
  let ordered := notionals.insertionSort fun a b => a.1 ≤ b.1
  ordered.forM fun item => do
    requireText item.1 "strategy_id"
    raiseIf (item.2 < 0) (portfolioError "notional cannot be negative")
  let denominator := (ordered.map Prod.snd).foldl (· + ·) 0
  raiseIf (denominator ≤ 0) (portfolioError "positive executed notional required")
  return ordered.zipWith (fun item cents => (item.1, Decimal.ofInt cents / (100 : Nat)))
    (sharedCents totalCents ordered denominator)

/-! ## Holdings -/

/-- `require_performance`. -/
def requirePerformance {D : Type} (result : ReconciliationResult D) : Outcome (PerformanceTruth D) :=
  match result.state, result.performance with
  | .reconciled, some truth => .ok truth
  | _, _ => .error ⟨.performanceTruthError, "authoritative performance requires reconciled evidence"⟩

section Holding

variable {D : Type} [Zero D] [Add D] [Mul D] [LE D] [LT D] [DecidableLE D] [DecidableLT D]

/-- One iteration of `_holding_at`. -/
def holdingStep (researchRunId : String) (instrumentId : InstrumentId) (asOf : Timestamp) (holding : D)
    (event : FinancialEvent D) : Outcome D :=
  if asOf.value < event.occurredAt.value then return holding
  else if event.instrumentId ≠ some instrumentId then return holding
  else if event.kind = .trade ∧ event.researchRunId.value = researchRunId then do
    let quantity ← orRaise (portfolioError "trade holding event lacks quantity") event.quantity
    return holding + quantity
  else if event.kind = .split then do
    let lacks := portfolioError "split holding event lacks valid factor"
    let quantity ← orRaise lacks event.quantity
    raiseIf (quantity ≤ 0) lacks
    return holding * quantity
  else return holding

/-- `_holding_at`. -/
def holdingAt (ledger : SimulationLedger D) (researchRunId : String) (instrumentId : InstrumentId)
    (asOf : Timestamp) : Outcome D := do
  let holding ← ledger.events.foldlM (holdingStep researchRunId instrumentId asOf) 0
  raiseIf (holding < 0) (portfolioError "authoritative ledger contains unsupported short holding")
  return holding

end Holding

/-- `_verify_currency`. -/
def verifyCurrency {D : Type} (oms : SimulatedOms D) (ledger : SimulationLedger D) (currency : Currency) :
    Outcome Unit := do
  raiseIf (currency ≠ usd ∨ ledger.currency ≠ currency ∨ ledger.state.currency ≠ currency)
    (portfolioError "portfolio/ledger currency mismatch; conversion unsupported")
  raiseIf ((∃ record ∈ oms.orders, record.order.currency ≠ currency) ∨ ∃ fill ∈ oms.fills, fill.currency ≠ currency)
    (portfolioError "portfolio/OMS currency mismatch; conversion unsupported")
  raiseIf (∃ event ∈ ledger.events, event.currency ≠ none ∧ event.currency ≠ some currency)
    (portfolioError "portfolio/financial-event currency mismatch")

end ATB
