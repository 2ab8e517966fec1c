import AutomatedTradingBot.Source.Strategies.Endpoints

/-!
# The trend portfolio

`construct_trend_portfolio` of `research/trend_strategy.py`. What it raises is a `TrendError`,
or the error of a date whose year is out of range. The constants of a portfolio are left out.
-/

namespace ATB.Strategies.Trend

open Calendars (LocalDate)
open Governance (DatasetQualification ResearchRun)

inductive AssetClass where
  | equity
  | etf
deriving DecidableEq

structure TrendCandidate where
  instrumentId : InstrumentId
  assetClass : AssetClass
  start : TotalReturnEndpoint
  stop : TotalReturnEndpoint
  executionPrice : ℚ
deriving DecidableEq

structure TrendTarget where
  instrumentId : InstrumentId
  assetClass : AssetClass
  signal : ℚ
  weight : ℚ
  executionPrice : ℚ
  wholeShares : Int
  allocatedCash : ℚ
deriving DecidableEq

structure TrendPortfolio where
  researchRunId : String
  decisionTime : Timestamp
  releaseTime : Timestamp
  fillTime : Timestamp
  equityCount : Nat
  etfCount : Nat
  positiveCount : Nat
  classifications : List (InstrumentId × AssetClass)
  targets : List TrendTarget
  residualCash : ℚ
deriving DecidableEq

/-- What a caller of `construct_trend_portfolio` gives. -/
structure TrendRequest where
  candidates : List TrendCandidate
  qualification : DatasetQualification
  researchRun : ResearchRun
  decisionTime : Timestamp
  releaseTime : Timestamp
  fillTime : Timestamp
  hypotheticalCapital : ℚ

/-- `_month_end`. -/
def monthEnd (yearMonth : Int × Int) : Except String LocalDate :=
  let year := yearMonth.1.toNat
  let month := yearMonth.2.toNat
  orRaise "year is out of range" (LocalDate.ofFields? year month (daysInMonth year month))

/-- `expected_signal_months`. -/
def expectedSignalMonths (decisionTime : Timestamp) : Except String (LocalDate × LocalDate) := do
  let start ← monthEnd (monthShift decisionTime (-13))
  let stop ← monthEnd (monthShift decisionTime (-1))
  return (start, stop)

/-- `_positive_decimal` of a finite number. -/
def positiveDecimal (value : ℚ) (name : String) : Except String Unit :=
  raiseIf (value ≤ 0) (name ++ " must be a positive finite Decimal")

namespace TrendRequest

variable (r : TrendRequest)

/-- The checks before the loop. -/
def check : Except String Unit := do
  raiseIf (r.candidates = []) "nonempty candidate tuple required"
  raiseIf (¬ qualified r.qualification) "current engineering-qualified dataset required"
  raiseIf (¬ (r.decisionTime.value < r.releaseTime.value ∧ r.releaseTime.value < r.fillTime.value))
    "require decision < release < fill"
  positiveDecimal r.hypotheticalCapital "hypothetical_capital"
  raiseIf (¬ (r.candidates.map TrendCandidate.instrumentId).Nodup) "duplicate instrument"

/-- `_validate_endpoint`. -/
def validateEndpoint (expected : LocalDate) (candidate : TrendCandidate) (e : TotalReturnEndpoint) :
    Except String Unit :=
  Strategies.validateEndpoint (fun d => decide (d = expected))
    "endpoint is outside the canonical completed-month window"
    "total_return_index must be a positive finite Decimal" candidate.instrumentId r.qualification r.decisionTime e

/-- One iteration of the loop over the candidates, which collects the signals. -/
def score (months : LocalDate × LocalDate) (candidate : TrendCandidate) : Except String Unit := do
  r.validateEndpoint months.1 candidate candidate.start
  r.validateEndpoint months.2 candidate candidate.stop
  positiveDecimal candidate.executionPrice "execution_price"

end TrendRequest

def TrendCandidate.signal (candidate : TrendCandidate) : ℚ :=
  Strategies.signal candidate.start.totalReturnIndex candidate.stop.totalReturnIndex

namespace TrendRequest

variable (r : TrendRequest)

/-- `positives`. -/
def positives : List TrendCandidate :=
  (r.candidates.filter fun c => 0 < c.signal).insertionSort fun a b =>
    a.instrumentId.toString ≤ b.instrumentId.toString

/-- `cash_per_asset`. -/
def cashPerAsset : ℚ := r.hypotheticalCapital / r.positives.length

/-- The target of a candidate: it is built when its shares are positive. -/
def target (candidate : TrendCandidate) : TrendTarget where
  instrumentId := candidate.instrumentId
  assetClass := candidate.assetClass
  signal := candidate.signal
  weight := 1 / r.positives.length
  executionPrice := candidate.executionPrice
  wholeShares := Strategies.wholeShares r.cashPerAsset candidate.executionPrice
  allocatedCash := candidate.executionPrice * Strategies.wholeShares r.cashPerAsset candidate.executionPrice

/-- The loop over `positives`: there is none when no signal is positive. -/
def targets : Except String (List TrendTarget) :=
  r.positives.mapM fun candidate => do
    raiseIf ((r.target candidate).wholeShares ≤ 0) "capital cannot fund a positive-signal whole share"
    return r.target candidate

def classifications : List (InstrumentId × AssetClass) :=
  (r.candidates.map fun c => (c.instrumentId, c.assetClass)).insertionSort fun a b => a.1.toString ≤ b.1.toString

/-- The portfolio, once the request is accepted. -/
def portfolio (targets : List TrendTarget) : TrendPortfolio where
  researchRunId := r.researchRun.runId.value
  decisionTime := r.decisionTime
  releaseTime := r.releaseTime
  fillTime := r.fillTime
  equityCount := r.candidates.countP fun c => c.assetClass = .equity
  etfCount := r.candidates.countP fun c => c.assetClass = .etf
  positiveCount := r.positives.length
  classifications := r.classifications
  targets := targets
  residualCash := r.hypotheticalCapital - (targets.map TrendTarget.allocatedCash).sum

end TrendRequest

/-- `construct_trend_portfolio`. -/
def constructTrendPortfolio (r : TrendRequest) : Except String TrendPortfolio := do
  r.check
  let months ← expectedSignalMonths r.decisionTime
  r.candidates.forM (r.score months)
  let targets ← r.targets
  return r.portfolio targets

end ATB.Strategies.Trend
