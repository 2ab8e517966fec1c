import AutomatedTradingBot.Source.Strategies.Endpoints

/-!
# The momentum portfolio

`construct_momentum_portfolio` of `research/momentum_strategy.py`. What it raises is a
`MomentumError`. The constants of a portfolio are left out.
-/

namespace ATB.Strategies.Momentum

open Calendars (LocalDate)
open Governance (DatasetQualification ResearchRun)

structure MomentumCandidate where
  instrumentId : InstrumentId
  start : TotalReturnEndpoint
  stop : TotalReturnEndpoint
  executionPrice : ℚ
deriving DecidableEq

structure MomentumTarget where
  instrumentId : InstrumentId
  rank : Nat
  signal : ℚ
  weight : ℚ
  executionPrice : ℚ
  wholeShares : Int
  allocatedCash : ℚ
deriving DecidableEq

structure MomentumPortfolio where
  researchRunId : String
  decisionTime : Timestamp
  releaseTime : Timestamp
  fillTime : Timestamp
  eligibleCount : Nat
  selectedCount : Nat
  targets : List MomentumTarget
  residualCash : ℚ
  fixtureMinimumApplied : Bool
deriving DecidableEq

/-- What a caller of `construct_momentum_portfolio` gives. -/
structure MomentumRequest where
  candidates : List MomentumCandidate
  qualification : DatasetQualification
  researchRun : ResearchRun
  decisionTime : Timestamp
  releaseTime : Timestamp
  fillTime : Timestamp
  hypotheticalCapital : ℚ
  fixtureMinimum : Bool

/-- `expected_signal_months`. -/
def expectedSignalMonths (decisionTime : Timestamp) : (Int × Int) × (Int × Int) :=
  (monthShift decisionTime (-13), monthShift decisionTime (-2))

/-- `_valid_decimal` of a finite number. -/
def validDecimal (value : ℚ) (name : String) : Except String Unit := raiseIf (value ≤ 0) (name ++ " must be positive")

namespace MomentumRequest

variable (r : MomentumRequest)

/-- The checks before the loop. -/
def check : Except String Unit := do
  raiseIf (r.candidates = []) "nonempty candidate tuple required"
  raiseIf (¬ qualified r.qualification) "current engineering-qualified dataset required"
  raiseIf (¬ (r.decisionTime.value < r.releaseTime.value ∧ r.releaseTime.value < r.fillTime.value))
    "require decision < release < fill"
  validDecimal r.hypotheticalCapital "hypothetical_capital"
  raiseIf (r.fixtureMinimum = true ∧ r.candidates.length < 20) "engineering fixture requires at least 20 securities"
  raiseIf (¬ (r.candidates.map MomentumCandidate.instrumentId).Nodup) "duplicate instrument"

/-- `_validate_endpoint`. -/
def validateEndpoint (month : Int × Int) (candidate : MomentumCandidate) (e : TotalReturnEndpoint) :
    Except String Unit :=
  Strategies.validateEndpoint (fun d => decide (((d.year : Int), (d.month : Int)) = month))
    "endpoint is outside the canonical 12-1 month window" "total_return_index must be positive"
    candidate.instrumentId r.qualification r.decisionTime e

/-- One iteration of the loop over the candidates, which collects the signals. -/
def score (candidate : MomentumCandidate) : Except String Unit := do
  r.validateEndpoint (expectedSignalMonths r.decisionTime).1 candidate candidate.start
  r.validateEndpoint (expectedSignalMonths r.decisionTime).2 candidate candidate.stop
  validDecimal candidate.executionPrice "execution_price"

end MomentumRequest

def MomentumCandidate.signal (candidate : MomentumCandidate) : ℚ :=
  Strategies.signal candidate.start.totalReturnIndex candidate.stop.totalReturnIndex

/-- The order of the candidates: the greatest signal first, and by name among equal ones. -/
def MomentumCandidate.key (candidate : MomentumCandidate) : ℚ ×ₗ String :=
  toLex (-candidate.signal, candidate.instrumentId.toString)

namespace MomentumRequest

variable (r : MomentumRequest)

/-- `scored`, in its order. -/
def scored : List MomentumCandidate := r.candidates.insertionSort fun a b => a.key ≤ b.key

/-- `selected_count`. -/
def count : Nat := Strategies.selectedCount r.scored.length

/-- `selected`. -/
def selected : List MomentumCandidate := r.scored.take r.count

/-- `cash_per_name`. -/
def cashPerName : ℚ := r.hypotheticalCapital / r.count

/-- The target of a selected candidate and its rank. -/
def target (entry : MomentumCandidate × Nat) : MomentumTarget where
  instrumentId := entry.1.instrumentId
  rank := entry.2
  signal := entry.1.signal
  weight := 1 / r.count
  executionPrice := entry.1.executionPrice
  wholeShares := Strategies.wholeShares r.cashPerName entry.1.executionPrice
  allocatedCash := entry.1.executionPrice * Strategies.wholeShares r.cashPerName entry.1.executionPrice

def targets : List MomentumTarget := (r.selected.zipIdx 1).map r.target

/-- The portfolio, once the request is accepted. -/
def portfolio : MomentumPortfolio where
  researchRunId := r.researchRun.runId.value
  decisionTime := r.decisionTime
  releaseTime := r.releaseTime
  fillTime := r.fillTime
  eligibleCount := r.scored.length
  selectedCount := r.count
  targets := r.targets
  residualCash := r.hypotheticalCapital - (r.targets.map MomentumTarget.allocatedCash).sum
  fixtureMinimumApplied := r.fixtureMinimum

end MomentumRequest

/-- `construct_momentum_portfolio`. -/
def constructMomentumPortfolio (r : MomentumRequest) : Except String MomentumPortfolio := do
  r.check
  r.candidates.forM r.score
  raiseIf (r.count < 1) "top-20-percent floor selects no securities"
  raiseIf (∃ t ∈ r.targets, t.wholeShares ≤ 0) "capital cannot fund a selected whole share"
  return r.portfolio

end ATB.Strategies.Momentum
