import Mathlib.Data.Prod.Lex
import Mathlib.Data.Rat.Floor
import Mathlib.Data.String.Basic
import AutomatedTradingBot.Source.Governance.Evidence
import AutomatedTradingBot.Source.Rebalance

/-!
# What the monthly strategies share

`momentum_strategy.py` and `trend_strategy.py` define the same endpoint and the same checks of
it, each with its own texts, and both compute the same signal, count and whole shares. The
decimals are exact rationals here.
-/

namespace ATB.Strategies

open Calendars (LocalDate)
open Governance (DatasetQualification permitsClaim)

/-- What is read of a `DecisionInputEligibility`. -/
structure DecisionInputEligibility where
  state : EligibilityState
  decisionTime : Timestamp
deriving DecidableEq

structure TotalReturnEndpoint where
  instrumentId : InstrumentId
  monthEnd : LocalDate
  totalReturnIndex : ℚ
  availableAt : Timestamp
  datasetId : String
  datasetVersion : String
  eligibility : DecisionInputEligibility
deriving DecidableEq

/-- `_month_shift` of the month of an instant. -/
def monthShift (t : Timestamp) (months : Int) : Int × Int :=
  let absolute := (t.value.year : Int) * 12 + t.value.month - 1 + months
  (absolute / 12, absolute % 12 + 1)

/-- The qualification is one that a strategy may run on. -/
def qualified (q : DatasetQualification) : Prop := q.lifecycle = .current ∧ permitsClaim q .engineeringOnly = true

instance (q : DatasetQualification) : Decidable (qualified q) := inferInstanceAs (Decidable (_ ∧ _))

/-- The coverage of a qualification has the date. -/
def covers (q : DatasetQualification) (d : LocalDate) : Prop := q.coverage.start.key ≤ d.key ∧ d.key ≤ q.coverage.stop.key

instance (q : DatasetQualification) (d : LocalDate) : Decidable (covers q d) := inferInstanceAs (Decidable (_ ∧ _))

/-- `_validate_endpoint`, with the window and the two texts that are a module's own. -/
def validateEndpoint (inWindow : LocalDate → Bool) (windowText positiveText : String) (instrumentId : InstrumentId)
    (q : DatasetQualification) (decisionTime : Timestamp) (e : TotalReturnEndpoint) : Except String Unit := do
  raiseIf (e.instrumentId ≠ instrumentId) "endpoint instrument substitution"
  raiseIf (inWindow e.monthEnd = false) windowText
  raiseIf (e.datasetId ≠ q.datasetId ∨ e.datasetVersion ≠ q.datasetVersion) "endpoint dataset substitution"
  raiseIf (e.totalReturnIndex ≤ 0) positiveText
  raiseIf (decisionTime.value < e.availableAt.value) "future-known endpoint"
  raiseIf (e.eligibility.state ≠ .eligible) "PIT-ineligible endpoint"
  raiseIf (e.eligibility.decisionTime ≠ decisionTime) "endpoint decision-time substitution"
  raiseIf (¬ covers q e.monthEnd) "endpoint outside qualified coverage"

/-- The return between two values of an index. -/
def signal (start stop : ℚ) : ℚ := stop / start - 1

/-- `int((Decimal("0.20") * n).to_integral_value(rounding=ROUND_FLOOR))`. -/
def selectedCount (n : Nat) : Nat := ⌊(1 / 5 : ℚ) * n⌋.toNat

/-- `int((cash / price).to_integral_value(rounding=ROUND_FLOOR))`. -/
def wholeShares (cash price : ℚ) : Int := ⌊cash / price⌋

end ATB.Strategies
