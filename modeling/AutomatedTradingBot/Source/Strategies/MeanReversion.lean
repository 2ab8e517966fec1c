import AutomatedTradingBot.Source.Governance.Admitted
import AutomatedTradingBot.Source.Strategies.Endpoints
import AutomatedTradingBot.Source.Strategies.Sessions

/-!
# The mean-reversion portfolio

`construct_mean_reversion_portfolio` of `research/mean_reversion_strategy.py`. It reads the
journal through the governor, so it is code over the directory. The text of a decimal, and what
point-in-time evidence is rebuilt to, are parameters; nothing is assumed of them. The constants of
a portfolio are left out.
-/

namespace ATB.Strategies.MeanReversion

open Calendars (LocalDate)
open Governance (DatasetQualification ResearchRun FrozenResearchPlan ResearchEvidenceManifest ResearchGovernor Action
  PitRules validateQualificationChain)

/-- What the construction raises. -/
inductive Raised where
  | meanReversion (message : String)
  | governance (error : ATB.Raised)
deriving DecidableEq

/-- `PitEligibilityEvidence`, with what is read here of its observation. -/
structure PitEligibilityEvidence extends Governance.PitEligibilityEvidence where
  instrumentId : InstrumentId
  datasetId : String
  qualificationId : String
  inputWindowEnd : Timestamp
  availableAt : Timestamp
  valueDigest : String
  decisionTime : Timestamp

structure Environment where
  py : Platform
  /-- What the evidence is rebuilt to. -/
  rules : PitEligibilityEvidence → PitRules
  /-- The canonical text of a decimal. -/
  decimalText : ℚ → String

structure SessionReturnEndpoint where
  instrumentId : InstrumentId
  sessionDate : LocalDate
  totalReturnIndex : ℚ
  availableAt : Timestamp
  datasetId : String
  datasetVersion : String
  pitEvidence : PitEligibilityEvidence

structure MeanReversionCandidate where
  instrumentId : InstrumentId
  start : SessionReturnEndpoint
  stop : SessionReturnEndpoint
  allocationPrice : ℚ
  allocationPriceEvidence : PitEligibilityEvidence

structure MeanReversionTarget where
  instrumentId : InstrumentId
  rank : Nat
  signal : ℚ
  weight : ℚ
  allocationPrice : ℚ
  wholeShares : Int
  allocatedCash : ℚ
deriving DecidableEq

structure MeanReversionIntent where
  instrumentId : InstrumentId
  side : OrderSide
  quantity : ℚ
  reason : String
deriving DecidableEq

structure MeanReversionPortfolio where
  researchRunId : String
  decisionTime : Timestamp
  releaseTime : Timestamp
  decisionSessionDate : LocalDate
  executionSessionDate : LocalDate
  eligibleCount : Nat
  selectedCount : Nat
  targets : List MeanReversionTarget
  entryIntents : List MeanReversionIntent
  residualCash : ℚ
  unfundedInstruments : List InstrumentId
deriving DecidableEq

/-- What a caller of `construct_mean_reversion_portfolio` gives. -/
structure MeanReversionRequest where
  candidates : List MeanReversionCandidate
  qualification : DatasetQualification
  qualificationPredecessors : List DatasetQualification
  researchRun : ResearchRun
  plan : FrozenResearchPlan
  manifest : ResearchEvidenceManifest
  calendarDays : List CalendarDay
  decisionTime : Timestamp
  releaseTime : Timestamp
  hypotheticalCapital : ℚ

/-- A check that raises a `MeanReversionError`. -/
def refuse (c : Prop) [Decidable c] (message : String) : Except Raised Unit := raiseIf c (.meanReversion message)

/-- `_positive_decimal` of a finite number. -/
def positiveDecimal (value : ℚ) (name : String) : Except Raised Unit :=
  refuse (value ≤ 0) (name ++ " must be a positive finite Decimal")

/-- The date of an instant is the date. -/
def isOn (t : Timestamp) (d : LocalDate) : Prop := t.value.year = d.year ∧ t.value.month = d.month ∧ t.value.day = d.day

instance (t : Timestamp) (d : LocalDate) : Decidable (isOn t d) := inferInstanceAs (Decidable (_ ∧ _ ∧ _))

/-- `_decimal_digest`. -/
def decimalDigest (env : Environment) (domain : String) (value : ℚ) : Except Raised String :=
  (ATB.Raised.ofOutcome (env.py.digest domain (.obj [("value", .str (env.decimalText value))]))).mapError .governance

namespace MeanReversionRequest

variable (env : Environment) (r : MeanReversionRequest)

/-- `evidence.validate(plan, qualification, manifest)`. -/
def validateEvidence (e : PitEligibilityEvidence) : Except Raised Unit :=
  (e.toPitEligibilityEvidence.validate (env.rules e) r.plan r.qualification r.manifest).mapError .governance

/-- What the evidence of an endpoint and of a price must both be bound to. -/
def bound (e : PitEligibilityEvidence) (instrumentId : InstrumentId) (datasetId : String) (date : LocalDate)
    (digest : String) : Prop :=
  e.instrumentId = instrumentId ∧ e.datasetId = datasetId ∧ e.qualificationId = r.qualification.qualificationId ∧
    isOn e.inputWindowEnd date ∧ e.decisionTime = r.decisionTime ∧ e.valueDigest = digest

instance (e : PitEligibilityEvidence) (instrumentId : InstrumentId) (datasetId : String) (date : LocalDate)
    (digest : String) : Decidable (r.bound e instrumentId datasetId date digest) :=
  inferInstanceAs (Decidable (_ ∧ _ ∧ _ ∧ _ ∧ _ ∧ _))

/-- `_validate_endpoint`. -/
def validateEndpoint (expected : LocalDate) (instrumentId : InstrumentId) (e : SessionReturnEndpoint) :
    Except Raised Unit := do
  refuse (e.instrumentId ≠ instrumentId) "endpoint instrument substitution"
  refuse (e.sessionDate ≠ expected) "endpoint does not match the five-session window"
  refuse (e.datasetId ≠ r.qualification.datasetId ∨ e.datasetVersion ≠ r.qualification.datasetVersion)
    "endpoint dataset substitution"
  positiveDecimal e.totalReturnIndex "total_return_index"
  r.validateEvidence env e.pitEvidence
  let digest ← decimalDigest env "ATIS-S4-11-TOTAL-RETURN-INDEX-V1" e.totalReturnIndex
  refuse (e.pitEvidence.researchRunId ≠ r.manifest.runId ∨
      ¬ r.bound e.pitEvidence e.instrumentId e.datasetId e.sessionDate digest ∨
      e.pitEvidence.availableAt ≠ e.availableAt)
    "endpoint PIT identity or value binding is invalid"
  refuse (r.decisionTime.value < e.availableAt.value) "future-known endpoint"
  refuse (¬ covers r.qualification e.sessionDate) "endpoint outside qualified coverage"

/-- The check of the price of a candidate, at the close of the decision session. -/
def validatePrice (date : LocalDate) (candidate : MeanReversionCandidate) : Except Raised Unit := do
  positiveDecimal candidate.allocationPrice "allocation_price"
  let e := candidate.allocationPriceEvidence
  r.validateEvidence env e
  let digest ← decimalDigest env "ATIS-S4-11-DECISION-CLOSE-PRICE-V1" candidate.allocationPrice
  refuse (e.researchRunId ≠ r.researchRun.runId ∨
      ¬ r.bound e candidate.instrumentId r.qualification.datasetId date digest ∨
      r.decisionTime.value < e.availableAt.value)
    "allocation price PIT identity or value binding is invalid"

/-- One iteration of the loop over the candidates, which collects the signals. -/
def score (window : LocalDate × LocalDate) (date : LocalDate) (candidate : MeanReversionCandidate) :
    Except Raised Unit := do
  r.validateEndpoint env window.1 candidate.instrumentId candidate.start
  r.validateEndpoint env window.2 candidate.instrumentId candidate.stop
  r.validatePrice env date candidate

/-- The checks before the governor is asked. -/
def checkBefore : Except Raised Unit := do
  refuse (r.candidates = []) "nonempty candidate tuple required"
  (validateQualificationChain env.py r.qualification r.qualificationPredecessors).mapError .governance

/-- The checks between the governor and the calendar. -/
def checkAfter : Except Raised Unit := do
  refuse (r.manifest.runId ≠ r.researchRun.runId ∨ r.manifest.experimentId ≠ r.plan.experimentId)
    "research evidence manifest substitution"
  refuse (¬ qualified r.qualification) "current engineering-qualified dataset required"
  positiveDecimal r.hypotheticalCapital "hypothetical_capital"
  refuse (¬ (r.candidates.map MeanReversionCandidate.instrumentId).Nodup) "duplicate instrument"

end MeanReversionRequest

def MeanReversionCandidate.signal (candidate : MeanReversionCandidate) : ℚ :=
  Strategies.signal candidate.start.totalReturnIndex candidate.stop.totalReturnIndex

/-- The order of the candidates: the least signal first, and by name among equal ones. -/
def MeanReversionCandidate.key (candidate : MeanReversionCandidate) : ℚ ×ₗ String :=
  toLex (candidate.signal, candidate.instrumentId.toString)

namespace MeanReversionRequest

variable (env : Environment) (r : MeanReversionRequest)

/-- `scored`, in its order. -/
def scored : List MeanReversionCandidate := r.candidates.insertionSort fun a b => a.key ≤ b.key

/-- `selected_count`. -/
def count : Nat := Strategies.selectedCount r.scored.length

/-- `selected`. -/
def selected : List MeanReversionCandidate := r.scored.take r.count

/-- `cash_per_name`. -/
def cashPerName : ℚ := r.hypotheticalCapital / r.count

/-- The shares of a selected candidate. -/
def shares (candidate : MeanReversionCandidate) : Int := Strategies.wholeShares r.cashPerName candidate.allocationPrice

/-- The target of a candidate that has shares, and its rank. -/
def target (entry : MeanReversionCandidate × Nat) : MeanReversionTarget where
  instrumentId := entry.1.instrumentId
  rank := entry.2
  signal := entry.1.signal
  weight := 1 / r.count
  allocationPrice := entry.1.allocationPrice
  wholeShares := r.shares entry.1
  allocatedCash := entry.1.allocationPrice * r.shares entry.1

/-- `targets`: there are none when nothing is selected. -/
def targets : List MeanReversionTarget :=
  ((r.selected.zipIdx 1).filter fun entry => 0 < r.shares entry.1).map r.target

/-- `unfunded`. -/
def unfunded : List InstrumentId :=
  (r.selected.filter fun candidate => r.shares candidate ≤ 0).map MeanReversionCandidate.instrumentId

/-- The intent to enter a target. -/
def intent (target : MeanReversionTarget) : MeanReversionIntent :=
  ⟨target.instrumentId, .buy, target.wholeShares, "BOTTOM_TWENTY_PERCENT_ENTRY"⟩

/-- The portfolio, once the calendar is resolved and the candidates are checked. -/
def portfolio (sessions : CalendarDay × CalendarDay) : MeanReversionPortfolio where
  researchRunId := r.researchRun.runId.value
  decisionTime := r.decisionTime
  releaseTime := r.releaseTime
  decisionSessionDate := sessions.1.localDate
  executionSessionDate := sessions.2.localDate
  eligibleCount := r.scored.length
  selectedCount := r.count
  targets := r.targets
  entryIntents := r.targets.map intent
  residualCash := r.hypotheticalCapital - (r.targets.map MeanReversionTarget.allocatedCash).sum
  unfundedInstruments := r.unfunded

/-- What follows the governor. -/
def construct : Except Raised MeanReversionPortfolio := do
  r.checkAfter
  let sessions ← (decisionAndExecutionSessions r.calendarDays r.decisionTime r.releaseTime).mapError .meanReversion
  let window ← (signalWindow r.calendarDays sessions.1).mapError .meanReversion
  r.candidates.forM (r.score env window sessions.1.localDate)
  return r.portfolio sessions

end MeanReversionRequest

/-- Code over the directory that raises what the construction raises. -/
abbrev Construction := ExceptT Raised (Calls.Program Governance.Call Governance.Reply)

/-- `construct_mean_reversion_portfolio`. -/
def constructMeanReversionPortfolio (env : Environment) (governor : ResearchGovernor) (r : MeanReversionRequest) :
    Construction MeanReversionPortfolio := do
  liftExcept (r.checkBefore env)
  let _ ← ExceptT.adapt Raised.governance (governor.requireAdmitted env.py r.plan r.researchRun)
  liftExcept (r.construct env)

end ATB.Strategies.MeanReversion
