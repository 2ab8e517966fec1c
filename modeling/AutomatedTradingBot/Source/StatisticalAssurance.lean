import Mathlib.Data.Prod.Lex
import Mathlib.Data.Rat.Cast.Order
import Mathlib.Data.String.Basic
import AutomatedTradingBot.Framework.Dict
import AutomatedTradingBot.Framework.Outcome
import AutomatedTradingBot.Source.Provenance

/-!
# Holm's correction

`holm_adjust` of `research/statistical_assurance.py`, with exact rationals for the decimals
that the context rounds. `_digest` and `_decimal_text` are parameters: nothing is assumed of
them, and no decision is made by what they return.
-/

namespace ATB.StatisticalAssurance

structure Environment where
  /-- `_digest`. -/
  digest : String → Json → String
  /-- `_decimal_text`. -/
  decimalText : ℚ → String

/-- `_text`: what it raises is a `StatisticalAssuranceError`. -/
def text (value name : String) : Except String Unit :=
  raiseIf (Text.strip (Text.chars value) = []) (name ++ " must be nonempty text")

/-- `_text_tuple`. -/
def textTuple (values : List String) (name : String) : Except String Unit := values.forM (text · name)

structure HypothesisTest where
  hypothesisId : String
  pValue : ℚ
  hypothesisId_text : text hypothesisId "hypothesis_id" = .ok ()
  nonnegative : 0 ≤ pValue
  le_one : pValue ≤ 1

structure HolmDecision where
  hypothesisId : String
  rawPValue : ℚ
  adjustedPValue : ℚ
  rejected : Bool
deriving DecidableEq

structure HolmResult where
  familyId : String
  alpha : ℚ
  decisions : List HolmDecision
  registeredTrialIds : List String
  evidenceDigest : String
deriving DecidableEq

/-- What a caller of `holm_adjust` gives. -/
structure HolmRequest where
  familyId : String
  tests : List HypothesisTest
  registeredTrialIds : List String
  alpha : ℚ

namespace HolmRequest

variable (r : HolmRequest)

/-- The checks of the arguments. -/
def check : Except String Unit := do
  text r.familyId "family_id"
  raiseIf (¬ (0 < r.alpha ∧ r.alpha < 1)) "alpha must be in (0, 1)"
  raiseIf (r.tests = []) "nonempty hypothesis family required"
  raiseIf (¬ (r.tests.map HypothesisTest.hypothesisId).Nodup) "duplicate hypothesis identity"
  textTuple r.registeredTrialIds "registered_trial_ids"
  raiseIf (¬ r.registeredTrialIds.Nodup) "duplicate trial identity"
  raiseIf (¬ ((∀ i ∈ r.registeredTrialIds, i ∈ r.tests.map HypothesisTest.hypothesisId) ∧
      ∀ i ∈ r.tests.map HypothesisTest.hypothesisId, i ∈ r.registeredTrialIds))
    "complete registered trial family required"

/-- The order of the procedure: by p-value, and by name among equal ones. -/
def before (a b : HypothesisTest) : Prop := toLex (a.pValue, a.hypothesisId) ≤ toLex (b.pValue, b.hypothesisId)

instance : DecidableRel before := fun a b =>
  inferInstanceAs (Decidable (toLex (a.pValue, a.hypothesisId) ≤ toLex (b.pValue, b.hypothesisId)))

/-- `ordered`. -/
def ordered : List HypothesisTest := r.tests.insertionSort before

end HolmRequest

/-- The variables of the loop of `holm_adjust`. -/
structure HolmState where
  rejected : List String
  active : Bool
  runningAdjusted : ℚ
  adjusted : List (String × ℚ)

def HolmState.start : HolmState := ⟨[], true, 0, []⟩

/-- One iteration of the loop, over an item and its index. -/
def HolmState.step (alpha : ℚ) (total : Nat) (s : HolmState) (entry : HypothesisTest × Nat) : HolmState :=
  let multiplier : ℚ := (total - entry.2 : Nat)
  let running := max s.runningAdjusted (min 1 (entry.1.pValue * multiplier))
  let active := s.active && decide (entry.1.pValue ≤ alpha / multiplier)
  { rejected := if active then s.rejected ++ [entry.1.hypothesisId] else s.rejected
    active := active
    runningAdjusted := running
    adjusted := Dict.set entry.1.hypothesisId running s.adjusted }

namespace HolmRequest

variable (r : HolmRequest)

/-- The variables after the loop. -/
def loop : HolmState := r.ordered.zipIdx.foldl (HolmState.step r.alpha r.ordered.length) .start

/-- The decision on a test: every hypothesis of the family has an adjusted p-value. -/
def decision (item : HypothesisTest) : HolmDecision where
  hypothesisId := item.hypothesisId
  rawPValue := item.pValue
  adjustedPValue := (Dict.get? item.hypothesisId r.loop.adjusted).getD 0
  rejected := decide (item.hypothesisId ∈ r.loop.rejected)

def decisions : List HolmDecision := r.tests.map r.decision

end HolmRequest

/-- The body that the evidence digest is made from. -/
def holmBody (env : Environment) (r : HolmRequest) : Json :=
  .obj [("family_id", .str r.familyId),
    ("alpha", .str (env.decimalText r.alpha)),
    ("decisions", .arr (r.decisions.map fun d => .arr [.str d.hypothesisId, .str (env.decimalText d.rawPValue),
      .str (env.decimalText d.adjustedPValue), .bool d.rejected])),
    ("registered_trial_ids", .arr (r.registeredTrialIds.map .str))]

/-- `holm_adjust`. -/
def holmAdjust (env : Environment) (r : HolmRequest) : Except String HolmResult := do
  r.check
  return ⟨r.familyId, r.alpha, r.decisions, r.registeredTrialIds, env.digest "HOLM-V1" (holmBody env r)⟩

end ATB.StatisticalAssurance
