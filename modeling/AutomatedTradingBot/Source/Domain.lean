import AutomatedTradingBot.Framework.Datetime
import AutomatedTradingBot.Framework.Outcome
import AutomatedTradingBot.Framework.Uuid

/-!
# Domain values

The identifiers, currencies, sides and timestamps that the research modules
share (`domain/`, `research/identity.py`, `instruments/model.py`,
`corporate_actions/model.py`), and the exceptions they raise. A value is what
the Python object holds; `canonical` is the check that its constructor makes,
kept apart because the reconciliation also receives objects that bypassed their
constructor.
-/

namespace ATB

/-- The exception classes that the modelled code raises. -/
inductive ErrorClass where
  | typeError
  | valueError
  | arithmeticError
  | assertionError
  | keyError
  | ledgerContractError
  | simulatedExecutionError
  | performanceTruthError
  | simulationStateError
  | portfolioConstructionError
  | insufficientEvidenceError
  | robustnessAssuranceError
  | researchIdentityError
deriving DecidableEq

/-- A raised exception. -/
structure PyError where
  cls : ErrorClass
  message : String
deriving DecidableEq

/-- `except (ArithmeticError, AttributeError, TypeError, ValueError)`: every class
above but `AssertionError` and `KeyError` is one of these or a subclass. -/
def ErrorClass.caught : ErrorClass → Bool
  | .assertionError => false
  | .keyError => false
  | _ => true

abbrev Outcome := Except PyError

/-! ## Identifiers -/

structure OrderId where
  value : Uuid
deriving DecidableEq

structure TradeId where
  value : Uuid
deriving DecidableEq

structure InstrumentId where
  value : Uuid
deriving DecidableEq

structure Currency where
  code : String
deriving DecidableEq

structure EvidenceContentDigest where
  value : String
deriving DecidableEq

structure ResearchRunId where
  value : String
deriving DecidableEq

structure ActionVersionId where
  value : String
deriving DecidableEq

/-- `str(order_id)`. -/
def OrderId.str (i : OrderId) : String := "OrderId(value=UUID('" ++ i.value.str ++ "'))"

/-- `str(trade_id)`. -/
def TradeId.str (i : TradeId) : String := "TradeId(value=UUID('" ++ i.value.str ++ "'))"

def InstrumentId.lead : String := "atis:instrument:v1:"

def InstrumentId.toString (i : InstrumentId) : String := lead ++ i.value.str

/-- `_require_uuid4`. -/
def InstrumentId.canonical (i : InstrumentId) : Bool :=
  decide (i.value.int.val ≠ 0) && i.value.version == some 4

/-- `InstrumentId.parse`. -/
def InstrumentId.parse (text : String) : Outcome InstrumentId := do
  let token ← orRaise ⟨.valueError, "value has the wrong or missing identity namespace"⟩
    (Text.after? (Text.chars lead) (Text.chars text))
  let parsed ← orRaise ⟨.valueError, "value contains an invalid UUID"⟩
    (Uuid.ofString? (String.ofList token))
  raiseIf (¬ InstrumentId.canonical ⟨parsed⟩) ⟨.valueError, "value must be a non-nil RFC UUIDv4"⟩
  raiseIf (text ≠ lead ++ parsed.str) ⟨.valueError, "value is not in canonical form"⟩
  return ⟨parsed⟩

def Currency.canonical (c : Currency) : Bool :=
  decide ((Text.chars c.code).length = 3) && (Text.chars c.code).all fun ch => decide ('A' ≤ ch) && decide (ch ≤ 'Z')

/-- `Currency(code)`. -/
def Currency.make (code : String) : Outcome Currency := do
  raiseIf (¬ Currency.canonical ⟨code⟩)
    ⟨.valueError, "code must be exactly three ASCII uppercase letters"⟩
  return ⟨code⟩

def EvidenceContentDigest.canonical (d : EvidenceContentDigest) : Bool :=
  Text.fullmatch "sha256:" Text.isLowerHex 64 64 d.value

/-- `EvidenceContentDigest(value)`. -/
def EvidenceContentDigest.make (value : String) : Outcome EvidenceContentDigest := do
  raiseIf (¬ EvidenceContentDigest.canonical ⟨value⟩)
    ⟨.valueError, "value must be a canonical SHA-256 digest"⟩
  return ⟨value⟩

/-- The identity pattern admits the four kinds of research identity. -/
def ResearchRunId.canonical (r : ResearchRunId) : Bool :=
  ["run", "project", "hypothesis", "experiment"].any fun kind =>
    Text.fullmatch ("atis:research:" ++ kind ++ ":v1:sha256:") Text.isLowerHex 64 64 r.value

/-- `ResearchRunId(value)`. -/
def ResearchRunId.make (value : String) : Outcome ResearchRunId := do
  raiseIf (¬ ResearchRunId.canonical ⟨value⟩) ⟨.researchIdentityError, "identity is not canonical"⟩
  return ⟨value⟩

/-! ## Sides and times -/

inductive OrderSide where
  | buy
  | sell
deriving DecidableEq

def OrderSide.value : OrderSide → String
  | .buy => "BUY"
  | .sell => "SELL"

/-- `Timestamp`: an instant, compared through `value`. -/
structure Timestamp where
  value : Datetime
deriving DecidableEq

/-- `EligibilityState` of `pit_features.py`. -/
inductive EligibilityState where
  | eligible
  | ineligible
deriving DecidableEq

def EligibilityState.value : EligibilityState → String
  | .eligible => "ELIGIBLE"
  | .ineligible => "INELIGIBLE"

end ATB
