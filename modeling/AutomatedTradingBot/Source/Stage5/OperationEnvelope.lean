import AutomatedTradingBot.Source.Stage5.Authority
import AutomatedTradingBot.Source.Stage5.IdentityScope

/-!
# Operation requests

`stage5/commit_boundary/operation_envelope.py`: the canonical form of a request's
parameters, and the request that is identified by their digest. A `MappingProxyType`,
which is no `dict`, is `other` among Python values; the plain form of a canonical value
is JSON data. Texts are without surrogates, which `_text` refuses.
-/

namespace ATB.Stage5.OperationEnvelope

open ATB.Stage5.IdentityScope (Value maxStrDigits)

structure Environment where
  py : Platform
  /-- `unicodedata.category(character).startswith("C")`. -/
  isControl : Char → Bool
  /-- `str.upper`. -/
  upper : String → String

inductive Error where
  | operationContract (message : String)
  /-- `ValueError` of an integer that is too long to be written. -/
  | intTooLong
  | assertion
deriving DecidableEq

variable (env : Environment)

/-- `_text`; a value that is not a `str` is `none`. -/
def text (name : String) (value : Option String) : Except Error String := do
  let value ← orRaise (.operationContract (name ++ " must be non-empty canonical text")) value
  raiseIf (value = "" ∨ Text.strip (Text.chars value) ≠ Text.chars value)
    (.operationContract (name ++ " must be non-empty canonical text"))
  raiseIf (¬ env.py.isNfc value) (.operationContract (name ++ " must use NFC-normalized Unicode"))
  raiseIf ((Text.chars value).any env.isControl) (.operationContract (name ++ " contains a prohibited Unicode code point"))
  return value

/-- `CanonicalValue`: sequences are tuples, and mappings read-only views. -/
inductive CanonicalValue where
  | none
  | bool (b : Bool)
  | int (n : Int)
  | str (s : String)
  | tuple (items : List CanonicalValue)
  | mapping (fields : List (String × CanonicalValue))

/-- `sorted` of items by their keys. -/
def sortItems {α : Type} (items : List (String × α)) : List (String × α) := items.insertionSort fun f g => f.1 ≤ g.1

mutual

/-- `_canonical`. -/
def canonical (path : String) : Value → Except Error CanonicalValue
  | .none => .ok .none
  | .str s => do return .str (← text env path (some s))
  | .bool b => .ok (.bool b)
  | .int n => .ok (.int n)
  | .list items => do return .tuple (← canonicalItems (path ++ "[]") items)
  | .tuple items => do return .tuple (← canonicalItems (path ++ "[]") items)
  | .dict fields => do
    fields.forM fun f => discard (text env (path ++ ".key") f.1)
    let items ← (sortItems (canonicalFields path fields)).mapM fun f => do return (f.1, ← f.2)
    return .mapping items
  | .other => .error (.operationContract (path ++ " contains a noncanonical value"))

def canonicalItems (path : String) : List Value → Except Error (List CanonicalValue)
  | [] => .ok []
  | v :: vs => do
    let c ← canonical path v
    let cs ← canonicalItems path vs
    return c :: cs

/-- The items of a `dict`, each with what `_canonical` makes of its value once it comes to it. -/
def canonicalFields (path : String) : List (Option String × Value) → List (String × Except Error CanonicalValue)
  | [] => []
  | f :: fs => canonicalField path f :: canonicalFields path fs

def canonicalField (path : String) : Option String × Value → String × Except Error CanonicalValue
  | (k, v) => (k.getD "", canonical (path ++ "." ++ k.getD "") v)

end

mutual

/-- `_plain`. -/
def plain : CanonicalValue → Json
  | .none => .null
  | .bool b => .bool b
  | .int n => .int n
  | .str s => .str s
  | .tuple items => .arr (plainItems items)
  | .mapping fields => .dict (sortItems (plainFields fields))

def plainItems : List CanonicalValue → List Json
  | [] => []
  | c :: cs => plain c :: plainItems cs

def plainFields : List (String × CanonicalValue) → List (String × Json)
  | [] => []
  | f :: fs => plainField f :: plainFields fs

def plainField : String × CanonicalValue → String × Json
  | (k, c) => (k, plain c)

end

mutual

/-- A canonical value among Python values. -/
def stored : CanonicalValue → Value
  | .none => .none
  | .bool b => .bool b
  | .int n => .int n
  | .str s => .str s
  | .tuple items => .tuple (storedItems items)
  | .mapping _ => .other

def storedItems : List CanonicalValue → List Value
  | [] => []
  | c :: cs => stored c :: storedItems cs

end

mutual

/-- Plain data among Python values. -/
def ofPlain : Json → Value
  | .null => .none
  | .bool b => .bool b
  | .int n => .int n
  | .str s => .str s
  | .arr items => .list (ofPlainItems items)
  | .dict fields => .dict (ofPlainFields fields)

def ofPlainItems : List Json → List Value
  | [] => []
  | j :: js => ofPlain j :: ofPlainItems js

def ofPlainFields : List (String × Json) → List (Option String × Value)
  | [] => []
  | f :: fs => ofPlainField f :: ofPlainFields fs

def ofPlainField : String × Json → Option String × Value
  | (k, j) => (some k, ofPlain j)

end

mutual

/-- Whether `json.dumps` writes every integer of the data. -/
def printable : Json → Bool
  | .int n => decide ((Nat.toDigits 10 n.natAbs).length ≤ maxStrDigits)
  | .arr items => printableItems items
  | .dict fields => printableFields fields
  | _ => true

def printableItems : List Json → Bool
  | [] => true
  | j :: js => printable j && printableItems js

def printableFields : List (String × Json) → Bool
  | [] => true
  | f :: fs => printableField f && printableFields fs

def printableField : String × Json → Bool
  | (_, j) => printable j

end

def domain : String := "ATIS-STAGE5-SERIALIZABLE-OPERATION-V1\x00"

/-- `operation_digest`. -/
def operationDigest (body : Json) : Except Error String := do
  raiseIf (printable body = false) .intTooLong
  return env.py.hexdigest (Text.chars domain ++ dumpsAscii body)

/-- The fields of a request beside its parameters and its digest. -/
structure Header where
  operationId : String
  requestType : String
  scope : String
  amountMinor : Option Int
  currency : Option String
  expectedGeneration : Int
  expectedEpoch : Int
deriving DecidableEq

structure OperationRequest extends Header where
  immutableParameters : List (String × CanonicalValue)
  digest : String

/-- The checks of `__post_init__` before it comes to the parameters. -/
def Header.check (h : Header) : Except Error Unit := do
  discard (text env "operation_id" (some h.operationId))
  discard (text env "request_type" (some h.requestType))
  discard (text env "scope" (some h.scope))
  raiseIf (h.expectedGeneration < 0) (.operationContract "expected_generation must be a non-negative int")
  raiseIf (h.expectedEpoch < 0) (.operationContract "expected_epoch must be a non-negative int")
  raiseIf (∃ n ∈ h.amountMinor, n < 0) (.operationContract "amount_minor must be a non-negative int or None")
  raiseIf (h.amountMinor.isNone ≠ h.currency.isNone) (.operationContract "amount and currency must be supplied together")
  match h.currency with
  | none => return ()
  | some currency =>
    discard (text env "currency" (some currency))
    raiseIf (currency ≠ env.upper currency ∨ (Text.chars currency).length ≠ 3)
      (.operationContract "currency must be a three-letter uppercase code")

/-- `_body()`, its keys in the order in which they are written. -/
def Header.body (h : Header) (parameters : CanonicalValue) : Json :=
  .dict
    [("amount_minor", (h.amountMinor.map Json.int).getD .null),
     ("currency", (h.currency.map Json.str).getD .null),
     ("expected_epoch", .int h.expectedEpoch),
     ("expected_generation", .int h.expectedGeneration),
     ("immutable_parameters", plain parameters),
     ("operation_id", .str h.operationId),
     ("request_type", .str h.requestType),
     ("scope", .str h.scope)]

/-- `isinstance(canonical, Mapping)`. -/
def requireMapping : CanonicalValue → Except Error (List (String × CanonicalValue))
  | .mapping fields => .ok fields
  | _ => .error .assertion

/-- `OperationRequest(…)`, with its `__post_init__`. -/
def OperationRequest.make (h : Header) (parameters : List (String × CanonicalValue)) (digest : String) :
    Except Error OperationRequest := do
  h.check env
  let canonical ← canonical env "immutable_parameters" (.dict (parameters.map fun f => (some f.1, stored f.2)))
  let fields ← requireMapping canonical
  let expected ← operationDigest env (h.body (.mapping fields))
  raiseIf (digest ≠ expected) (.operationContract "operation identity/content digest mismatch")
  return ⟨h, fields, digest⟩

/-- `OperationRequest.create`. -/
def OperationRequest.create (h : Header) (parameters : List (Option String × Value)) : Except Error OperationRequest := do
  let canonical ← canonical env "immutable_parameters" (.dict parameters)
  let fields ← requireMapping canonical
  let digest ← operationDigest env (h.body (.mapping fields))
  OperationRequest.make env h fields digest

/-- `_plain(request.immutable_parameters)`, as the parameters of another request. -/
def OperationRequest.plainParameters (r : OperationRequest) : List (Option String × Value) :=
  match plain (.mapping r.immutableParameters) with
  | .dict fields => ofPlainFields fields
  | _ => []

end ATB.Stage5.OperationEnvelope
