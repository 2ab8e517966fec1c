import Mathlib.Data.List.Dedup
import AutomatedTradingBot.Framework.Dict
import AutomatedTradingBot.Source.Stage5.IdentityScope

/-!
# The scope registry

`stage5/scope_registry.py`: `validate` of a change set and `verify_registration` of an
operation's envelope, with `IdentityRecordV1` and the signed containers of
`stage5/identity_scope.py`. A change set is a wire value. The tables that the two
functions read are the fields of a `Database`; the digest of bytes and the database's
`verify_u3_signature` are parameters, and nothing is assumed of them.

The dictionaries `records`, `entries` and `parents` of `validate`, which have the
digest of an identity for their key, are one list of `Node`s; `graph[d]` is `parentsOf`.
A recursion that is deeper than the number of nodes is a `RecursionError`.
-/

namespace ATB.Stage5.ScopeRegistry

open IdentityScope (Value canonicalBytes parseCanonical)

inductive Error where
  | identityScope (message : String)
  | registry (message : String)
  | keyError (key : String)
  | typeError
  | recursionError
deriving DecidableEq

structure Environment where
  py : Platform
  /-- `unicodedata.category(c).startswith("C")`. -/
  isControl : Char → Bool
  /-- `hashlib.sha256(raw).hexdigest()`. -/
  sha256 : ByteArray → String
  /-- `atis_soe.verify_u3_signature`. -/
  verifyU3Signature : String → ByteArray → ByteArray → String

/-! ## Wire values -/

def Value.text? : Value → Option String
  | .str s => some s
  | _ => none

def Value.isNone : Value → Bool
  | .none => true
  | _ => false

/-- `value or {}`. -/
def Value.orEmpty : Value → Value
  | .none | .bool false | .int 0 | .str "" | .list [] | .tuple [] => .dict []
  | v => v

/-- `value[name]`. -/
def item (v : Value) (name : String) : Except Error Value :=
  match v with
  | .dict fields => orRaise (.keyError name) ((fields.find? fun f => f.1 = some name).map Prod.snd)
  | _ => .error .typeError

/-- `exact_fields`. -/
def exactFields (v : Value) (names : List String) : Except Error Unit :=
  match v with
  | .dict fields =>
    raiseIf (¬ ((∀ f ∈ fields, ∃ name ∈ names, f.1 = some name) ∧ ∀ name ∈ names, ∃ f ∈ fields, f.1 = some name))
      (.identityScope "missing or unknown fields")
  | _ => .error (.identityScope "INPUT_INVALID: object required")

/-- `positive`. -/
def positive (v : Value) (name : String) : Except Error Nat :=
  match v with
  | .int n =>
    if 1 ≤ n ∧ n ≤ 2 ^ 63 - 1 then .ok n.toNat else .error (.identityScope ("invalid signed-64-bit " ++ name))
  | _ => .error (.identityScope ("invalid signed-64-bit " ++ name))

section

variable (env : Environment)

/-- `canonical_bytes`. -/
def canonical (v : Value) : Except Error ByteArray := (canonicalBytes env.py v).mapError .identityScope

/-- `_text`. -/
def text (v : Value) (name : String) : Except Error String := do
  let s ← orRaise (.identityScope (name ++ " must be non-empty canonical text")) (Value.text? v)
  raiseIf (s = "" ∨ Text.strip (Text.chars s) ≠ Text.chars s)
    (.identityScope (name ++ " must be non-empty canonical text"))
  raiseIf (env.py.isNfc s = false) (.identityScope (name ++ " must be NFC normalized"))
  raiseIf ((Text.chars s).any env.isControl) (.identityScope (name ++ " contains a prohibited code point"))
  return s

/-- The index of a character of the base64 alphabet. -/
def base64Index (c : Char) : Option Nat :=
  if 'A' ≤ c ∧ c ≤ 'Z' then some (c.toNat - 65)
  else if 'a' ≤ c ∧ c ≤ 'z' then some (c.toNat - 71)
  else if '0' ≤ c ∧ c ≤ '9' then some (c.toNat + 4)
  else if c = '+' then some 62
  else if c = '/' then some 63
  else none

/-- The text is the base64 text of 64 bytes. -/
def canonicalSignature (s : String) : Bool :=
  let cs := Text.chars s
  decide (cs.length = 88) && decide (cs.drop 86 = ['=', '=']) &&
    (cs.take 86).all (fun c => (base64Index c).isSome) &&
    ((cs[85]?.bind base64Index).any fun n => n % 16 = 0)

/-- The payload of a container with a signature. -/
def containerPayload (container : Value) : Except Error Value := do
  exactFields container ["algorithm", "payload", "signature_b64"]
  let algorithm ← item container "algorithm"
  raiseIf (Value.text? algorithm ≠ some "ECDSA_P256_SHA256") (.identityScope "wrong signature algorithm")
  let signature ← item container "signature_b64"
  raiseIf (¬ (Value.text? signature).any canonicalSignature) (.identityScope "noncanonical signature")
  let payload ← item container "payload"
  raiseIf (payload.isDict = false) (.identityScope "INPUT_INVALID: object required")
  return payload

/-- `parse_container`: its payload. -/
def parseContainer (raw : ByteArray) : Except Error Value := do
  let container ← (parseCanonical env.py raw).mapError .identityScope
  containerPayload container

end

/-! ## Identities -/

/-- `SCOPE_KINDS`. -/
inductive ScopeKind where
  | global
  | account
  | portfolio
  | strategy
  | instrument
  | currency
  | operation
deriving DecidableEq

namespace ScopeKind

def value : ScopeKind → String
  | global => "GLOBAL"
  | account => "ACCOUNT"
  | portfolio => "PORTFOLIO"
  | strategy => "STRATEGY"
  | instrument => "INSTRUMENT"
  | currency => "CURRENCY"
  | operation => "OPERATION"

/-- `SCOPE_KINDS.index(dimension)`. -/
def index : ScopeKind → Nat
  | global => 0
  | account => 1
  | portfolio => 2
  | strategy => 3
  | instrument => 4
  | currency => 5
  | operation => 6

def all : List ScopeKind := [global, account, portfolio, strategy, instrument, currency, operation]

def ofValue? (v : Value) : Option ScopeKind := all.find? fun k => Value.text? v = some k.value

/-- `supported`. -/
def supported : List ScopeKind := [global, account, portfolio, operation]

end ScopeKind

/-- `IdentityRecordV1`, without its schema, which is one text. -/
structure IdentityRecordV1 where
  dimension : ScopeKind
  ns : String
  deploymentId : String
  value : String
  producerId : String
  producerEpoch : Nat
deriving DecidableEq

namespace IdentityRecordV1

def schema : String := "scope-identity/v1"

/-- The producer and the namespace of an account or a portfolio. -/
def ownProducer (kind ns producerId : String) : Prop :=
  ns = "atis." ++ kind ++ "/v1" ∧ producerId = "atis." ++ kind ++ "-state-authority"

instance (kind ns producerId : String) : Decidable (ownProducer kind ns producerId) :=
  inferInstanceAs (Decidable (_ ∧ _))

/-- `IdentityRecordV1.parse`. -/
def parse (env : Environment) (v : Value) : Except Error IdentityRecordV1 := do
  exactFields v ["schema", "dimension", "namespace", "deployment_id", "value", "producer_id", "producer_epoch"]
  let given ← item v "schema"
  let dimension ← item v "dimension"
  raiseIf (Value.text? given ≠ some schema) (.identityScope "invalid identity schema/dimension")
  let dimension ← orRaise (.identityScope "invalid identity schema/dimension") (ScopeKind.ofValue? dimension)
  let ns ← text env (← item v "namespace") "namespace"
  let deploymentId ← text env (← item v "deployment_id") "deployment_id"
  let value ← text env (← item v "value") "value"
  let producerId ← text env (← item v "producer_id") "producer_id"
  let producerEpoch ← positive (← item v "producer_epoch") "producer epoch"
  raiseIf (dimension = .account ∧ ¬ ownProducer "account" ns producerId)
    (.identityScope "foreign identity producer/namespace")
  raiseIf (dimension = .portfolio ∧ ¬ ownProducer "portfolio" ns producerId)
    (.identityScope "foreign identity producer/namespace")
  return ⟨dimension, ns, deploymentId, value, producerId, producerEpoch⟩

def body (r : IdentityRecordV1) : Value := .dict
  [(some "schema", .str schema), (some "dimension", .str r.dimension.value), (some "namespace", .str r.ns),
    (some "deployment_id", .str r.deploymentId), (some "value", .str r.value), (some "producer_id", .str r.producerId),
    (some "producer_epoch", .int r.producerEpoch)]

def digest (env : Environment) (r : IdentityRecordV1) : Except Error String := do
  return env.sha256 (← canonical env r.body)

end IdentityRecordV1

/-! ## Tables -/

/-- A row of `scope_required_issuer`. -/
structure IssuerRow where
  deploymentId : String
  issuerDomain : String
  issuerRank : Nat

/-- A row of `scope_identity`. -/
structure IdentityRow where
  identityDigest : String
  deploymentId : String
  dimension : String
  ns : String
  value : String
  producerEpoch : Nat
  entry : Value
  invalidAfterEpoch : Option Nat

structure ChangeSet where
  identities : List Value
  relations : List Value
  rules : List Value
  issuers : List Value

/-- What `validate` reads of a signed transition. -/
structure RegistryPayload where
  actor : String
  deploymentId : String
  changeSet : ChangeSet

/-- A row of `registry_transition_command`, with the payload of its container. -/
structure CommandRow where
  commandDigest : String
  action : String
  payload : RegistryPayload

/-- A row of `scope_barrier`. -/
structure BarrierRow where
  identityDigest : String
  issuerDomain : String
  deploymentId : String
  scopeRank : Nat
  canonicalBytes : ByteArray
  issuerRank : Nat
  lifecycle : String
  gateStatus : String

/-- The tables, with `issuers` in the order of `issuer_rank`, and what `snapshot` gives. -/
structure Database where
  issuers : List IssuerRow
  identities : List IdentityRow
  commands : List CommandRow
  barriers : List BarrierRow
  snapshot : Value

/-! ## The identities of a change set -/

/-- An identity of a change set, with its entry and the parent that its assertion names. -/
structure Node where
  digest : String
  identity : IdentityRecordV1
  entry : Value
  asserted : Option Value

section

variable (env : Environment) (db : Database) (payload : RegistryPayload)

/-- The issuers are those that the deployment requires. -/
def checkIssuers : Except Error Unit := do
  raiseIf (db.issuers = [] ∨ ∃ r ∈ db.issuers, r.deploymentId ≠ payload.deploymentId) (.registry "U3_ISSUER_SET")
  raiseIf (payload.changeSet.issuers.map Value.text? ≠ db.issuers.map fun r => some r.issuerDomain)
    (.registry "U3_ISSUER_SET")

/-- Who vouches for an identity: the authority of an account or a portfolio by a signed
assertion, the registry's actor for the others. Gives the parent that a portfolio's
assertion names. -/
def checkAssertion (identity : IdentityRecordV1) (assertion : Value) : Except Error (Option Value) :=
  if identity.dimension = .account ∨ identity.dimension = .portfolio then do
    let raw ← canonical env assertion
    let status := env.verifyU3Signature identity.dimension.value (← canonical env identity.body) raw
    raiseIf (status ≠ "VALID_SIGNATURE_ONLY") (.registry ("U3_IDENTITY_AUTHENTICATION:" ++ status))
    let claimed ← parseContainer env raw
    if identity.dimension = .portfolio then return some (← item claimed "parent_account_identity_digest")
    else return none
  else do
    raiseIf (Value.isNone assertion = false ∨ identity.producerId ≠ payload.actor)
      (.registry "U3_REGISTRY_IDENTITY_CONTEXT")
    return none

/-- A row of the same identity: the same record, or an older one. -/
def checkOld (digest : String) (identity : IdentityRecordV1) (entry : Value) (row : IdentityRow) :
    Except Error Unit := do
  if row.identityDigest = digest then
    raiseIf (row.invalidAfterEpoch ≠ none) (.registry "U3_IDENTITY_ROLLBACK")
    let old ← canonical env row.entry
    raiseIf (old ≠ (← canonical env entry)) (.registry "U3_IDENTITY_ROLLBACK")
  else raiseIf (identity.producerEpoch ≤ row.producerEpoch) (.registry "U3_IDENTITY_ROLLBACK")

/-- The rows of `scope_identity` that an identity is compared with. -/
def oldRows (identity : IdentityRecordV1) : List IdentityRow :=
  db.identities.filter fun row => decide (row.deploymentId = identity.deploymentId) &&
    decide (row.dimension = identity.dimension.value) && decide (row.ns = identity.ns) &&
    decide (row.value = identity.value)

/-- One iteration over the identities. -/
def addIdentity (nodes : List Node) (entry : Value) : Except Error (List Node) := do
  exactFields entry ["record", "assertion"]
  let identity ← IdentityRecordV1.parse env (← item entry "record")
  raiseIf (identity.dimension ∉ ScopeKind.supported ∨ identity.deploymentId ≠ payload.deploymentId)
    (.registry "U3_IDENTITY_CONTEXT")
  let digest ← identity.digest env
  raiseIf (digest ∈ nodes.map Node.digest) (.registry "U3_DUPLICATE_IDENTITY")
  let asserted ← checkAssertion env payload identity (← item entry "assertion")
  raiseIf (identity.dimension = .global ∧ identity.value ≠ payload.deploymentId) (.registry "U3_GLOBAL_ROOT")
  (oldRows db identity).forM (checkOld env digest identity entry)
  return nodes ++ [⟨digest, identity, entry, asserted⟩]

/-- The place of an identity in a change set. -/
def orderKey (node : Node) : Except Error (Nat × ByteArray) := do
  return (node.identity.dimension.index, ← canonical env node.identity.body)

/-- The order of `bytes`. -/
def bytesLe (a b : ByteArray) : Prop := a.data.toList.map UInt8.toNat ≤ b.data.toList.map UInt8.toNat

instance (a b : ByteArray) : Decidable (bytesLe a b) := inferInstanceAs (Decidable (_ ≤ (_ : List Nat)))

/-- The identities are in order, with one root, and of every dimension. -/
def checkIdentities (nodes : List Node) : Except Error Unit := do
  let order ← nodes.mapM (orderKey env)
  raiseIf (¬ order.Pairwise (fun a b => a.1 < b.1 ∨ a.1 = b.1 ∧ bytesLe a.2 b.2) ∨ nodes = [] ∨
      (nodes.filter fun n => n.identity.dimension = .global).length ≠ 1)
    (.registry "U3_IDENTITY_ORDER_OR_ROOT")
  raiseIf (∃ kind ∈ ScopeKind.supported, kind ∉ nodes.map fun n => n.identity.dimension)
    (.registry "U3_INCOMPLETE_CLOSURE")

end

/-! ## The relations of a change set -/

structure Relation where
  child : String
  parent : String
  kind : String
deriving DecidableEq

/-- The order of the triples. -/
def Relation.before (a b : Relation) : Prop :=
  a.child < b.child ∨ a.child = b.child ∧ (a.parent < b.parent ∨ a.parent = b.parent ∧ a.kind < b.kind)

instance (a b : Relation) : Decidable (a.before b) := inferInstanceAs (Decidable (_ ∨ _ ∧ (_ ∨ _ ∧ _)))

/-- One iteration over the relations. A type that is not a text is refused here; the source
refuses it in the comparison of the triples or of their types. -/
def readRelation (nodes : List Node) (relation : Value) : Except Error Relation := do
  exactFields relation ["child", "parent", "type"]
  let child ← orRaise (.registry "U3_MISSING_PARENT") (Value.text? (← item relation "child"))
  let parent ← orRaise (.registry "U3_MISSING_PARENT") (Value.text? (← item relation "parent"))
  raiseIf (child ∉ nodes.map Node.digest ∨ parent ∉ nodes.map Node.digest) (.registry "U3_MISSING_PARENT")
  let kind ← orRaise (.registry "U3_RELATION_CONTEXT") (Value.text? (← item relation "type"))
  return ⟨child, parent, kind⟩

/-- `graph[digest]`. -/
def parentsOf (relations : List Relation) (digest : String) : List String :=
  (relations.filter fun r => r.child = digest).map Relation.parent

/-- `closure`, as a list without duplicates. -/
def closure (graph : String → List String) : Nat → String → List String → Except Error (List String)
  | 0, _, _ => .error .recursionError
  | fuel + 1, node, visiting => do
    raiseIf (node ∈ visiting) (.registry "U3_CYCLE")
    let above ← (graph node).mapM fun parent => closure graph fuel parent (node :: visiting)
    return (node :: above.flatten).dedup

def findNode (nodes : List Node) (digest : String) : Except Error Node :=
  orRaise (.keyError digest) (nodes.find? fun n => n.digest = digest)

/-- The type of a relation goes with the dimensions of its ends. -/
def checkRelation (nodes : List Node) (relation : Relation) : Except Error Unit := do
  let child ← findNode nodes relation.child
  let parent ← findNode nodes relation.parent
  if relation.kind = "PORTFOLIO_ACCOUNT" then
    raiseIf (child.identity.dimension ≠ .portfolio ∨ parent.identity.dimension ≠ .account ∨
        child.asserted.bind Value.text? ≠ some parent.digest) (.registry "U3_PARENT_SUBSTITUTION")
  else
    raiseIf (relation.kind ≠ "OPERATION_LEAF" ∨ child.identity.dimension ≠ .operation ∨
        parent.identity.dimension ≠ .portfolio) (.registry "U3_RELATION_CONTEXT")

/-- The number of parents that an identity has. -/
def expectedParents (kind : ScopeKind) : Nat := if kind = .portfolio ∨ kind = .operation then 1 else 0

/-! ## The rules of a change set -/

structure Rule where
  operationClass : String
  dimension : ScopeKind
  minimum : Nat
  maximum : Nat
deriving DecidableEq

def Rule.before (a b : Rule) : Prop :=
  a.operationClass < b.operationClass ∨ a.operationClass = b.operationClass ∧ a.dimension.index < b.dimension.index

instance (a b : Rule) : Decidable (a.before b) := inferInstanceAs (Decidable (_ ∨ _ ∧ _))

def readRule (rule : Value) : Except Error Rule := do
  exactFields rule ["operation_class", "dimension", "minimum", "maximum"]
  let context := Error.registry "U3_RULE_CONTEXT"
  let name ← orRaise context (Value.text? (← item rule "operation_class"))
  let kind ← orRaise context (ScopeKind.ofValue? (← item rule "dimension"))
  raiseIf (name = "" ∨ kind ∉ ScopeKind.supported) context
  let minimum ← positive (← item rule "minimum") "cardinality"
  let maximum ← positive (← item rule "maximum") "cardinality"
  raiseIf (maximum < minimum ∨ 256 < maximum) (.registry "U3_RULE_CARDINALITY")
  return ⟨name, kind, minimum, maximum⟩

/-- The rules of a class, against the closure of every operation. -/
def checkClass (nodes : List Node) (closures : List (Node × List String)) (rules : List Rule) : Except Error Unit := do
  raiseIf (¬ (∀ kind ∈ ScopeKind.supported, kind ∈ rules.map Rule.dimension)) (.registry "U3_INCOMPLETE_APPLICABILITY")
  (closures.filter fun c => c.1.identity.dimension = .operation).forM fun c => do
    let members ← c.2.mapM (findNode nodes)
    let dimensions := (members.map fun n => n.identity.dimension) ++ [.global]
    raiseIf (∃ rule ∈ rules, ¬ (rule.minimum ≤ dimensions.count rule.dimension ∧
        dimensions.count rule.dimension ≤ rule.maximum)) (.registry "U3_INCOMPLETE_CLOSURE")

/-- The rules of a change set, by operation class. -/
def checkRules (nodes : List Node) (closures : List (Node × List String)) (rules : List Rule) : Except Error Unit := do
  raiseIf (rules = [] ∨ ¬ rules.Pairwise Rule.before) (.registry "U3_RULE_CONTEXT")
  ((rules.map Rule.operationClass).dedup).forM fun name =>
    checkClass nodes closures (rules.filter fun r => r.operationClass = name)

/-! ## Validation -/

/-- An item that `validate` returns: an identity with a required issuer. -/
structure Barrier where
  identityDigest : String
  record : IdentityRecordV1
  entry : Value
  canonical : ByteArray
  scopeRank : Nat
  issuerDomain : String
  issuerRank : Nat

section

variable (env : Environment) (db : Database)

/-- The identities of a change set, checked one by one. -/
def readNodes (payload : RegistryPayload) : Except Error (List Node) :=
  payload.changeSet.identities.foldlM (addIdentity env db payload) []

/-- The relations and the closures of a change set. -/
def checkGraph (nodes : List Node) (relations : List Relation) : Except Error (List (Node × List String)) := do
  raiseIf (¬ relations.Pairwise Relation.before) (.registry "U3_RELATION_ORDER")
  let closures ← nodes.mapM fun node => do
    return (node, ← closure (parentsOf relations) (nodes.length + 1) node.digest [])
  relations.forM (checkRelation nodes)
  raiseIf (∃ node ∈ nodes, (parentsOf relations node.digest).length ≠ expectedParents node.identity.dimension)
    (.registry "U3_AMBIGUOUS_PARENT")
  return closures

/-- `validate`. -/
def validate (payload : RegistryPayload) : Except Error (List Barrier) := do
  checkIssuers db payload
  let nodes ← readNodes env db payload
  checkIdentities env nodes
  let relations ← payload.changeSet.relations.mapM (readRelation nodes)
  let closures ← checkGraph nodes relations
  let rules ← payload.changeSet.rules.mapM readRule
  checkRules nodes closures rules
  let barriers ← nodes.mapM fun node => do
    let bytes ← canonical env node.identity.body
    return db.issuers.map fun issuer =>
      (⟨node.digest, node.identity, node.entry, bytes, node.identity.dimension.index, issuer.issuerDomain,
        issuer.issuerRank⟩ : Barrier)
  return barriers.flatten

end

/-! ## Registration -/

/-- The payload of a signed scope envelope. -/
structure ScopeEnvelope where
  deploymentId : String
  catalogueEpoch : Nat
  operationClass : String
  leafIdentities : List Value
  closureDigest : String
  identityAssertions : List Value

/-- What `verify_registration` reads of `U3RegistrationEvidenceV1`: the envelope is the payload of
the signed container. -/
structure RegistrationEvidence where
  operationId : String
  operationCoreBytes : ByteArray
  signedScopeEnvelopeBytes : ByteArray
  envelope : ScopeEnvelope

/-- `scope_catalogue_state`, with the deployment's identity. -/
structure RegistryState where
  deployment : String
  catalogueEpoch : Nat
  lastActivationDigest : Option String

/-- An identity of the active change set, with its entry. -/
structure Recorded where
  identity : IdentityRecordV1
  record : Value
  assertion : Value

/-- The four bytes of `struct.pack(">I", n)`. -/
def packed (n : Nat) : List UInt8 := [n / 2 ^ 24, n / 2 ^ 16, n / 2 ^ 8, n].map UInt8.ofNat

/-- `bytes.fromhex`, of an even number of hexadecimal digits. -/
def fromHex : List Char → List UInt8
  | a :: b :: rest => UInt8.ofNat (hexDigit a * 16 + hexDigit b) :: fromHex rest
  | _ => []
where
  hexDigit (c : Char) : Nat := if c.isDigit then c.toNat - 48 else c.toNat - 87

/-- `[0-9a-f]`. -/
def isLowerHex (c : Char) : Bool :=
  decide (48 ≤ c.toNat) && decide (c.toNat ≤ 57) || decide (97 ≤ c.toNat) && decide (c.toNat ≤ 102)

/-- `hex_digest`. -/
def hexDigest (s : String) : Except Error Unit :=
  raiseIf (¬ ((Text.chars s).length = 64 ∧ (Text.chars s).all isLowerHex = true))
    (.identityScope "invalid digest or nonce")

/-- The depth-first `visit`: the members of the closure, in the order in which they are added. -/
def visit (graph : String → Except Error (List String)) : Nat → List String → String → Except Error (List String)
  | 0, _, _ => .error .recursionError
  | fuel + 1, members, digest =>
    if digest ∈ members then .ok members
    else do
      let parents ← graph digest
      parents.foldlM (visit graph fuel) (members ++ [digest])

section

variable (env : Environment) (db : Database)

/-- `digest_list`. -/
def digestList (values : List String) : Except Error String := do
  raiseIf (¬ values.Nodup) (.identityScope "duplicate identity digest")
  values.forM hexDigest
  return env.sha256 ⟨(packed values.length ++ values.flatMap fun v => packed 32 ++ fromHex (Text.chars v)).toArray⟩

def readRecord (entry : Value) : Except Error (String × Recorded) := do
  let record ← item entry "record"
  let identity ← IdentityRecordV1.parse env record
  let digest ← identity.digest env
  return (digest, ⟨identity, record, ← item entry "assertion"⟩)

/-- The identities of the active change set by their digests. -/
def readRecords (identities : List Value) : Except Error (List (String × Recorded)) := do
  let read ← identities.mapM (readRecord env)
  return Dict.ofList read

/-- `graph[relation["child"]].append(relation["parent"])`. -/
def readEdge (records : List (String × Recorded)) (relation : Value) : Except Error (String × String) := do
  let child ← orRaise .typeError (Value.text? (← item relation "child"))
  raiseIf (Dict.get? child records).isNone (.keyError child)
  let parent ← orRaise .typeError (Value.text? (← item relation "parent"))
  return (child, parent)

/-- `graph[digest]`. -/
def recordedParents (records : List (String × Recorded)) (edges : List (String × String)) (digest : String) :
    Except Error (List String) := do
  raiseIf (Dict.get? digest records).isNone (.keyError digest)
  return (edges.filter fun e => e.1 = digest).map Prod.snd

/-- `(SCOPE_KINDS.index(records[d]["record"]["dimension"]), d)`. -/
def scopeKey (records : List (String × Recorded)) (digest : String) : Nat × String :=
  (((Dict.get? digest records).map fun r => r.identity.dimension.index).getD 0, digest)

/-- `sorted(closure, key=…)`. -/
def sortedClosure (records : List (String × Recorded)) (members : List String) : List String :=
  members.insertionSort fun a b =>
    (scopeKey records a).1 < (scopeKey records b).1 ∨ (scopeKey records a).1 = (scopeKey records b).1 ∧ a ≤ b

/-- The closure of an operation: the root, and what `visit` adds to it. -/
def operationClosure (change : ChangeSet) (operationId : String) :
    Except Error (List (String × Recorded) × List String) := do
  let records ← readRecords env change.identities
  let operations := (records.filter fun r =>
    r.2.identity.dimension = .operation ∧ r.2.identity.value = operationId).map Prod.fst
  let roots := (records.filter fun r => r.2.identity.dimension = .global).map Prod.fst
  raiseIf (operations.length ≠ 1 ∨ roots.length ≠ 1) (.registry "U3_OPERATION_CONTEXT")
  let edges ← change.relations.mapM (readEdge records)
  let members ← operations.foldlM (visit (recordedParents records edges) (records.length + 1)) roots
  return (records, sortedClosure records members)

/-- A leaf identity and its assertion are those of the change set. -/
def checkLeaf (records : List (String × Recorded)) (leaf : IdentityRecordV1 × Value) : Except Error Unit := do
  let digest ← leaf.1.digest env
  let expected ← orRaise (.keyError digest) (Dict.get? digest records)
  let context := Error.registry "U3_IDENTITY_CONTEXT"
  raiseIf ((← canonical env leaf.1.body) ≠ (← canonical env expected.record)) context
  raiseIf ((← canonical env leaf.2) ≠ (← canonical env (Value.orEmpty expected.assertion))) context

/-- The envelope has the closure for its leaves, within the rules of its class, which are read
as `validate` reads them. -/
def checkLeaves (change : ChangeSet) (envelope : ScopeEnvelope) (records : List (String × Recorded))
    (ordered : List String) : Except Error Unit := do
  let leaves ← envelope.leafIdentities.mapM (IdentityRecordV1.parse env)
  let digests ← leaves.mapM (IdentityRecordV1.digest env)
  raiseIf (digests ≠ ordered ∨ envelope.closureDigest ≠ (← digestList env ordered)) (.registry "U3_INCOMPLETE_CLOSURE")
  let rules ← change.rules.mapM readRule
  let rules := rules.filter fun r => r.operationClass = envelope.operationClass
  let dimensions := leaves.map IdentityRecordV1.dimension
  raiseIf (rules = [] ∨ ∃ rule ∈ rules, ¬ (rule.minimum ≤ dimensions.count rule.dimension ∧
      dimensions.count rule.dimension ≤ rule.maximum)) (.registry "U3_INCOMPLETE_APPLICABILITY")
  (leaves.zip envelope.identityAssertions).forM (checkLeaf env records)
  raiseIf (leaves.length ≠ envelope.identityAssertions.length) (.identityScope "zip() arguments of different length")

/-- A row of the closure's barriers is as the registry has it. -/
def checkBarrier (state : RegistryState) (records : List (String × Recorded)) (row : BarrierRow) :
    Except Error Unit := do
  let expected ← orRaise (.keyError row.identityDigest) (Dict.get? row.identityDigest records)
  let bytes ← canonical env expected.record
  raiseIf (row.lifecycle ≠ "ACTIVE" ∨ row.gateStatus ≠ "DENY" ∨ row.deploymentId ≠ state.deployment ∨
      row.canonicalBytes ≠ bytes ∨ row.scopeRank ≠ expected.identity.dimension.index ∨
      (db.issuers.reverse.find? fun issuer => issuer.issuerDomain = row.issuerDomain).map IssuerRow.issuerRank ≠
        some row.issuerRank) (.registry "U3_BARRIER_CONTEXT")

/-- The barriers are those of the closure, for every required issuer. -/
def checkBarriers (state : RegistryState) (records : List (String × Recorded)) (ordered : List String) :
    Except Error Unit := do
  let rows := db.barriers.filter fun row => row.identityDigest ∈ ordered
  let wanted : List (String × String) := ordered.flatMap fun d => db.issuers.map fun issuer => (d, issuer.issuerDomain)
  let found : List (String × String) := rows.map fun row => (row.identityDigest, row.issuerDomain)
  raiseIf (¬ ((∀ key ∈ found, key ∈ wanted) ∧ ∀ key ∈ wanted, key ∈ found)) (.registry "U3_MISSING_BARRIER")
  rows.forM (checkBarrier env db state records)

/-- The active command of the registry. -/
def activeCommand (state : RegistryState) : Except Error RegistryPayload :=
  match db.commands.filter fun row => some row.commandDigest = state.lastActivationDigest ∧ row.action = "ACTIVATE" with
  | [row] => .ok row.payload
  | _ => .error (.registry "U3_REGISTRY_STATE")

/-- A change set as the wire value that `snapshot` is compared with. -/
def ChangeSet.body (change : ChangeSet) : Value := .dict
  [(some "identities", .list change.identities), (some "relations", .list change.relations),
    (some "rules", .list change.rules), (some "issuers", .list change.issuers)]

/-- The metadata are still those of the active command, under the locks. -/
def checkSnapshot (change : ChangeSet) (lock : Bool) : Except Error Unit :=
  if lock then do
    let current ← canonical env db.snapshot
    raiseIf (current ≠ (← canonical env change.body)) (.registry "U3_REGISTRY_STATE")
  else .ok ()

/-- `verify_registration`: the ordered closure. -/
def verifyRegistration (evidence : RegistrationEvidence) (state : RegistryState) (lock : Bool) :
    Except Error (ScopeEnvelope × List String) := do
  let envelope := evidence.envelope
  raiseIf (envelope.deploymentId ≠ state.deployment) (.registry "U3_DEPLOYMENT_REJECTED")
  raiseIf (envelope.catalogueEpoch ≠ state.catalogueEpoch) (.registry "U3_STALE_EPOCH")
  let command ← activeCommand db state
  let (records, ordered) ← operationClosure env command.changeSet evidence.operationId
  checkLeaves env command.changeSet envelope records ordered
  checkBarriers env db state records ordered
  checkSnapshot env db command.changeSet lock
  let _ ← validate env db command
  let status := env.verifyU3Signature "SCOPE" evidence.operationCoreBytes evidence.signedScopeEnvelopeBytes
  raiseIf (status ≠ "VALID_SIGNATURE_ONLY") (.registry status)
  return (envelope, ordered)

end

end ATB.Stage5.ScopeRegistry
