import AutomatedTradingBot.Framework.Outcome

/-!
# The restriction procedures of the commit boundary

`stage5/commit_boundary/sql/0001_soe_commit_boundary.sql`: the tables that
`begin_restriction` and `finalize_restriction` read and write, and the two
procedures. A procedure runs in a transaction: it raises and changes nothing, or
gives the database after it. An argument may be null, and a comparison with null is
not true. Instants are integers, and the clock is the session's.
-/

namespace ATB.Stage5.CommitBoundary

inductive RestrictionState where
  | pending
  | effective
  | reconciliationRequired
  | terminalDenied
deriving DecidableEq

namespace RestrictionState

def value : RestrictionState → String
  | .pending => "PENDING"
  | .effective => "EFFECTIVE"
  | .reconciliationRequired => "RECONCILIATION_REQUIRED"
  | .terminalDenied => "TERMINAL_DENIED"

/-- `state IN ('PENDING', 'RECONCILIATION_REQUIRED')`. -/
def open? : RestrictionState → Bool
  | .pending | .reconciliationRequired => true
  | .effective | .terminalDenied => false

/-- The states that `finalize_restriction` takes, by their text. -/
def final? (text : String) : Option RestrictionState :=
  [.effective, .reconciliationRequired, .terminalDenied].find? fun s => s.value = text

end RestrictionState

structure ScopeControl where
  scope : String
  generation : Int
  issuerEpoch : Int
  nextTicket : Int
  pendingCutover : Option Int
  effectiveCutover : Option Int
deriving DecidableEq

/-- The row `ACTIVE` of `identity_policy`. -/
structure IdentityPolicy where
  policyVersion : Int
  issuerIdentity : String
  deploymentIdentity : String
  recipient : String
  generation : Int
  issuerEpoch : Int
  revoked : Bool
deriving DecidableEq

structure G00Attestation where
  replayIdentity : String
  issuerIdentity : String
  deploymentIdentity : String
  recipient : String
  operationId : String
  requestDigest : String
  requestType : String
  scope : String
  generation : Int
  issuerEpoch : Int
  ticketSequence : Int
  observedCutoverSequence : Option Int
  policyVersion : Int
  validUntil : Int
  consumed : Bool
deriving DecidableEq

structure RestrictionRequest where
  operationId : String
  requestDigest : String
  scope : String
  issuerIdentity : String
  deploymentIdentity : String
  generation : Int
  issuerEpoch : Int
  ticketSequence : Int
  replayIdentity : String
  state : RestrictionState
deriving DecidableEq

structure AuditEvent where
  eventType : String
  operationId : String
  requestDigest : String
  sessionIdentity : String
  detail : String
deriving DecidableEq

structure Database where
  scopeControl : List ScopeControl
  policy : Option IdentityPolicy
  attestations : List G00Attestation
  restrictions : List RestrictionRequest
  auditEvents : List AuditEvent
deriving DecidableEq

structure Session where
  user : String
  serializable : Bool
  publisher : Bool
  recovery : Bool
  /-- `clock_timestamp()`. -/
  now : Int
deriving DecidableEq

/-- `value <> argument`, as an `IF` takes it. -/
def differs (value : String) (argument : Option String) : Bool := argument.any fun x => value != x

/-- `LEAST(COALESCE(cutover, ticket), ticket)`. -/
def least (cutover : Option Int) (ticket : Int) : Int := min (cutover.getD ticket) ticket

/-- `UPDATE scope_control SET … WHERE scope = …`. -/
def updateScope (scope : String) (f : ScopeControl → ScopeControl) (rows : List ScopeControl) : List ScopeControl :=
  rows.map fun c => if c.scope = scope then f c else c

/-- `require_serializable`. -/
def requireSerializable (session : Session) : Except String Unit :=
  raiseIf (session.serializable = false) "protected mutation requires SERIALIZABLE transaction"

/-- The policy that a restriction was attested under is the active one. -/
def policyMatches (a : G00Attestation) (p : IdentityPolicy) : Bool :=
  !p.revoked && decide ((p.policyVersion, p.issuerIdentity, p.deploymentIdentity, p.recipient, p.generation,
    p.issuerEpoch) = (a.policyVersion, a.issuerIdentity, a.deploymentIdentity, a.recipient, a.generation,
    a.issuerEpoch))

/-- `begin_restriction`. -/
def beginRestriction (db : Database) (session : Session)
    (replayIdentity operationId requestDigest targetState : Option String) : Except String (Database × Int) := do
  requireSerializable session
  raiseIf (session.publisher = false) "session identity is not authorised for protected operation"
  raiseIf (differs "PENDING" targetState = true) "restriction must begin PENDING"
  let a ← orRaise "invalid restriction attestation"
    (db.attestations.find? fun a => some a.replayIdentity = replayIdentity)
  raiseIf (a.consumed = true ∨ a.validUntil ≤ session.now ∨ differs a.operationId operationId = true ∨
    differs a.requestDigest requestDigest = true ∨ a.requestType ≠ "RESTRICTION") "invalid restriction attestation"
  raiseIf (db.policy.any (policyMatches a) = false) "restriction identity policy is stale, revoked or foreign"
  let c ← orRaise "stale restriction authority or cutover binding"
    (db.scopeControl.find? fun c => c.scope = a.scope)
  raiseIf (c.generation ≠ a.generation ∨ c.issuerEpoch ≠ a.issuerEpoch ∨
    a.observedCutoverSequence ≠ c.effectiveCutover) "stale restriction authority or cutover binding"
  raiseIf (∃ r ∈ db.restrictions, r.operationId = a.operationId ∨ r.replayIdentity = a.replayIdentity)
    "duplicate key value violates unique constraint"
  raiseIf (least c.pendingCutover a.ticketSequence < 0) "new row violates check constraint"
  let request : RestrictionRequest :=
    { operationId := a.operationId, requestDigest := a.requestDigest, scope := a.scope,
      issuerIdentity := a.issuerIdentity, deploymentIdentity := a.deploymentIdentity, generation := a.generation,
      issuerEpoch := a.issuerEpoch, ticketSequence := a.ticketSequence, replayIdentity := a.replayIdentity,
      state := .pending }
  return ({ db with
    restrictions := db.restrictions ++ [request]
    attestations := db.attestations.map fun x =>
      if x.replayIdentity = a.replayIdentity then { x with consumed := true } else x
    scopeControl := updateScope a.scope (fun c => { c with pendingCutover := some (least c.pendingCutover a.ticketSequence) })
      db.scopeControl
    auditEvents := db.auditEvents ++
      [⟨"RESTRICTION_PENDING", a.operationId, a.requestDigest, session.user, a.scope⟩] }, a.ticketSequence)

/-- `SELECT min(ticket_sequence) … WHERE scope = … AND state IN ('PENDING', 'RECONCILIATION_REQUIRED')`. -/
def nextPending (rows : List RestrictionRequest) (scope : String) : Option Int :=
  ((rows.filter fun r => decide (r.scope = scope) && r.state.open?).map RestrictionRequest.ticketSequence).min?

/-- `finalize_restriction`. -/
def finalizeRestriction (db : Database) (session : Session) (operationId requestDigest state : Option String) :
    Except String Database := do
  requireSerializable session
  raiseIf (session.publisher = false ∧ session.recovery = false) "publisher or recovery role required"
  raiseIf (∃ text ∈ state, RestrictionState.final? text = none) "invalid restriction terminal state"
  let r ← orRaise "restriction identity conflict"
    (db.restrictions.find? fun r => some r.operationId = operationId)
  raiseIf (differs r.requestDigest requestDigest = true) "restriction identity conflict"
  let next ← orRaise "null value in column state violates not-null constraint"
    (state.bind RestrictionState.final?)
  let restrictions := db.restrictions.map fun x =>
    if x.operationId = r.operationId then { x with state := next } else x
  let scopeControl :=
    if next = .effective ∨ next = .terminalDenied then
      updateScope r.scope
        (fun c => { c with effectiveCutover := some (least c.effectiveCutover r.ticketSequence) }) db.scopeControl
    else db.scopeControl
  return { db with
    restrictions := restrictions
    scopeControl := updateScope r.scope (fun c => { c with pendingCutover := nextPending restrictions r.scope })
      scopeControl
    auditEvents := db.auditEvents ++
      [⟨"RESTRICTION_" ++ next.value, r.operationId, r.requestDigest, session.user, r.scope⟩] }

/-! ## Calls -/

/-- A call of one of the two procedures, or what the other procedures of the schema may
leave in the tables that these two only read. -/
inductive ProcedureCall where
  | beginRestriction (session : Session) (replayIdentity operationId requestDigest targetState : Option String)
  | finalizeRestriction (session : Session) (operationId requestDigest state : Option String)
  | others (policy : Option IdentityPolicy) (attestations : List G00Attestation)

/-- The transaction of a call. -/
def ProcedureCall.perform (db : Database) : ProcedureCall → Except String Database
  | .beginRestriction session replayIdentity operationId requestDigest targetState =>
    Prod.fst <$> CommitBoundary.beginRestriction db session replayIdentity operationId requestDigest targetState
  | .finalizeRestriction session operationId requestDigest state =>
    CommitBoundary.finalizeRestriction db session operationId requestDigest state
  | .others policy attestations => .ok { db with policy := policy, attestations := attestations }

/-- A call that raises leaves the database as it was. -/
def step (db : Database) (call : ProcedureCall) : Database :=
  match call.perform db with
  | .ok db' => db'
  | .error _ => db

/-- The databases of a sequence of calls, from the first to the last. -/
def visited (db : Database) : List ProcedureCall → List Database
  | [] => [db]
  | call :: calls => db :: visited (step db call) calls

/-- The database after a sequence of calls. -/
def after (db : Database) (calls : List ProcedureCall) : Database := calls.foldl step db

end ATB.Stage5.CommitBoundary
