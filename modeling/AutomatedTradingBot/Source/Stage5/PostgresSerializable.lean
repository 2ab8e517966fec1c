import AutomatedTradingBot.Framework.Calls
import AutomatedTradingBot.Framework.Json

/-!
# The serializable operation envelope

`SerializableOperationEnvelope.execute` of
`stage5/commit_boundary/postgres_serializable.py` and what it calls, as code whose
calls are those of the clock, of the driver and of the backend: any of them may
raise, and what they return is not assumed to be right. `Locals` are the variables
that the clauses of `try` share.

The database is one operation's share of a serializable one. A transaction sees the
outcome that was durable at its first query, with what it has written itself, and it
takes effect only if that outcome is still the durable one. A `COMMIT` that raises
40001 has been aborted; after any other exception it may have taken effect, have been
aborted, or still be under way. `commits` and `history` are not in the source: the
transactions that have taken effect, and the calls that each `execute` has made.
-/

namespace ATB.Stage5.PostgresSerializable

open ATB.Calls

/-! ## Data -/

inductive OutcomeStatus where
  | committed
  | denied
  | restrictiveUnknown
deriving DecidableEq

structure DurableOutcome where
  operationId : String
  requestDigest : String
  status : OutcomeStatus
  resultCode : String
  capitalEffectMinor : Nat
  liabilityEffectMinor : Nat
deriving DecidableEq

/-- `OperationRequest`: what the envelope reads of it. -/
structure OperationRequest where
  operationId : String
  scope : String
  expectedGeneration : Int
  expectedEpoch : Int
  immutableParameters : List (String × Json)
  digest : String

structure AttemptContext where
  operationId : String
  requestDigest : String
  attempt : Nat
  backendIdentity : String
  transactionIdentity : String
  isolation : String
  orderingKey : String
  deadlineNs : Int
deriving DecidableEq

structure VerifiedAttemptEvidence where
  operationId : String
  requestDigest : String
  attempt : Nat
  backendIdentity : String
  transactionIdentity : String
  scope : String
  authorityGeneration : Int
  authorityEpoch : Int
  issuerIdentity : String
  timeProofId : String
  verificationDigest : String
deriving DecidableEq

structure AttemptRecord where
  operationId : String
  requestDigest : String
  attempt : Nat
  backendIdentity : String
  transactionIdentity : String
  isolation : String
  disposition : String
  orderingKey : String
  evidenceDigest : String
deriving DecidableEq

structure EnvelopeResult where
  outcome : DurableOutcome
  attempts : List AttemptRecord
  cleanupUnresolved : Bool
deriving DecidableEq

inductive Error where
  | isolationViolation (message : String)
  | operationConflict (message : String)
  | invalidOutcome (message : String)
  | authenticationFailure (message : String)
  | deadlineExhausted (message : String)
  /-- Any other exception, of the driver or of the backend. -/
  | raised (sqlstate : Option String)
deriving DecidableEq

/-- `_sqlstate`. -/
def Error.sqlstate : Error → Option String
  | .raised sqlstate => sqlstate
  | _ => none

/-- `SerializableOperationEnvelope`, as its constructor accepts it. -/
structure Envelope where
  maxAttempts : Nat
  operationTimeoutMs : Nat
  backoffMs : List Nat
  maxAttempts_bounds : 1 ≤ maxAttempts ∧ maxAttempts ≤ 10
  operationTimeoutMs_bounds : 1 ≤ operationTimeoutMs ∧ operationTimeoutMs ≤ 300000
  backoffMs_ne_nil : backoffMs ≠ []

/-! ## Calls -/

inductive Statement where
  | beginSerializable
  | setConfig (name : String) (timeoutMs : Int)
  | identity
deriving DecidableEq

/-- A call, with the connection that it is made on. -/
inductive Call where
  | clockNs
  | connectionFactory
  | setDeadline (c : Nat)
  | cursor (c : Nat)
  | sql (c : Nat) (statement : Statement)
  | fetchone (c : Nat)
  | lookup (c : Nat) (context : AttemptContext)
  | verifyAttempt (c : Nat) (context : AttemptContext)
  | execute (c : Nat) (context : AttemptContext) (evidence : VerifiedAttemptEvidence)
  | commit (c : Nat)
  | rollback (c : Nat)
  | cancel (c : Nat)
  | close (c : Nat)
  | terminate (c : Nat)
  | sleeper (delayMs : Nat)
deriving DecidableEq

@[reducible] def Reply : Call → Type
  | .clockNs => Int
  | .connectionFactory => Except Error Nat
  | .fetchone _ => Except Error (Option (List String))
  | .lookup .. => Except Error (Option DurableOutcome)
  | .verifyAttempt .. => Except Error VerifiedAttemptEvidence
  | .execute .. => Except Error DurableOutcome
  | .rollback _ | .cancel _ | .close _ => Except Error Bool
  | .setDeadline _ | .cursor _ | .sql .. | .commit _ | .terminate _ => Except Error Unit
  | .sleeper _ => Unit

/-- The variables of `execute`. -/
structure Locals where
  connection : Option Nat
  context : Option AttemptContext
  evidenceDigest : String
  attempts : List AttemptRecord
  seenProofs : List String

abbrev M : Type → Type := Code Locals Error Call Reply

def clockNs : M Int := Code.raising (.call .clockNs fun now => .ret (.ok now))
def connectionFactory : M Nat := Code.raising (.call .connectionFactory .ret)
def setDeadline (c : Nat) : M Unit := Code.raising (.call (.setDeadline c) .ret)
def cursor (c : Nat) : M Unit := Code.raising (.call (.cursor c) .ret)
def sql (c : Nat) (statement : Statement) : M Unit := Code.raising (.call (.sql c statement) .ret)
def fetchone (c : Nat) : M (Option (List String)) := Code.raising (.call (.fetchone c) .ret)
def commit (c : Nat) : M Unit := Code.raising (.call (.commit c) .ret)
def rollback (c : Nat) : M Bool := Code.raising (.call (.rollback c) .ret)
def cancel (c : Nat) : M Bool := Code.raising (.call (.cancel c) .ret)
def close (c : Nat) : M Bool := Code.raising (.call (.close c) .ret)
def terminate (c : Nat) : M Unit := Code.raising (.call (.terminate c) .ret)
def sleeper (delayMs : Nat) : M Unit := Code.raising (.call (.sleeper delayMs) fun r => .ret (.ok r))

namespace Backend

def lookup (c : Nat) (context : AttemptContext) : M (Option DurableOutcome) :=
  Code.raising (.call (.lookup c context) .ret)

def verifyAttempt (c : Nat) (context : AttemptContext) : M VerifiedAttemptEvidence :=
  Code.raising (.call (.verifyAttempt c context) .ret)

def execute (c : Nat) (context : AttemptContext) (evidence : VerifiedAttemptEvidence) : M DurableOutcome :=
  Code.raising (.call (.execute c context evidence) .ret)

end Backend

/-- A check that makes no call. -/
def check {α : Type} (r : Except Error α) : M α := Code.raising (.ret r)

/-! ## Deadlines -/

def deadlineError : Error := .deadlineExhausted "operation deadline exhausted"

def remainingNs (deadline : Int) : M Int := do
  let now ← clockNs
  return max 0 (deadline - now)

def remainingMs (deadline : Int) : M Int := do
  let remaining ← remainingNs deadline
  if remaining = 0 then throw deadlineError else pure (max 1 ((remaining + 999999) / 1000000))

def ensure (deadline : Int) : M Unit := do
  let remaining ← remainingNs deadline
  if remaining = 0 then throw deadlineError else pure ()

/-! ## Checks -/

/-- `_ordering_key`. -/
def orderingKey (request : OperationRequest) : Except Error String :=
  match (Json.find? "g00_ticket_id" request.immutableParameters).getD (.str request.operationId) with
  | .str candidate =>
    if candidate = "" then .error (.invalidOutcome "g00_ticket_id must be canonical text") else .ok candidate
  | _ => .error (.invalidOutcome "g00_ticket_id must be canonical text")

/-- `_validate_outcome`. -/
def validateOutcome (outcome : DurableOutcome) (request : OperationRequest) : Except Error Unit :=
  if outcome.operationId ≠ request.operationId ∨ outcome.requestDigest ≠ request.digest then
    .error (.invalidOutcome "outcome has a foreign operation identity or digest")
  else if outcome.status ≠ .committed ∧ (outcome.capitalEffectMinor ≠ 0 ∨ outcome.liabilityEffectMinor ≠ 0) then
    .error (.invalidOutcome "non-committed outcome cannot create financial effects")
  else .ok ()

/-- `_validate_evidence`. -/
def validateEvidence (evidence : VerifiedAttemptEvidence) (request : OperationRequest) (context : AttemptContext)
    (seenProofs : List String) : Except Error Unit :=
  if ¬ (evidence.operationId = request.operationId ∧ evidence.requestDigest = request.digest ∧
      evidence.attempt = context.attempt ∧ evidence.backendIdentity = context.backendIdentity ∧
      evidence.transactionIdentity = context.transactionIdentity ∧ evidence.scope = request.scope ∧
      evidence.authorityGeneration = request.expectedGeneration ∧ evidence.authorityEpoch = request.expectedEpoch) then
    .error (.authenticationFailure "attempt evidence is bound to a foreign context")
  else if evidence.issuerIdentity = "" ∨ evidence.timeProofId = "" ∨ evidence.verificationDigest = "" then
    .error (.authenticationFailure "attempt evidence is incomplete")
  else if evidence.timeProofId ∈ seenProofs then
    .error (.authenticationFailure "TimeProof was reused across transaction attempts")
  else .ok ()

/-! ## Transactions -/

/-- What `_begin` returns besides the cursor. -/
structure Identity where
  isolation : String
  backend : String
  transaction : String

/-- The row of the identity query. -/
def identity : Option (List String) → Except Error Identity
  | some [isolation, backend, transaction] =>
    if isolation.toLower = "serializable" then .ok ⟨isolation.toLower, backend, transaction⟩
    else .error (.isolationViolation "protected operation requires SERIALIZABLE isolation")
  | _ => .error (.isolationViolation "transaction identity was not returned")

/-- `_begin`. -/
def begin (c : Nat) (deadline : Int) : M Identity := do
  ensure deadline
  setDeadline c
  cursor c
  sql c .beginSerializable
  let timeout ← remainingMs deadline
  sql c (.setConfig "lock_timeout" timeout)
  sql c (.setConfig "statement_timeout" timeout)
  sql c .identity
  let row ← fetchone c
  check (identity row)

def attemptContext (request : OperationRequest) (attempt : Nat) (id : Identity) (orderingKey : String) (deadline : Int) :
    AttemptContext :=
  ⟨request.operationId, request.digest, attempt, id.backend, id.transaction, id.isolation, orderingKey, deadline⟩

/-- The checks of `_lookup_checked` on what it found. -/
def checkFound (request : OperationRequest) : Option DurableOutcome → Except Error Unit
  | none => .ok ()
  | some outcome =>
    if outcome.requestDigest ≠ request.digest then
      .error (.operationConflict "operation ID is already bound to another digest")
    else validateOutcome outcome request

/-- `_lookup_checked`. -/
def lookupChecked (request : OperationRequest) (c : Nat) (context : AttemptContext) : M (Option DurableOutcome) := do
  let outcome ← Backend.lookup c context
  check (checkFound request outcome)
  return outcome

/-- `_terminate`. -/
def terminateQuietly (c : Nat) : M Unit := tryCatch (terminate c) fun _ => pure ()

/-- `_cleanup`, with a rollback or without. -/
def cleanup (c : Nat) (rolled : Bool) : M Bool := do
  let clean ← (if rolled then tryCatch (rollback c) fun _ => pure false else pure true)
  let _ ← (if clean then pure true else tryCatch (cancel c) fun _ => pure false)
  let closed ← tryCatch (close c) fun _ => pure false
  let _ ← (if closed then pure () else terminateQuietly c)
  return clean && closed

/-- `_unknown`. -/
def unknown (request : OperationRequest) (resultCode : String) (cleanupUnresolved : Bool) : M EnvelopeResult := do
  let l ← get
  return ⟨⟨request.operationId, request.digest, .restrictiveUnknown, resultCode, 0, 0⟩, l.attempts, cleanupUnresolved⟩

/-- `_readback`. -/
def readback (request : OperationRequest) (deadline : Int) (attempt : Nat) (orderingKey : String) :
    M (Option DurableOutcome × Bool) :=
  tryCatch
    (do
      let c ← connectionFactory
      tryCatch
        (do
          let id ← begin c deadline
          let outcome ← lookupChecked request c (attemptContext request attempt id orderingKey deadline)
          let clean ← cleanup c true
          return (outcome, clean))
        fun _ => do
          let _ ← cleanup c true
          return (none, false))
    fun _ => pure (none, false)

/-- `_backoff`. -/
def backoff (envelope : Envelope) (deadline : Int) (attempt : Nat) : M Unit := do
  let delay := envelope.backoffMs.getD (min (attempt - 1) (envelope.backoffMs.length - 1)) 0
  if delay = 0 then ensure deadline
  else do
    let remaining ← remainingMs deadline
    if remaining ≤ delay then throw (.deadlineExhausted "retry backoff would exceed operation deadline")
    else do
      sleeper delay
      ensure deadline

/-! ## Attempts -/

/-- `attempts.append(AttemptRecord(..))`. -/
def record (request : OperationRequest) (attempt : Nat) (orderingKey disposition : String) : M Unit :=
  modify fun l =>
    let backend := (l.context.map (·.backendIdentity)).getD "UNESTABLISHED"
    let transaction := (l.context.map (·.transactionIdentity)).getD "UNESTABLISHED"
    let isolation := (l.context.map (·.isolation)).getD "UNESTABLISHED"
    { l with
      attempts := l.attempts ++
        [⟨request.operationId, request.digest, attempt, backend, transaction, isolation, disposition, orderingKey,
          l.evidenceDigest⟩] }

/-- `_cleanup` of the connection, which is not used any more. -/
def release (c : Nat) (rolled : Bool) : M Bool := do
  let clean ← cleanup c rolled
  modify fun l => { l with connection := none }
  return clean

/-- How the body of the loop ends. -/
inductive Flow where
  | result (r : EnvelopeResult)
  | next
  | stop

/-- `return EnvelopeResult(outcome, tuple(attempts), not clean)`. -/
def finish (outcome : DurableOutcome) (clean : Bool) : M Flow := do
  let l ← get
  return .result ⟨outcome, l.attempts, !clean⟩

/-- `return self._unknown(..)`. -/
def giveUp (request : OperationRequest) (resultCode : String) (cleanupUnresolved : Bool) : M Flow := do
  let r ← unknown request resultCode cleanupUnresolved
  return .result r

/-- The clause for an exception of `connection.commit`. -/
def commitFailed (envelope : Envelope) (request : OperationRequest) (deadline : Int) (orderingKey : String) (attempt c : Nat)
    (error : Error) : M Flow := do
  if error.sqlstate = some "40001" then do
    let clean ← release c true
    record request attempt orderingKey "SERIALIZATION_ABORT"
    if clean = false then giveUp request "CLEANUP_UNRESOLVED" true
    else if attempt = envelope.maxAttempts then pure .stop
    else do
      backoff envelope deadline attempt
      return .next
  else do
    let released ← release c false
    if released = false then do
      record request attempt orderingKey "AMBIGUOUS_RELEASE_FAILED"
      giveUp request "COMMIT_OUTCOME_UNKNOWN" true
    else do
      let (recovered, clean) ← readback request deadline attempt orderingKey
      match recovered with
      | none => do
        record request attempt orderingKey "AMBIGUOUS_COMMIT_UNKNOWN"
        giveUp request "COMMIT_OUTCOME_UNKNOWN" (!clean)
      | some outcome => do
        record request attempt orderingKey "AMBIGUOUS_COMMIT_RECOVERED"
        finish outcome clean

/-- The operation itself, when it has no outcome yet. -/
def protectedOperation (request : OperationRequest) (c : Nat) (context : AttemptContext) : M DurableOutcome := do
  let evidence ← Backend.verifyAttempt c context
  let l ← get
  check (validateEvidence evidence request context l.seenProofs)
  modify fun l => { l with seenProofs := evidence.timeProofId :: l.seenProofs }
  modify fun l => { l with evidenceDigest := evidence.verificationDigest }
  let outcome ← Backend.execute c context evidence
  check (validateOutcome outcome request)
  let durable ← lookupChecked request c context
  if durable = some outcome then pure outcome
  else throw (.invalidOutcome "protected operation did not persist its exact outcome")

/-- The body of `try`. -/
def body (envelope : Envelope) (request : OperationRequest) (deadline : Int) (orderingKey : String) (attempt : Nat) :
    M Flow := do
  ensure deadline
  let c ← connectionFactory
  modify fun l => { l with connection := some c }
  let id ← begin c deadline
  let context := attemptContext request attempt id orderingKey deadline
  modify fun l => { l with context := some context }
  let existing ← lookupChecked request c context
  match existing with
  | some outcome => do
    let clean ← release c true
    record request attempt orderingKey "IDEMPOTENT_READBACK"
    finish outcome clean
  | none => do
    let outcome ← protectedOperation request c context
    let error ← tryCatch (commit c >>= fun _ => pure none) fun e => pure (some e)
    match error with
    | some error => commitFailed envelope request deadline orderingKey attempt c error
    | none => do
      let clean ← release c false
      record request attempt orderingKey (if clean then "COMMITTED" else "COMMITTED_CLEANUP_UNRESOLVED")
      finish outcome clean

/-- `if connection is not None: clean = self._cleanup(..)`. -/
def abandon : M Bool := do
  let l ← get
  match l.connection with
  | none => pure true
  | some c => release c true

/-- `except DeadlineExhausted`. -/
def deadlineClause (request : OperationRequest) (orderingKey : String) (attempt : Nat) : M Flow := do
  let clean ← abandon
  record request attempt orderingKey "G00_PROGRESS_BREACH"
  giveUp request "G00_PROGRESS_BREACH" (!clean)

/-- `except Exception`. -/
def exceptionClause (envelope : Envelope) (request : OperationRequest) (deadline : Int) (orderingKey : String)
    (attempt : Nat) (error : Error) : M Flow := do
  let clean ← abandon
  if error.sqlstate = some "40001" then do
    record request attempt orderingKey "SERIALIZATION_ABORT"
    if clean = false then giveUp request "CLEANUP_UNRESOLVED" true
    else if attempt = envelope.maxAttempts then pure .stop
    else
      tryCatch
        (do
          backoff envelope deadline attempt
          return .next)
        fun e =>
          match e with
          | .deadlineExhausted _ => giveUp request "G00_PROGRESS_BREACH" false
          | e => throw e
  else throw error

/-- One turn of the loop of `execute`. -/
def turn (envelope : Envelope) (request : OperationRequest) (deadline : Int) (orderingKey : String) (attempt : Nat) :
    M Flow := do
  modify fun l => { l with connection := none, context := none, evidenceDigest := "UNVERIFIED" }
  tryCatch (body envelope request deadline orderingKey attempt) fun e =>
    match e with
    | .deadlineExhausted _ => deadlineClause request orderingKey attempt
    | e => exceptionClause envelope request deadline orderingKey attempt e

/-- The loop of `execute`, from this attempt on. -/
def turns (envelope : Envelope) (request : OperationRequest) (deadline : Int) (orderingKey : String) :
    Nat → Nat → M EnvelopeResult
  | 0, _ => unknown request "SERIALIZATION_RETRY_EXHAUSTED" false
  | remaining + 1, attempt => do
    let flow ← turn envelope request deadline orderingKey attempt
    match flow with
    | .result r => pure r
    | .next => turns envelope request deadline orderingKey remaining (attempt + 1)
    | .stop => unknown request "SERIALIZATION_RETRY_EXHAUSTED" false

def execute (envelope : Envelope) (request : OperationRequest) : M EnvelopeResult := do
  let now ← clockNs
  let deadline := now + envelope.operationTimeoutMs * 1000000
  let key ← check (orderingKey request)
  turns envelope request deadline key envelope.maxAttempts 1

def Locals.fresh : Locals := ⟨none, none, "UNVERIFIED", [], []⟩

/-! ## The database -/

inductive Status where
  | idle
  | active
  /-- `COMMIT` has been sent, and its acknowledgement has not come. -/
  | inFlight
  | committed
  | aborted
deriving DecidableEq

/-- The transaction of a connection, with the call of `execute` that opened it. -/
structure Transaction (ι : Type) where
  owner : Option ι
  status : Status
  /-- The durable outcome at the first query. -/
  snapshot : Option (Option DurableOutcome)
  view : Option DurableOutcome

structure Database (ι : Type) where
  durable : Option DurableOutcome
  commits : List Nat
  next : Nat
  transactions : Nat → Transaction ι
  history : ι → List Call

/-- What has become of a `COMMIT` that raises. -/
inductive Fate where
  | landed
  | aborted
  | inFlight
deriving DecidableEq

/-- What is not determined of the reply to a call. -/
inductive Choice where
  | raises (e : Error)
  | returns
  | clock (now : Int)
  | flag (b : Bool)
  | row (r : Option (List String))
  /-- The evidence, and the outcome that the transaction now sees. -/
  | verified (evidence : VerifiedAttemptEvidence) (view : Option DurableOutcome)
  | executed (outcome : DurableOutcome) (view : Option DurableOutcome)
  | commitRaises (e : Error) (fate : Fate)

namespace Database

variable {ι : Type} [DecidableEq ι]

def set (db : Database ι) (c : Nat) (x : Transaction ι) : Database ι :=
  { db with transactions := Function.update db.transactions c x }

/-- The call of `t` to `c` in its history. -/
def log (db : Database ι) (t : ι) (c : Call) : Database ι :=
  { db with history := Function.update db.history t (c :: db.history t) }

/-- Whether the connection has a transaction under way, and the caller opened it. -/
def isActive (db : Database ι) (t : ι) (c : Nat) : Bool :=
  (db.transactions c).owner = some t ∧ (db.transactions c).status = .active

/-- The transaction takes effect. -/
def land (db : Database ι) (c : Nat) : Database ι :=
  { db.set c { db.transactions c with status := .committed } with
    durable := (db.transactions c).view, commits := c :: db.commits }

/-- Whether what the transaction read is still so. -/
def serializable (db : Database ι) (c : Nat) : Bool := (db.transactions c).snapshot = some db.durable

/-- The first query takes the snapshot. -/
def query (db : Database ι) (c : Nat) : Database ι :=
  let x := db.transactions c
  match x.snapshot with
  | some _ => db
  | none => db.set c { x with snapshot := some db.durable, view := db.durable }

def runSql (db : Database ι) (t : ι) (c : Nat) : Statement → Option (Database ι)
  | .beginSerializable =>
    let x := db.transactions c
    if x.owner = some t ∧ x.status = .idle then some (db.set c { x with status := .active }) else none
  | .setConfig .. | .identity => if db.isActive t c then some (db.query c) else none

/-- The database after a `COMMIT` that raised. -/
def settle (db : Database ι) (c : Nat) : Fate → Option (Database ι)
  | .landed => if db.serializable c then some (db.land c) else none
  | .aborted => some (db.set c { db.transactions c with status := .aborted })
  | .inFlight => some (db.set c { db.transactions c with status := .inFlight })

/-- What a call does to the database, and its reply. -/
def serve (db : Database ι) (t : ι) : (c : Call) → Choice → Option (Reply c × Database ι)
  | .clockNs, .clock now => some (now, db)
  | .connectionFactory, .returns =>
    some (.ok db.next, { db.set db.next ⟨some t, .idle, none, none⟩ with next := db.next + 1 })
  | .connectionFactory, .raises e => some (.error e, db)
  | .setDeadline _, .returns | .cursor _, .returns | .terminate _, .returns => some (.ok (), db)
  | .setDeadline _, .raises e | .cursor _, .raises e | .terminate _, .raises e => some (.error e, db)
  | .sleeper _, .returns => some ((), db)
  | .sql c statement, .returns => (db.runSql t c statement).map fun db => (.ok (), db)
  | .sql .., .raises e => some (.error e, db)
  | .fetchone _, .row r => some (.ok r, db)
  | .fetchone _, .raises e => some (.error e, db)
  | .lookup c _, .returns =>
    if db.isActive t c ∧ (db.transactions c).snapshot.isSome then some (.ok (db.transactions c).view, db) else none
  | .lookup .., .raises e => some (.error e, db)
  | .verifyAttempt c _, .verified evidence view =>
    if db.isActive t c then some (.ok evidence, db.set c { db.transactions c with view := view }) else none
  | .verifyAttempt .., .raises e => some (.error e, db)
  | .execute c _ _, .executed outcome view =>
    if db.isActive t c then some (.ok outcome, db.set c { db.transactions c with view := view }) else none
  | .execute .., .raises e => some (.error e, db)
  | .commit c, .returns => if db.isActive t c ∧ db.serializable c then some (.ok (), db.land c) else none
  | .commit c, .commitRaises e fate =>
    if db.isActive t c ∧ (e.sqlstate = some "40001" → fate = .aborted) then
      (db.settle c fate).map fun db => (.error e, db)
    else none
  | .rollback c, .flag b =>
    some (.ok b, if b ∧ db.isActive t c then db.set c { db.transactions c with status := .aborted } else db)
  | .cancel _, .flag b | .close _, .flag b => some (.ok b, db)
  | .rollback _, .raises e | .cancel _, .raises e | .close _, .raises e => some (.error e, db)
  | _, _ => none

def answer (t : ι) (db : Database ι) (c : Call) (x : Choice) : Option (Reply c × Database ι) :=
  (db.serve t c x).map fun r => (r.1, r.2.log t c)

/-- A `COMMIT` under way takes effect, or is aborted. -/
def resolve (db : Database ι) : Nat × Bool → Option (Database ι)
  | (c, lands) =>
    if (db.transactions c).status ≠ .inFlight then none
    else if lands then db.settle c .landed
    else db.settle c .aborted

/-- A database with this outcome of the operation, and no connection. -/
def fresh (durable : Option DurableOutcome) : Database ι :=
  ⟨durable, [], 0, fun _ => ⟨none, .idle, none, none⟩, fun _ => []⟩

/-- Calls of `execute` over the database. -/
def system : System ι (Database ι) Choice (Nat × Bool) Call Reply := ⟨answer, resolve⟩

end Database

/-- Any number of calls of `execute` with one request, which are about to begin. -/
def start {ι : Type} (request : OperationRequest) (envelope : ι → Envelope) (durable : Option DurableOutcome) :
    State ι (Database ι) Call Reply (Except Error EnvelopeResult × Locals) :=
  ⟨.fresh durable, fun t => (execute (envelope t) request).program .fresh⟩

/-! ## What a call of `execute` has done -/

/-- The TimeProof that the backend was asked to execute under. -/
def Call.proof : Call → Option String
  | .execute _ _ evidence => some evidence.timeProofId
  | _ => none

def Call.isConnect : Call → Bool
  | .connectionFactory => true
  | _ => false

def Call.isExecute : Call → Bool
  | .execute .. => true
  | _ => false

def Call.isCommit : Call → Bool
  | .commit _ => true
  | _ => false

end ATB.Stage5.PostgresSerializable
