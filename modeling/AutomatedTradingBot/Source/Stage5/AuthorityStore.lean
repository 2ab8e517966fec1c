import AutomatedTradingBot.Framework.Datetime
import AutomatedTradingBot.Framework.Dict
import AutomatedTradingBot.Framework.Durable
import AutomatedTradingBot.Source.Stage5.Authority

/-!
# The authority store

The store of `stage5/authority_service/persistence.py`: the authority state and the
results of its commands in one SQLite database, and beside it the two values of the
Windows registry that witness it, the anchor and the pending successor. An operation
holds the store's lock from its first read to its last write. Its durable steps are
the registry writes and the commit of a transaction, and it may be cut off before any
of them.

The row of the state is the state whose canonical JSON it holds, and a result is its
text. `datetime.fromisoformat` is a parameter, of which only that it reads what
`isoformat` writes is known.
-/

namespace ATB.Stage5.AuthorityStore

open ATB.Durable

structure Environment where
  py : Platform
  /-- `datetime.fromisoformat`: nothing when it raises, and no instant when what it returns is
  not at `timezone.utc`. -/
  fromisoformat : String → Option (Option Datetime)
  fromisoformat_isoformat : ∀ t : Datetime, fromisoformat t.isoformat = some (some t)

inductive StoreError where
  | authorityService (message : String)
  | unicodeEncode
deriving DecidableEq

/-! ## Recovery dispositions -/

inductive ApdDisposition where
  | normalPredecessor
  | failClosedOwnerResolution
  | completeAnchorAdvance
  | completePendingResolution
  | normalSuccessor
  | failClosedUnprovenCommit
  | failClosedRollbackOrContradiction
  | failClosedContradiction
deriving DecidableEq

def ApdDisposition.value : ApdDisposition → String
  | .normalPredecessor => "NORMAL_PREDECESSOR"
  | .failClosedOwnerResolution => "FAIL_CLOSED_OWNER_RESOLUTION"
  | .completeAnchorAdvance => "COMPLETE_ANCHOR_ADVANCE"
  | .completePendingResolution => "COMPLETE_PENDING_RESOLUTION"
  | .normalSuccessor => "NORMAL_SUCCESSOR"
  | .failClosedUnprovenCommit => "FAIL_CLOSED_UNPROVEN_COMMIT"
  | .failClosedRollbackOrContradiction => "FAIL_CLOSED_ROLLBACK_OR_CONTRADICTION"
  | .failClosedContradiction => "FAIL_CLOSED_CONTRADICTION"

structure RecoveryDecision where
  disposition : ApdDisposition
  operational : Bool
deriving DecidableEq

/-- `classify_recovery`. -/
def classifyRecovery (anchor : String) (pending : Option String) (database : String) : RecoveryDecision :=
  if pending ≠ none ∧ pending ≠ some database ∧ database ≠ anchor then ⟨.failClosedContradiction, false⟩
  else if anchor = database ∧ pending = none then ⟨.normalSuccessor, true⟩
  else if pending = some anchor ∧ anchor = database then ⟨.completePendingResolution, false⟩
  else if pending ≠ none ∧ anchor = database then ⟨.failClosedOwnerResolution, false⟩
  else if pending = some database ∧ anchor ≠ database then ⟨.completeAnchorAdvance, false⟩
  else if pending = none ∧ anchor ≠ database then ⟨.failClosedUnprovenCommit, false⟩
  else if pending ≠ none ∧ anchor ≠ database then ⟨.failClosedRollbackOrContradiction, false⟩
  else ⟨.failClosedContradiction, false⟩

/-! ## States -/

inductive RetainedAuthorityStatus where
  | active
  | revoked
  | superseded
  | expired
deriving DecidableEq

def RetainedAuthorityStatus.value : RetainedAuthorityStatus → String
  | .active => "ACTIVE"
  | .revoked => "REVOKED"
  | .superseded => "SUPERSEDED"
  | .expired => "EXPIRED"

/-- `AuthorityState` without its digest. -/
structure AuthorityBody where
  domainIdentity : String
  storeEpoch : String
  sequence : Int
  authorityId : String
  authorityHead : String
  authorityGeneration : Int
  authorityStatus : RetainedAuthorityStatus
  authorityValidFrom : String
  authorityExpiresAt : String
  currency : String
  providerDescriptorDigest : String
  providerImplementationIdentity : String
  policyId : String
  policyVersion : Int
  trustedTimeHighWater : String
  currentKeyId : String
  currentKeyVersion : Int
  keyRecords : List String
deriving DecidableEq

/-- `AuthorityState`; `body()` drops the digest. -/
structure AuthorityState extends AuthorityBody where
  stateDigest : String
deriving DecidableEq

/-- The fields of `body()`, in the order in which they are written. -/
def AuthorityBody.json (b : AuthorityBody) : Json :=
  .obj
    [("authority_expires_at", .str b.authorityExpiresAt),
     ("authority_generation", .int b.authorityGeneration),
     ("authority_head", .str b.authorityHead),
     ("authority_id", .str b.authorityId),
     ("authority_status", .str b.authorityStatus.value),
     ("authority_valid_from", .str b.authorityValidFrom),
     ("currency", .str b.currency),
     ("current_key_id", .str b.currentKeyId),
     ("current_key_version", .int b.currentKeyVersion),
     ("domain_identity", .str b.domainIdentity),
     ("key_records", .arr (b.keyRecords.map .str)),
     ("policy_id", .str b.policyId),
     ("policy_version", .int b.policyVersion),
     ("provider_descriptor_digest", .str b.providerDescriptorDigest),
     ("provider_implementation_identity", .str b.providerImplementationIdentity),
     ("sequence", .int b.sequence),
     ("store_epoch", .str b.storeEpoch),
     ("trusted_time_high_water", .str b.trustedTimeHighWater)]

/-- One row of `commands`. -/
structure CommandRow where
  payloadDigest : String
  resultDigest : String
  resultJson : String
deriving DecidableEq

/-- The database file: the row of `metadata`, and `commands` by `command_id`. -/
structure Database where
  state : AuthorityState
  commands : List (String × CommandRow)
deriving DecidableEq

/-- The database and the two values of the registry. -/
structure Store where
  database : Database
  authorityAnchor : Option String
  authorityPending : Option String
deriving DecidableEq

variable (env : Environment)

/-- `digest(value)`. -/
def digest (value : Json) : String := env.py.hexdigest (dumpsAscii value)

/-- `result.hex()`. -/
def hex (result : String) : String :=
  String.ofList ((Text.chars result).flatMap fun c => (String.utf8EncodeChar c).flatMap fun b => Uuid.hexChars 2 b.toNat)

/-- `same_digest`. -/
def sameDigest (left right : String) : Except StoreError Bool := do
  raiseIf (¬ (Text.chars left ++ Text.chars right).all fun c => c.toNat < 128) .unicodeEncode
  return decide (left = right)

/-- `AuthorityState.create`. -/
def AuthorityState.create (body : AuthorityBody) : AuthorityState := ⟨body, digest env body.json⟩

def day : Int := 24 * 60 * 60 * 1000000

/-- The last check of `verify`. -/
def checkValidity : Option Datetime → Option Datetime → Option Datetime → Except StoreError Unit
  | some validFrom, some expiresAt, some _ =>
    raiseIf (expiresAt ≤ validFrom ∨ day < expiresAt.microseconds - validFrom.microseconds)
      (.authorityService "authority validity is invalid")
  | _, _, _ => .error (.authorityService "authority validity is invalid")

/-- `AuthorityState.verify`. -/
def AuthorityState.verify (s : AuthorityState) : Except StoreError Unit := do
  raiseIf (s.stateDigest ≠ digest env s.toAuthorityBody.json) (.authorityService "authority state digest mismatch")
  raiseIf (s.domainIdentity = "" ∨ s.storeEpoch = "" ∨ s.authorityId = "" ∨ s.currency = "" ∨ s.authorityHead = "" ∨
      s.sequence < 0 ∨ s.authorityGeneration < 1 ∨ s.policyVersion < 1)
    (.authorityService "authority state is semantically invalid")
  let validFrom ← orRaise (.authorityService "authority time is invalid") (env.fromisoformat s.authorityValidFrom)
  let expiresAt ← orRaise (.authorityService "authority time is invalid") (env.fromisoformat s.authorityExpiresAt)
  let highWater ← orRaise (.authorityService "authority time is invalid") (env.fromisoformat s.trustedTimeHighWater)
  checkValidity validFrom expiresAt highWater

/-! ## The database -/

/-- `read`. -/
def read (database : Database) : Except StoreError AuthorityState := do
  database.state.verify env
  return database.state

/-- `result_body.get("state_digest")`, when the result is an object and the value text. -/
def resultStateDigest (body : Json) : Option String :=
  match body.get? "state_digest" with
  | some (.str s) => some s
  | _ => none

/-- `type(text) is not str or not same_digest(text, digest)`. -/
def differs (text : Option String) (digest : String) : Except StoreError Bool :=
  match text with
  | none => .ok true
  | some text => (fun same => !same) <$> sameDigest text digest

/-- `command_result`. -/
def commandResult (database : Database) (commandId payloadDigest stateDigest : String) :
    Except StoreError (Option String) :=
  match Dict.get? commandId database.commands with
  | none => .ok none
  | some row => do
    let same ← sameDigest row.payloadDigest payloadDigest
    raiseIf (same = false) (.authorityService "command ID reused with conflicting payload")
    let same ← sameDigest row.resultDigest (digest env (.str (hex row.resultJson)))
    raiseIf (same = false) (.authorityService "committed command result digest mismatch")
    let body ← orRaise (.authorityService "committed command result is invalid") (Json.loads (Text.chars row.resultJson))
    let stale ← differs (resultStateDigest body) stateDigest
    raiseIf (stale = true) (.authorityService "committed command witness is not current")
    return some row.resultJson

/-- `_require_successor`. -/
def requireSuccessor (current successor : AuthorityState) : Except StoreError Unit := do
  raiseIf (successor.domainIdentity ≠ current.domainIdentity ∨ successor.storeEpoch ≠ current.storeEpoch ∨
      successor.currency ≠ current.currency ∨ successor.sequence ≠ current.sequence + 1 ∨
      (successor.authorityGeneration ≠ current.authorityGeneration ∧
        successor.authorityGeneration ≠ current.authorityGeneration + 1) ∨
      Text.before successor.trustedTimeHighWater current.trustedTimeHighWater)
    (.authorityService "invalid authority successor")
  if successor.authorityGeneration = current.authorityGeneration then
    raiseIf (successor.authorityId ≠ current.authorityId ∨
        successor.providerDescriptorDigest ≠ current.providerDescriptorDigest ∨
        successor.providerImplementationIdentity ≠ current.providerImplementationIdentity ∨
        successor.policyId ≠ current.policyId ∨ successor.policyVersion ≠ current.policyVersion ∨
        successor.authorityValidFrom ≠ current.authorityValidFrom ∨
        successor.authorityExpiresAt ≠ current.authorityExpiresAt ∨
        (current.authorityStatus ≠ .active ∧ successor.authorityStatus = .active))
      (.authorityService "invalid same-generation authority successor")
  else
    raiseIf (successor.authorityStatus ≠ .active ∨ successor.authorityId = current.authorityId)
      (.authorityService "invalid authority-generation successor")

/-- The command is not in the database yet. -/
def requireNew (database : Database) (commandId payloadDigest : String) : Except StoreError Unit :=
  match Dict.get? commandId database.commands with
  | none => .ok ()
  | some row => do
    let same ← sameDigest row.payloadDigest payloadDigest
    raiseIf (same = false) (.authorityService "command ID reused with conflicting payload")
    .error (.authorityService "command already committed")

/-- `commit_successor`, up to its `COMMIT`: the database that is committed. -/
def commitSuccessor (expectedDigest commandId payloadDigest : String) (successor : AuthorityState) (result : String)
    (database : Database) : Except StoreError Database := do
  successor.verify env
  let body ← orRaise (.authorityService "command result is invalid") (Json.loads (Text.chars result))
  let mismatch ← differs (resultStateDigest body) successor.stateDigest
  raiseIf (mismatch = true) (.authorityService "command result witness mismatch")
  let same ← sameDigest database.state.stateDigest expectedDigest
  raiseIf (same = false) (.authorityService "stale authority predecessor")
  let current ← read env database
  requireSuccessor current successor
  requireNew database commandId payloadDigest
  return ⟨successor, Dict.set commandId ⟨payloadDigest, digest env (.str (hex result)), result⟩ database.commands⟩

/-! ## The witness -/

/-- `WindowsRegistryWitness._read`. -/
def registryRead (name : String) (value : Option String) : Except StoreError (Option String) := do
  raiseIf (value = some "") (.authorityService ("protected witness " ++ name ++ " is invalid"))
  return value

def readAnchor (s : Store) : Except StoreError String := do
  let value ← registryRead "AuthorityAnchor" s.authorityAnchor
  orRaise (.authorityService "protected authority anchor is absent") value

def readPending (s : Store) : Except StoreError (Option String) :=
  registryRead "AuthorityPending" s.authorityPending

def writePending (value : String) : Durable.Operation Store StoreError Unit := do
  let s ← get
  let pending ← check (readPending s)
  check (raiseIf (pending ≠ none) (.authorityService "protected pending witness already exists"))
  write fun s => { s with authorityPending := some value }

def writeAnchor (value : String) : Durable.Operation Store StoreError Unit :=
  write fun s => { s with authorityAnchor := some value }

def clearPending (expected : String) : Durable.Operation Store StoreError Unit := do
  let s ← get
  let pending ← check (readPending s)
  check (raiseIf (pending ≠ some expected) (.authorityService "protected pending witness changed"))
  write fun s => { s with authorityPending := none }

/-! ## Operations -/

/-- The state of the database, when the witness is coherent with it. -/
def operationalState : Durable.Operation Store StoreError AuthorityState := do
  let s ← get
  let current ← check (read env s.database)
  let anchor ← check (readAnchor s)
  let pending ← check (readPending s)
  let decision := classifyRecovery anchor pending current.stateDigest
  check (raiseIf (decision.operational = false)
    (.authorityService ("authority witness is not operational: " ++ decision.disposition.value)))
  return current

/-- The pending successor is written and read back. -/
def announce (value readback : String) : Durable.Operation Store StoreError Unit := do
  writePending value
  let s ← get
  let pending ← check (readPending s)
  check (raiseIf (pending ≠ some value) (.authorityService readback))

/-- `commit_successor`. -/
def commit (expectedDigest commandId payloadDigest : String) (successor : AuthorityState) (result : String) :
    Durable.Operation Store StoreError Unit := do
  let s ← get
  let database ← check (commitSuccessor env expectedDigest commandId payloadDigest successor result s.database)
  write fun s => { s with database := database }

/-- The anchor is advanced to the successor, read back, and the pending successor is cleared. -/
def settle (value anchorReadback pendingReadback : String) : Durable.Operation Store StoreError Unit := do
  writeAnchor value
  let s ← get
  let anchor ← check (readAnchor s)
  check (raiseIf (anchor ≠ value) (.authorityService anchorReadback))
  clearPending value
  let s ← get
  let pending ← check (readPending s)
  check (raiseIf (pending ≠ none) (.authorityService pendingReadback))

/-- What `publish` does when the command is new. -/
def publishNew (current : AuthorityState) (commandId payloadDigest : String) (successor : AuthorityState) (result : String) :
    Durable.Operation Store StoreError String := do
  announce successor.stateDigest "pending witness readback failed"
  commit env current.stateDigest commandId payloadDigest successor result
  let s ← get
  let committed ← check (read env s.database)
  check (raiseIf (committed.stateDigest ≠ successor.stateDigest) (.authorityService "committed authority readback failed"))
  settle successor.stateDigest "anchor readback failed" "pending witness resolution failed"
  return result

/-- `publish`. -/
def publish (commandId payloadDigest : String) (successor : AuthorityState) (result : String) :
    Durable.Operation Store StoreError String := do
  let current ← operationalState env
  let s ← get
  let prior ← check (commandResult env s.database commandId payloadDigest current.stateDigest)
  match prior with
  | some prior => return prior
  | none => publishNew env current commandId payloadDigest successor result

/-- `retry_result`. -/
def retryResult (commandId payloadDigest : String) : Durable.Operation Store StoreError String := do
  let state ← operationalState env
  let s ← get
  let result ← check (commandResult env s.database commandId payloadDigest state.stateDigest)
  check (orRaise (.authorityService "stale Management authority head") result)

/-- `recover`. -/
def recover : Durable.Operation Store StoreError AuthorityState := do
  let s ← get
  let state ← check (read env s.database)
  let pending ← check (readPending s)
  let anchor ← check (readAnchor s)
  let decision := classifyRecovery anchor pending state.stateDigest
  repair state pending decision
  let s ← get
  let anchor ← check (readAnchor s)
  let pending ← check (readPending s)
  check (raiseIf ((classifyRecovery anchor pending state.stateDigest).operational = false)
    (.authorityService "authority recovery readback failed"))
  return state
where
  /-- `if pending is None: raise …`, then `clear_pending(pending)`. -/
  resolve (pending : Option String) : Durable.Operation Store StoreError Unit := do
    let pending ← check (orRaise (.authorityService "recovery pending witness is missing") pending)
    clearPending pending
  repair (state : AuthorityState) (pending : Option String) (decision : RecoveryDecision) :
      Durable.Operation Store StoreError Unit :=
    if decision.disposition = .completeAnchorAdvance then do
      writeAnchor state.stateDigest
      let s ← get
      let anchor ← check (readAnchor s)
      check (raiseIf (anchor ≠ state.stateDigest) (.authorityService "recovery anchor readback failed"))
      resolve pending
    else if decision.disposition = .completePendingResolution then resolve pending
    else check (raiseIf (decision.operational = false)
      (.authorityService ("authority recovery requires owner resolution: " ++ decision.disposition.value)))

/-- The result of a command that the store makes for itself. -/
def commandText (commandId : String) (successor : AuthorityState) : String :=
  String.ofList (dumpsAscii (.obj [("command_id", .str commandId), ("state_digest", .str successor.stateDigest)]))

/-- The authority has expired: an `EXPIRED` successor is committed, and no admission is made. -/
def expire (state : AuthorityState) (observedAt : String) : Durable.Operation Store StoreError AuthorityState := do
  let body := { state.toAuthorityBody with
    sequence := state.sequence + 1, trustedTimeHighWater := observedAt, authorityStatus := .expired }
  let successor := AuthorityState.create env { body with authorityHead := digest env body.json }
  let commandId := "EXPIRE:" ++ state.authorityId ++ ":" ++ state.authorityExpiresAt
  let payloadDigest := digest env
    (.obj [("authority_id", .str state.authorityId), ("expires_at", .str state.authorityExpiresAt)])
  announce successor.stateDigest "expiry pending readback failed"
  commit env state.stateDigest commandId payloadDigest successor (commandText commandId successor)
  settle successor.stateDigest "expiry anchor readback failed" "expiry pending resolution failed"
  check (.error (.authorityService "authority is expired"))

/-- The high water is advanced to the observed time. -/
def advanceTime (state : AuthorityState) (observedAt : String) : Durable.Operation Store StoreError AuthorityState := do
  let successor := AuthorityState.create env { state.toAuthorityBody with
    sequence := state.sequence + 1, trustedTimeHighWater := observedAt }
  let commandId := "TRUSTED_TIME:" ++ observedAt
  announce successor.stateDigest "trusted-time pending readback failed"
  commit env state.stateDigest commandId (digest env (.obj [("observed_at", .str observedAt)])) successor
    (commandText commandId successor)
  settle successor.stateDigest "trusted-time anchor readback failed" "trusted-time pending resolution failed"
  return successor

/-- The checks of `admission_witness` on times: whether the authority has expired. -/
def checkTimes (state : AuthorityState) (observedAt : String) : Except StoreError Bool := do
  let invalid := StoreError.authorityService "trusted authority time is invalid"
  let observed ← orRaise invalid (env.fromisoformat observedAt)
  let highWater ← orRaise invalid (env.fromisoformat state.trustedTimeHighWater)
  let validFrom ← orRaise invalid (env.fromisoformat state.authorityValidFrom)
  let expiresAt ← orRaise invalid (env.fromisoformat state.authorityExpiresAt)
  let observed ← orRaise (.authorityService "trusted time must be canonical UTC") observed
  -- `read` has checked that the times of the state are at UTC.
  let highWater ← orRaise invalid highWater
  let validFrom ← orRaise invalid validFrom
  let expiresAt ← orRaise invalid expiresAt
  raiseIf (observed < highWater) (.authorityService "trusted time moved backwards")
  raiseIf (state.authorityStatus ≠ .active) (.authorityService "authority is not active")
  raiseIf (observed < validFrom) (.authorityService "authority is not yet valid")
  return decide (expiresAt ≤ observed)

/-- `admission_witness`, up to its `yield`. -/
def admissionWitness (observedAt : String) : Durable.Operation Store StoreError AuthorityState := do
  let state ← operationalState env
  let expired ← check (checkTimes env state observedAt)
  if expired = true then expire env state observedAt
  else if Text.before state.trustedTimeHighWater observedAt then advanceTime env state observedAt
  else return state

end ATB.Stage5.AuthorityStore
