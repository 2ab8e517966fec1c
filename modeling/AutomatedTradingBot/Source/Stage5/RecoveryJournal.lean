import Mathlib.Logic.Function.Basic
import AutomatedTradingBot.Framework.Trace
import AutomatedTradingBot.Source.Stage5.Authority

/-!
# The recovery journal

`RecoveryJournal` of `stage5/commit_boundary/recovery_journal.py`. The store is the
SQLite file with its five tables, of which each `with self._connect(...)` block is
one transaction (`Tx`); beside it stand the fail-closed sentinel file, the receipts
that the recovery authority has consumed, and what the process holds in memory.

A call is a list of the steps that it still has to take (`Work`), each atomic: a
transaction, a write or removal of the sentinel, an assignment of the volatile
reason. `requalify_exposure` and `authorize_bootstrap` are followed inside their
transaction too: the checks that evaluate the evidence take the write lock, and the
commit gives it back. Any number of threads call the journal, the process may stop
between two steps, and a step may meet a `Fault`.
-/

namespace ATB.Stage5

inductive RecoveryState where
  | intent
  | effectPossible
  | ambiguousHold
  | recoveredCommitted
  | recoveredDenied
  | unresolved
  | failedBeforeEffect
  | capacityDenied
  | persistenceUnresolved
deriving DecidableEq

namespace RecoveryState

def value : RecoveryState → String
  | intent => "INTENT"
  | effectPossible => "EFFECT_POSSIBLE"
  | ambiguousHold => "AMBIGUOUS_HOLD"
  | recoveredCommitted => "RECOVERED_COMMITTED"
  | recoveredDenied => "RECOVERED_DENIED"
  | unresolved => "UNRESOLVED"
  | failedBeforeEffect => "FAILED_BEFORE_EFFECT"
  | capacityDenied => "CAPACITY_DENIED"
  | persistenceUnresolved => "PERSISTENCE_UNRESOLVED"

/-- The states that keep new exposure denied after a restart. -/
def requiresRecovery : RecoveryState → Bool
  | effectPossible | ambiguousHold | unresolved | persistenceUnresolved => true
  | _ => false

/-- The states that an ordinary transition may not clear. -/
def held : RecoveryState → Bool
  | ambiguousHold | unresolved | persistenceUnresolved => true
  | _ => false

def recovered : RecoveryState → Bool
  | recoveredCommitted | recoveredDenied => true
  | _ => false

/-- The recovered state of a terminal outcome. -/
def ofOutcome : TerminalOutcome → RecoveryState
  | .committed => recoveredCommitted
  | .denied => recoveredDenied

end RecoveryState

/-! ## The store -/

/-- The primary key of an attempt. -/
structure Key where
  operationId : String
  attemptId : String
deriving DecidableEq

/-- A row of `recovery_intent`. -/
structure Intent where
  key : Key
  requestDigest : String
  workerPid : Option Int
  transactionUncertain : Bool
  state : RecoveryState
  g00Sequence : String
  recoveryAttempts : Nat
  recoveryResult : Option Json
  reconciliationEvidence : Option String
  updatedNs : Int

/-- A row of `recovery_terminal_conflict`. -/
structure TerminalConflict where
  key : Key
  priorOutcome : RecoveryState
  conflictingOutcome : RecoveryState
  receiptIdentity : String
deriving DecidableEq

inductive GateState where
  | opened
  | closed
deriving DecidableEq

/-- The row of `exposure_gate`. -/
structure Gate where
  state : GateState
  evidence : String
  updatedNs : Int
deriving DecidableEq

/-- The row of `journal_identity`. -/
structure Identity where
  installationId : String
  authorityFingerprint : String
  bootstrapChallenge : String
  bootstrapConsumed : Bool
  createdNs : Int
deriving DecidableEq

/-- A row of `admission_evidence`. -/
structure Admission where
  key : Key
  requestDigest : String
  timeproofIdentity : String
  authorityIdentity : String
  authorityGeneration : Int
  authorityEpoch : Int
  admittedNs : Int
deriving DecidableEq

structure Store where
  intents : List Intent
  gate : Option Gate
  conflicts : List TerminalConflict
  identity : Option Identity
  admissions : List Admission

namespace Store

def empty : Store := ⟨[], none, [], none, []⟩

variable (st : Store)

/-- `get`: the row of an attempt. -/
def find? (k : Key) : Option Intent := st.intents.find? fun r => r.key = k

def hasConflict (k : Key) : Bool := st.conflicts.any fun c => c.key = k

/-- Some row that still requires restrictive recovery. -/
def unresolved? : Option Intent := st.intents.find? fun r => r.state.requiresRecovery

/-- `UPDATE recovery_intent SET ... WHERE operation_id=? AND attempt_id=?`. -/
def update (k : Key) (f : Intent → Intent) : Store :=
  { st with intents := st.intents.map fun r => if r.key = k then f r else r }

/-- `UPDATE exposure_gate SET ... WHERE singleton=1`. -/
def setGate (state : GateState) (evidence : String) (now : Int) : Store :=
  { st with gate := st.gate.map fun _ => ⟨state, evidence, now⟩ }

/-- The upsert of `deny_new_exposure`. -/
def closeGate (reason : String) (now : Int) : Store := { st with gate := some ⟨.closed, reason, now⟩ }

/-- `_transition`. -/
def transition (k : Key) (state : RecoveryState) (uncertain incrementRecovery : Bool) (result : Option Json)
    (evidence : Option String) (expected : Option RecoveryState) (now : Int) : Except JournalError Store :=
  if uncertain = false ∧ (st.hasConflict k ∨ ∃ r ∈ st.find? k, r.state.held) then
    .error (.conflict "clearing a recovery hold requires authenticated terminal evidence")
  else
    match st.find? k with
    | none => .error (.conflict "recovery transition target does not exist")
    | some r =>
      if ∃ e ∈ expected, r.state ≠ e then .error (.conflict "recovery transition target does not exist")
      else
        .ok (st.update k fun r =>
          { r with
            transactionUncertain := uncertain, state := state,
            recoveryAttempts := r.recoveryAttempts + if incrementRecovery then 1 else 0,
            recoveryResult := result, reconciliationEvidence := evidence, updatedNs := now })

def recordIntent (k : Key) (requestDigest g00Sequence : String) (now : Int) : Except JournalError Store :=
  match st.find? k with
  | some r =>
    if r.requestDigest ≠ requestDigest ∨ r.g00Sequence ≠ g00Sequence then
      .error (.conflict "operation/attempt identity conflicts with durable intent")
    else .ok st
  | none =>
    .ok { st with
          intents := st.intents ++ [⟨k, requestDigest, none, false, .intent, g00Sequence, 0, none, none, now⟩] }

def bindWorker (k : Key) (pid : Int) (now : Int) : Except JournalError Store :=
  match st.find? k with
  | some r =>
    if r.state = .intent then .ok (st.update k fun r => { r with workerPid := some pid, updatedNs := now })
    else .error (.conflict "worker can bind only to a current intent")
  | none => .error (.conflict "worker can bind only to a current intent")

/-- The unique keys of `admission_evidence`. -/
def admissionConflicts (a : Admission) : Prop :=
  ∃ b ∈ st.admissions, b.key.attemptId = a.key.attemptId ∨ b.timeproofIdentity = a.timeproofIdentity

instance (a : Admission) : Decidable (st.admissionConflicts a) := by
  unfold admissionConflicts; infer_instance

def reserveAdmissionEvidence (a : Admission) : Except JournalError Store :=
  if st.admissionConflicts a then .error (.conflict "attempt or TimeProof identity was already consumed")
  else .ok { st with admissions := st.admissions ++ [a] }

def prepareProtectedDispatch (a : Admission) (pid : Int) (g00Sequence : String) (now : Int) :
    Except JournalError Store :=
  if st.admissionConflicts a ∨ (st.find? a.key).isSome then
    .error (.conflict "operation, attempt or TimeProof identity was already consumed or conflicts")
  else
    .ok { st with
          admissions := st.admissions ++ [a]
          intents := st.intents ++ [⟨a.key, a.requestDigest, some pid, true, .effectPossible, g00Sequence, 0, none,
            some "PROTECTED_DISPATCH_AUTHORIZED", now⟩] }

/-- The result that a terminal receipt leaves in the row. -/
def terminalResult (k : Key) (requestDigest : String) (outcome : TerminalOutcome) : Json :=
  .obj
    [("operation_id", .str k.operationId), ("request_digest", .str requestDigest),
     ("status", .str outcome.value), ("result_code", .str "AUTHENTICATED_TERMINAL_READBACK"),
     ("capital_effect_minor", .int 0), ("liability_effect_minor", .int 0)]

def conflictEvidence : String := "CONFLICTING_AUTHENTICATED_TERMINAL_EVIDENCE"

def retainConflict (c : TerminalConflict) : Store := { st with conflicts := st.conflicts ++ [c] }

/-- The row and the gate after contradictory evidence. -/
def holdConflict (k : Key) (now : Int) : Store :=
  (st.update k fun r =>
    { r with
      state := .ambiguousHold, transactionUncertain := true, reconciliationEvidence := some conflictEvidence,
      updatedNs := now }).setGate .closed conflictEvidence now

/-- The transaction of `resolve_authenticated_terminal`, and whether it found a conflict. -/
def recordTerminal (k : Key) (requestDigest g00Sequence receiptIdentity : String) (outcome : TerminalOutcome)
    (now : Int) : Except JournalError (Store × Bool) :=
  match st.find? k with
  | none => .error (.conflict "terminal recovery durable identity changed")
  | some r =>
    if r.requestDigest ≠ requestDigest ∨ r.g00Sequence ≠ g00Sequence then
      .error (.conflict "terminal recovery durable identity changed")
    else if st.hasConflict k then .ok (st.holdConflict k now, true)
    else if r.state.recovered then
      if r.state = .ofOutcome outcome then .error (.conflict "terminal recovery is already resolved")
      else
        .ok ((st.retainConflict ⟨k, r.state, .ofOutcome outcome, receiptIdentity⟩).holdConflict k now, true)
    else if r.state ≠ .ambiguousHold ∧ r.state ≠ .unresolved then
      .error (.conflict "terminal recovery requires an unresolved durable hold")
    else
      .ok (st.update k fun r =>
        { r with
          state := .ofOutcome outcome, transactionUncertain := false,
          recoveryAttempts := r.recoveryAttempts + 1,
          recoveryResult := some (terminalResult k requestDigest outcome),
          reconciliationEvidence := some receiptIdentity, updatedNs := now }, false)

/-- `_initialize`: the rows that a new or an earlier store gets. -/
def initializeRows (newStore : Bool) (installationId fingerprint challenge : String) (now : Int) : Store :=
  if newStore then
    { st with
      gate := st.gate <|> some ⟨.closed, "BOOTSTRAP_AUTHORITY_REQUIRED", now⟩
      identity := st.identity <|> some ⟨installationId, fingerprint, challenge, false, now⟩ }
  else
    { st with identity := st.identity <|> some ⟨"LEGACY_UNBOUND", "LEGACY_UNBOUND", challenge, true, now⟩ }

/-- The reason with which `_restore_fail_closed_gate` denies exposure. -/
def restoreReason (sentinel : Option String) : String :=
  match st.unresolved? with
  | some r => "RESTART_WITH_" ++ r.state.value
  | none =>
    if sentinel.isSome then "RESTART_WITH_FAIL_CLOSED_SENTINEL"
    else
      match st.gate with
      | none => "RESTART_WITH_MISSING_GATE"
      | some gate =>
        if gate.state = .opened then "RESTART_REQUALIFICATION_REQUIRED" else "RESTART_WITH_" ++ gate.evidence

/-- `bootstrap_challenge`. -/
def challenge : Except JournalError String :=
  match st.identity with
  | none => .error (.conflict "journal installation challenge is unavailable")
  | some i =>
    if i.bootstrapChallenge = "" then .error (.conflict "journal installation challenge is unavailable")
    else .ok i.bootstrapChallenge

/-- `_require_authority_binding`. -/
def requireBinding (py : Platform) (policy : TrustPolicy) : Except JournalError Unit :=
  if st.identity.map (fun i => (i.installationId, i.authorityFingerprint)) =
      some (policy.installationId, policy.fingerprint py) then .ok ()
  else .error (.authority "journal recovery-authority binding mismatch")

/-- The checks of `requalify_exposure` against the row that the query for the operation
returned: the attempt's ticket and outcome. -/
def evaluateRequalify (row : Option Intent) (requestDigest : String) :
    Except JournalError (String × TerminalOutcome) :=
  match row with
  | none => .error (.conflict "terminal reconciliation does not match durable state")
  | some r =>
    if r.requestDigest ≠ requestDigest ∨ r.state.recovered = false then
      .error (.conflict "terminal reconciliation does not match durable state")
    else if st.unresolved?.isSome then
      .error (.conflict "another operation still requires restrictive recovery")
    else .ok (r.g00Sequence, if r.state = .recoveredCommitted then .committed else .denied)

/-- The checks of `authorize_bootstrap`. -/
def evaluateBootstrap (policy : TrustPolicy) : Except JournalError Unit :=
  if st.intents = [] ∧ (∃ i ∈ st.identity, i.bootstrapConsumed = false ∧ i.installationId = policy.installationId) ∧
      ∃ g ∈ st.gate, g.state = .closed then .ok ()
  else .error (.conflict "bootstrap is permitted only for a pristine closed store")

/-- `UPDATE journal_identity SET bootstrap_consumed=1 WHERE singleton=1`. -/
def consumeBootstrap : Store := { st with identity := st.identity.map fun i => { i with bootstrapConsumed := true } }

end Store

/-! ## Transactions and calls -/

/-- A transaction of the journal. -/
inductive Tx where
  | initializeRows (newStore : Bool) (installationId fingerprint challenge : String)
  | recordIntent (k : Key) (requestDigest g00Sequence : String)
  | capacityDenied (k : Key)
  | bindWorker (k : Key) (pid : Int)
  | markEffectPossible (k : Key)
  | hold (k : Key) (evidence : String)
  | unresolved (k : Key) (evidence : String)
  | resolved (k : Key) (committed : Bool) (result : Json) (evidence : String)
  | failedBeforeEffect (k : Key) (evidence : String)
  | reserveAdmissionEvidence (a : Admission)
  | prepareProtectedDispatch (a : Admission) (pid : Int) (g00Sequence : String)
  | recordTerminal (k : Key) (requestDigest g00Sequence : String) (outcome : TerminalOutcome) (receipt : Receipt)

/-- The store after a transaction, and whether it found contradictory evidence. -/
def Tx.apply (now : Int) (st : Store) : Tx → Except JournalError (Store × Bool)
  | .initializeRows newStore installationId fingerprint challenge =>
    .ok (st.initializeRows newStore installationId fingerprint challenge now, false)
  | .recordIntent k digest g00 => return (← st.recordIntent k digest g00 now, false)
  | .capacityDenied k => return (← st.transition k .capacityDenied false false none none none now, false)
  | .bindWorker k pid => return (← st.bindWorker k pid now, false)
  | .markEffectPossible k =>
    return (← st.transition k .effectPossible true false none (some "PROTECTED_DISPATCH_AUTHORIZED") (some .intent) now,
      false)
  | .hold k evidence => return (← st.transition k .ambiguousHold true false none (some evidence) none now, false)
  | .unresolved k evidence => return (← st.transition k .ambiguousHold true true none (some evidence) none now, false)
  | .resolved k committed result evidence =>
    return (← st.transition k (if committed then .recoveredCommitted else .recoveredDenied) false true (some result)
      (some evidence) (some .effectPossible) now, false)
  | .failedBeforeEffect k evidence =>
    return (← st.transition k .failedBeforeEffect false false none (some evidence) none now, false)
  | .reserveAdmissionEvidence a => return (← st.reserveAdmissionEvidence a, false)
  | .prepareProtectedDispatch a pid g00 => return (← st.prepareProtectedDispatch a pid g00 now, false)
  | .recordTerminal k digest g00 outcome receipt => st.recordTerminal k digest g00 receipt.nonce outcome now

/-- A step that a call still has to take. -/
inductive Work where
  | commit (tx : Tx)
  /-- `resolve_authenticated_terminal`, up to the row it reads. -/
  | readTerminal (k : Key) (requestDigest : String) (receipt : Receipt)
  | consumeTerminal (k : Key) (requestDigest g00Sequence : String) (outcome : TerminalOutcome) (receipt : Receipt)
  /-- `requalify_exposure`, up to its transaction. -/
  | bindRequalify (operationId requestDigest : String) (receipt : Receipt) (fetched : String)
  /-- Takes the write lock and evaluates the evidence against the fetched attempt. -/
  | evaluateRequalify (operationId requestDigest : String) (receipt : Receipt) (fetched : String)
  | consumeRequalify (k : Key) (requestDigest g00Sequence : String) (outcome : TerminalOutcome) (receipt : Receipt)
  /-- `authorize_bootstrap`, up to its transaction. -/
  | consumeBootstrap (receipt : Receipt)
  /-- Takes the write lock and evaluates that the store is pristine. -/
  | evaluateBootstrap (receipt : Receipt)
  /-- Opens the gate and commits. -/
  | openGate (bootstrap : Bool) (receipt : Receipt)
  | unlinkSentinel (bootstrap : Bool) (receipt : Receipt)
  | clearReason (receipt : Receipt)
  | setReason (reason : String)
  | writeSentinel (reason : String)
  | closeGate (reason : String)
  | raise (e : JournalError)
  /-- The constructor: the store file exists from here on. -/
  | createStore
  | restoreGate
  /-- The constructor returns. -/
  | publish

/-- `deny_new_exposure`. -/
def deny (reason : String) : List Work := [.setReason reason, .writeSentinel reason, .closeGate reason]

/-- A call of the journal. The row that a query without an order returns is the
database's choice: `fetched` is its attempt. -/
inductive Operation where
  | recordIntent (k : Key) (requestDigest g00Sequence : String)
  | recordCapacityDenied (k : Key) (requestDigest g00Sequence : String)
  | bindWorker (k : Key) (pid : Int)
  | markEffectPossible (k : Key)
  | hold (k : Key) (evidence : String)
  | unresolved (k : Key) (evidence : String)
  | resolved (k : Key) (committed : Bool) (result : Json) (evidence : String)
  | resolveAuthenticatedTerminal (k : Key) (requestDigest : String) (receipt : Receipt)
  | failedBeforeEffect (k : Key) (evidence : String)
  | reserveAdmissionEvidence (a : Admission)
  | prepareProtectedDispatch (a : Admission) (pid : Int) (g00Sequence : String)
  | denyNewExposure (reason : String)
  | requalifyExposure (operationId requestDigest : String) (receipt : Receipt) (fetched : String)
  | authorizeBootstrap (receipt : Receipt)

/-- `result.get("status")` is the status of the outcome. -/
def exactStatus (committed : Bool) (result : Json) : Bool :=
  match result.get? "status" with
  | some (.str status) => status == if committed then "COMMITTED" else "DENIED"
  | _ => false

/-- The steps of a call. -/
def Operation.work : Operation → List Work
  | .recordIntent k digest g00 => [.commit (.recordIntent k digest g00)]
  | .recordCapacityDenied k digest g00 => [.commit (.recordIntent k digest g00), .commit (.capacityDenied k)]
  | .bindWorker k pid => [.commit (.bindWorker k pid)]
  | .markEffectPossible k => [.commit (.markEffectPossible k)]
  | .hold k evidence => [.commit (.hold k evidence)]
  | .unresolved k evidence => [.commit (.unresolved k evidence)]
  | .resolved k committed result evidence =>
    if exactStatus committed result then [.commit (.resolved k committed result evidence)]
    else [.raise (.conflict "worker acknowledgement must contain an exact terminal status")]
  | .resolveAuthenticatedTerminal k digest receipt => [.readTerminal k digest receipt]
  | .failedBeforeEffect k evidence => [.commit (.failedBeforeEffect k evidence)]
  | .reserveAdmissionEvidence a => [.commit (.reserveAdmissionEvidence a)]
  | .prepareProtectedDispatch a pid g00 => [.commit (.prepareProtectedDispatch a pid g00)]
  | .denyNewExposure reason =>
    if reason = "" then [.raise (.valueError "persistence-unresolved reason is required")] else deny reason
  | .requalifyExposure op digest receipt fetched => [.bindRequalify op digest receipt fetched]
  | .authorizeBootstrap receipt => [.consumeBootstrap receipt]

/-! ## Steps -/

/-- What can go wrong in a step. -/
inductive Fault where
  | none
  /-- The deadline or the lock budget expires, and the transaction is rolled back. -/
  | expired
  /-- The commit raises; it may have become durable. -/
  | commitUnresolved (durable : Bool)
  /-- The deadline expires after the commit. -/
  | late
  /-- A file or another database cannot be written. -/
  | ioError
deriving DecidableEq

/-- What a `RecoveryJournal` object holds; it can be called once its constructor returned. -/
structure Memory where
  ready : Bool
  persistenceUnresolved : Option String
  authority : Option TrustPolicy

structure World (ι : Type) where
  store : Option Store
  /-- The reason in the sentinel file. -/
  sentinel : Option String
  /-- The receipts that the authority has consumed. -/
  consumed : List Receipt
  memory : Option Memory
  /-- The thread that holds SQLite's write lock between two of its steps. -/
  writer : Option ι
  threads : ι → List Work
  /-- What the last call of a thread raised. -/
  raised : ι → Option JournalError

/-- How a call goes on after a step. -/
inductive Next where
  | go (extra : List Work)
  | instead (work : List Work)
  | raise (e : JournalError)

namespace World

variable {ι : Type}

/-- `exposure_allowed` of the journal that the process has open. -/
def exposureAllowed (w : World ι) : Prop :=
  ∃ m ∈ w.memory, m.ready = true ∧ m.persistenceUnresolved = none

def expiredError : JournalError := .deadlineExceeded "recovery-journal lock budget expired"

def unresolvedCommit : List Work :=
  deny "SQLITE_COMMIT_OUTCOME_UNRESOLVED" ++
    [.raise (.persistenceUnresolved "recovery-journal commit durability is unresolved")]

/-- One `with self._connect(...)` block. -/
def commit (w : World ι) (now : Int) (fault : Fault) (tx : Tx) : Option (World ι × Next) :=
  match w.store, fault with
  | some _, .expired => some (w, .raise expiredError)
  | some st, .none =>
    if w.writer.isSome then none
    else
      match tx.apply now st with
      | .error e => some (w, .raise e)
      | .ok (st', false) => some ({ w with store := some st' }, .go [])
      | .ok (st', true) =>
        some ({ w with store := some st' }, .go (deny Store.conflictEvidence ++
          [.raise (.conflict "conflicting authenticated terminal evidence requires a hold")]))
  | some st, .late =>
    if w.writer.isSome then none
    else
      match tx.apply now st with
      | .error _ => none
      | .ok (st', _) =>
        some ({ w with store := some st' }, .raise (.deadlineExceeded "recovery-journal deadline expired"))
  | some st, .commitUnresolved durable =>
    if w.writer.isSome then none
    else
      match tx.apply now st with
      | .error _ => none
      | .ok (st', _) => some ({ w with store := some (if durable then st' else st) }, .instead unresolvedCommit)
  | _, _ => none

/-- The authority and the store, when the journal is bound to that authority. -/
def bound (py : Platform) (w : World ι) (message : String) : Except JournalError (TrustPolicy × Store) :=
  match w.memory.bind Memory.authority, w.store with
  | some policy, some st => do
    st.requireBinding py policy
    return (policy, st)
  | _, _ => .error (.authority message)

/-- The steps of `resolve_authenticated_terminal` before its transaction. -/
def readTerminal (py : Platform) (w : World ι) (k : Key) (requestDigest : String) (receipt : Receipt) :
    Except JournalError (List Work) := do
  let (_, st) ← w.bound py "independent terminal authority is required"
  match st.find? k with
  | none => .error (.conflict "terminal recovery does not match durable identity")
  | some r =>
    raiseIf (r.requestDigest ≠ requestDigest) (.conflict "terminal recovery does not match durable identity")
    raiseIf (r.state.recovered = false ∧ r.state ≠ .ambiguousHold ∧ r.state ≠ .unresolved)
      (.conflict "terminal recovery requires an unresolved durable hold")
    let outcome ← orRaise (.authority "terminal recovery outcome is missing or not terminal") receipt.terminalOutcome
    return [.consumeTerminal k requestDigest r.g00Sequence outcome receipt,
      .commit (.recordTerminal k requestDigest r.g00Sequence outcome receipt)]

/-- `consume_terminal`. -/
def consumeTerminal (py : Platform) (w : World ι) (now : Int) (k : Key) (requestDigest g00Sequence : String)
    (outcome : TerminalOutcome) (receipt : Receipt) : Except JournalError (List Receipt) := do
  let policy ← orRaise (.authority "independent terminal authority is required") (w.memory.bind Memory.authority)
  let challenge ← orRaise (.conflict "journal installation challenge is unavailable") w.store >>= Store.challenge
  policy.consumeTerminal py now receipt challenge k.operationId requestDigest k.attemptId g00Sequence outcome w.consumed

/-- `authorize_bootstrap` before its transaction. -/
def consumeBootstrap (py : Platform) (w : World ι) (now : Int) (receipt : Receipt) :
    Except JournalError (List Receipt) := do
  let challenge ← orRaise (.conflict "journal installation challenge is unavailable") w.store >>= Store.challenge
  let (policy, _) ← w.bound py "independent recovery authority is required"
  policy.consumeBootstrap py now receipt challenge w.consumed

/-- The row that a query for an operation returns: one of its rows, when it has any. -/
def fetch (st : Store) (operationId fetched : String) : Option (Option Intent) :=
  match st.find? ⟨operationId, fetched⟩ with
  | some r => some (some r)
  | none => if st.intents.any fun r => r.key.operationId = operationId then none else some none

/-- The rest of a call that opens the gate, from its evaluated evidence on. -/
def opening (bootstrap : Bool) (receipt : Receipt) : List Work :=
  [.openGate bootstrap receipt, .unlinkSentinel bootstrap receipt, .clearReason receipt]

/-- The result of a step that can raise and changes nothing else. -/
def orElse (w : World ι) : Except JournalError (List Work) → World ι × Next
  | .ok extra => (w, .go extra)
  | .error e => (w, .raise e)

def setReason (reason : String) (m : Memory) : Memory :=
  { m with persistenceUnresolved := m.persistenceUnresolved <|> some reason }

/-- One step of a call of thread `t`. -/
def perform (py : Platform) (w : World ι) (t : ι) (now : Int) (fault : Fault) :
    Work → Option (World ι × Next)
  | .commit tx => w.commit now fault tx
  | .readTerminal k digest receipt =>
    if fault = .none then some (w.orElse (w.readTerminal py k digest receipt)) else some (w, .raise expiredError)
  | .consumeTerminal k digest g00 outcome receipt =>
    if fault = .none then
      match w.consumeTerminal py now k digest g00 outcome receipt with
      | .ok consumed => some ({ w with consumed := consumed }, .go [])
      | .error e => some (w, .raise e)
    else some (w, .raise .osError)
  | .bindRequalify op digest receipt fetched =>
    if op = "" ∨ digest = "" then some (w, .raise (.authority "independent terminal authority is required"))
    else
      match w.bound py "independent terminal authority is required" with
      | .ok _ => some (w, .go [.evaluateRequalify op digest receipt fetched])
      | .error e => some (w, .raise e)
  | .evaluateRequalify op digest receipt fetched =>
    match w.store, w.writer, fault with
    | some _, _, .expired => some (w, .raise expiredError)
    | some st, none, .none => do
      let row ← fetch st op fetched
      match st.evaluateRequalify row digest with
      | .error e => some (w, .raise e)
      | .ok (g00, outcome) =>
        some ({ w with writer := some t },
          .go (.consumeRequalify ⟨op, fetched⟩ digest g00 outcome receipt :: opening false receipt))
    | _, _, _ => none
  | .consumeRequalify k digest g00 outcome receipt =>
    if fault = .none then
      match w.consumeTerminal py now k digest g00 outcome receipt with
      | .ok consumed => some ({ w with consumed := consumed }, .go [])
      | .error e => some ({ w with writer := none }, .raise e)
    else some ({ w with writer := none }, .raise .osError)
  | .consumeBootstrap receipt =>
    if fault = .none then
      match w.consumeBootstrap py now receipt with
      | .ok consumed => some ({ w with consumed := consumed }, .go [.evaluateBootstrap receipt])
      | .error e => some (w, .raise e)
    else some (w, .raise .osError)
  | .evaluateBootstrap receipt =>
    match w.store, w.memory.bind Memory.authority, w.writer, fault with
    | some _, _, _, .expired => some (w, .raise expiredError)
    | some st, some policy, none, .none =>
      match st.evaluateBootstrap policy with
      | .error e => some (w, .raise e)
      | .ok _ => some ({ w with writer := some t }, .go (opening true receipt))
    | _, _, _, _ => none
  | .openGate bootstrap receipt =>
    match w.store with
    | none => none
    | some st =>
      let st' := (if bootstrap then st.consumeBootstrap else st).setGate .opened receipt.nonce now
      match fault with
      | .none => some ({ w with store := some st', writer := none }, .go [])
      | .commitUnresolved durable =>
        some ({ w with store := some (if durable then st' else st), writer := none }, .instead unresolvedCommit)
      | _ => none
  | .unlinkSentinel bootstrap _ =>
    if fault = .none then some ({ w with sentinel := none }, .go [])
    else if bootstrap then some (w, .raise .osError)
    else
      some (w, .instead (deny "FAIL_CLOSED_SENTINEL_CLEAR_FAILED" ++
        [.raise (.persistenceUnresolved "fail-closed sentinel could not be cleared")]))
  | .clearReason _ =>
    some ({ w with memory := w.memory.map fun m => { m with persistenceUnresolved := none } }, .go [])
  | .setReason reason => some ({ w with memory := w.memory.map (setReason reason) }, .go [])
  | .writeSentinel reason =>
    if fault = .none then some ({ w with sentinel := some reason }, .go []) else some (w, .go [])
  | .closeGate reason =>
    -- the connection has no timeout: a busy database, like any other error, is passed over
    if fault = .none ∧ w.writer.isNone then
      some ({ w with store := w.store.map fun st => st.closeGate reason now }, .go [])
    else some (w, .go [])
  | .raise e => some (w, .raise e)
  | .createStore => some ({ w with store := w.store <|> some Store.empty }, .go [])
  | .restoreGate =>
    match w.store with
    | none => none
    | some st =>
      if fault = .none then some (w, .go (deny (st.restoreReason w.sentinel))) else some (w, .raise expiredError)
  | .publish => some ({ w with memory := w.memory.map fun m => { m with ready := true } }, .go [])

end World

/-- What happens next. -/
inductive Event (ι : Type) where
  /-- A process opens the journal: `RecoveryJournal(path)`, or through the factory. -/
  | reopen (t : ι) (authority : Option TrustPolicy) (challenge : String)
  | call (t : ι) (operation : Operation)
  | work (t : ι) (now : Int) (fault : Fault)
  /-- The process stops. -/
  | stop

namespace World

variable {ι : Type} [DecidableEq ι]

def setThread (w : World ι) (t : ι) (work : List Work) : World ι :=
  { w with threads := Function.update w.threads t work }

/-- The constructor. -/
def reopenWork (py : Platform) (newStore : Bool) (authority : Option TrustPolicy) (challenge : String) : List Work :=
  [.createStore,
   .commit (.initializeRows newStore ((authority.map TrustPolicy.installationId).getD "UNBOUND")
     ((authority.map (TrustPolicy.fingerprint py)).getD "UNBOUND") challenge),
   .restoreGate, .publish]

/-- A call goes on. -/
def proceed (w : World ι) (t : ι) (rest : List Work) : Next → World ι
  | .go extra => w.setThread t (extra ++ rest)
  | .instead work => w.setThread t work
  | .raise e => { w.setThread t [] with raised := Function.update w.raised t (some e) }

def step (py : Platform) (w : World ι) : Event ι → Option (World ι)
  | .reopen t authority challenge =>
    match w.memory with
    | none =>
      some { w.setThread t (reopenWork py w.store.isNone authority challenge) with
             memory := some ⟨false, none, authority⟩ }
    | some _ => none
  | .call t operation =>
    match w.memory, w.threads t with
    | some m, [] =>
      if m.ready then
        some { w.setThread t operation.work with raised := Function.update w.raised t none }
      else none
    | _, _ => none
  | .work t now fault =>
    match w.threads t with
    | [] => none
    | work :: rest => (w.perform py t now fault work).map fun r => r.1.proceed t rest r.2
  | .stop => some { w with memory := none, writer := none, threads := fun _ => [], raised := fun _ => none }

/-- No store, no sentinel, no process. -/
def init (consumed : List Receipt) : World ι :=
  ⟨none, none, consumed, none, none, fun _ => [], fun _ => none⟩

end World

end ATB.Stage5
