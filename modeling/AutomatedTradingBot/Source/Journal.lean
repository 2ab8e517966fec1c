import AutomatedTradingBot.Source.Reconcile
import AutomatedTradingBot.Source.StateCodec

/-!
# The simulation-state journal

`SimulationStateJournal` of `research/simulation_state.py`: a directory of
numbered records, each a command in canonical JSON with the digest of the state
after it. `recover` replays the records from the genesis state, and `publish`
applies a command to the recovered state, writes its record and recovers again.

The directory holds the record files; the lock file is the flag `locked`. Files
hold text: bytes that are not UTF-8 are refused by `recover` as unreadable or
not canonical, like a text that is not. The temporary file that `publish`
renames has no trace after the call, and a leftover one makes `recover` raise
before it is opened.
-/

namespace ATB

/-- The journal's own fields, with what their constructors checked. -/
structure JournalConfig where
  journalIdentity : String
  epoch : String
  openingCash : Decimal
  currency : Currency
  researchRunId : ResearchRunId
  openedAt : Timestamp
  evidenceDigest : EvidenceContentDigest
  identity_nonblank : Text.nonblank journalIdentity = true
  epoch_nonblank : Text.nonblank epoch = true
  currency_canonical : currency.canonical = true
  researchRunId_canonical : researchRunId.canonical = true
  evidenceDigest_canonical : evidenceDigest.canonical = true

/-- A file of the journal directory. -/
structure Entry where
  name : String
  symlink : Bool
  content : List Char

/-- The journal directory. -/
structure Directory where
  locked : Bool
  entries : List Entry

/-- `SimulationStateSnapshot`. -/
structure StateSnapshot where
  sequence : Nat
  terminalDigest : String
  stateDigest : String
  oms : SimulatedOms Decimal
  ledger : SimulationLedger Decimal

namespace Journal

/-! ## Files -/

/-- `p.suffix == ".json"`. -/
def hasJsonSuffix (name : String) : Bool :=
  let s := Text.chars name
  decide (5 < s.length) && decide (s.drop (s.length - 5) = Text.chars ".json")

/-- `f"{sequence:08d}.json"`. -/
def recordName (sequence : Nat) : String := String.ofList (Text.zfill 8 sequence ++ Text.chars ".json")

/-- `_paths`. -/
def paths (dir : Directory) : Outcome (List Entry) := do
  raiseIf (dir.entries.any fun e => !hasJsonSuffix e.name)
    (simulationStateError "journal contains incomplete or unexpected files")
  return dir.entries.insertionSort (·.name ≤ ·.name)

/-! ## Commands -/

/-- The fields of `_genesis`. -/
def genesisBody (cfg : JournalConfig) : Json :=
  .obj [("opening_cash", .str cfg.openingCash.str),
    ("currency", .str cfg.currency.code),
    ("research_run_id", .str cfg.researchRunId.value),
    ("opened_at", .str cfg.openedAt.value.isoformat),
    ("evidence_digest", .str cfg.evidenceDigest.value)]

/-- `_genesis_state`. -/
def genesisState (cfg : JournalConfig) : Outcome (SimulatedOms Decimal × SimulationLedger Decimal) := do
  let body := genesisBody cfg
  let currency ← Currency.make (← body.textField "currency")
  let eventId ← LedgerEventId.make "atis:simulation-ledger-event:v1:simulation-state-opening"
  let opening : FinancialEvent Decimal :=
    { eventId := eventId, sequence := 1, occurredAt := ← timestampOf (← body.textField "opened_at"),
      kind := .openingCash, researchRunId := ← ResearchRunId.make (← body.textField "research_run_id"),
      evidenceDigest := ← EvidenceContentDigest.make (← body.textField "evidence_digest"),
      currency := some currency, cashDelta := some (← decimalOf (← body.textField "opening_cash")) }
  opening.postInit
  return ({}, ← (SimulationLedger.empty currency).apply opening)

variable (py : Platform)

/-- `EXECUTE_AND_POST`: the posting of the new fills and the check of the result. -/
def postNewFills (oms next : SimulatedOms Decimal) (ledger : SimulationLedger Decimal) :
    Outcome (SimulatedOms Decimal × SimulationLedger Decimal) := do
  let nextLedger ← (next.fills.drop oms.fills.length).foldlM postFillToLedger ledger
  raiseIf ((← reconcile next nextLedger).state ≠ .reconciled)
    (simulationStateError "combined simulation state does not reconcile")
  return (next, nextLedger)

/-- `_apply`. -/
def apply (oms : SimulatedOms Decimal) (ledger : SimulationLedger Decimal) (command : String) (payload : Json) :
    Outcome (SimulatedOms Decimal × SimulationLedger Decimal) := do
  if command = "SUBMIT" then
    return (← oms.submit (← orderOf (← payload.field "order")), ledger)
  else
    let orderId ← orderIdOf (← payload.textField "order_id")
    if command = "CANCEL" then
      return (← oms.cancel orderId, ledger)
    else if command = "MARK_UNFILLED" then
      return (← oms.markUnfilled orderId (← payload.textField "reason"), ledger)
    else if command = "EXECUTE_AND_POST" then
      let next ← oms.execute (fillIdentity py) orderId (← decimalOf (← payload.textField "requested_quantity"))
        (← snapshotOf (← payload.field "snapshot")) (← modelOf (← payload.field "cost_model"))
      postNewFills oms next ledger
    else
      .error (simulationStateError "unknown simulation-state command")

def stateDigest (oms : SimulatedOms Decimal) (ledger : SimulationLedger Decimal) : Outcome String :=
  py.digest "ATIS-S4-11-SIMULATION-COMBINED-STATE-V1" (combinedState oms ledger)

def recordDigest (body : Json) : Outcome String :=
  py.digest "ATIS-S4-11-SIMULATION-STATE-RECORD-V1" body

/-! ## Recovery -/

/-- `record[k] == text`. -/
def fieldIsText (record : Json) (k text : String) : Bool :=
  match record.get? k with
  | some (.str s) => s == text
  | _ => false

/-- `record[k] == n`. -/
def fieldIsInt (record : Json) (k : String) (n : Nat) : Bool :=
  match record.get? k with
  | some (.int m) => m == n
  | some (.bool b) => (if b then 1 else 0) == n
  | _ => false

/-- `record[k] == previous`. -/
def fieldIsOption (record : Json) (k : String) : Option String → Bool
  | some text => fieldIsText record k text
  | none =>
    match record.get? k with
    | some .null => true
    | _ => false

/-- `required`. -/
def requiredKeys : List String :=
  ["journal_identity", "epoch", "sequence", "command_id", "command", "payload", "previous_digest",
    "state_digest", "content_digest"]

/-- The variables of the loop of `recover`. -/
structure Replay where
  oms : SimulatedOms Decimal
  ledger : SimulationLedger Decimal
  previous : Option String
  terminal : String
  seen : List String

/-- `record["command_id"] in seen`, a list or a `dict` not being hashable. -/
def commandSeen (seen : List String) : Json → Outcome Bool
  | .str s => .ok (decide (s ∈ seen))
  | .arr _ => .error Json.typeError
  | .dict _ => .error Json.typeError
  | _ => .ok false

/-- One iteration of the loop of `recover`. -/
def replayRecord (cfg : JournalConfig) (sequence : Nat) (state : Replay) (entry : Entry) : Outcome Replay := do
  raiseIf (entry.name ≠ recordName sequence ∨ entry.symlink)
    (simulationStateError "journal sequence is missing or unsafe")
  let record ← orRaise (simulationStateError "journal record is unreadable") (Json.loads entry.content)
  let fields ← orRaise (simulationStateError "journal record is not canonical") record.fields?
  raiseIf ((← py.canonicalJson record) ≠ entry.content)
    (simulationStateError "journal record is not canonical")
  raiseIf (¬ ((∀ k ∈ requiredKeys, (record.get? k).isSome) ∧ ∀ f ∈ fields, f.1 ∈ requiredKeys))
    (simulationStateError "journal record schema mismatch")
  let suppliedDigest ← record.field "content_digest"
  let expectedDigest ← recordDigest py (.dict (fields.filter fun f => f.1 ≠ "content_digest"))
  let commandId ← record.field "command_id"
  raiseIf (¬ fieldIsText record "journal_identity" cfg.journalIdentity ∨
      ¬ fieldIsText record "epoch" cfg.epoch ∨ ¬ fieldIsInt record "sequence" sequence ∨
      ¬ fieldIsOption record "previous_digest" state.previous ∨
      ¬ fieldIsText record "content_digest" expectedDigest)
    (simulationStateError "journal chain or identity is invalid")
  raiseIf ((← commandSeen state.seen commandId) = true)
    (simulationStateError "journal chain or identity is invalid")
  let commandText ← commandId.toText
  let payload ← record.field "payload"
  raiseIf (payload.fields? = none) (simulationStateError "command payload is invalid")
  let (oms, ledger) ← apply py state.oms state.ledger (← record.textField "command") payload
  raiseIf (¬ fieldIsText record "state_digest" (← stateDigest py oms ledger))
    (simulationStateError "resulting combined state digest mismatch")
  let previous ← suppliedDigest.toText
  return ⟨oms, ledger, some previous, previous, state.seen ++ [commandText]⟩

/-- The loop of `recover`, from a record's number on. -/
def replayFrom (cfg : JournalConfig) (sequence : Nat) (state : Replay) : List Entry → Outcome Replay
  | [] => return state
  | entry :: entries => do
    replayFrom cfg (sequence + 1) (← replayRecord py cfg sequence state entry) entries

/-- The variables before the loop. -/
def replayStart (cfg : JournalConfig) : Outcome Replay := do
  let (oms, ledger) ← genesisState cfg
  let terminal ← py.digest "ATIS-S4-11-SIMULATION-GENESIS-V1" (genesisBody cfg)
  return ⟨oms, ledger, none, terminal, []⟩

/-- `recover`. -/
def recover (cfg : JournalConfig) (dir : Directory) : Outcome StateSnapshot := do
  let start ← replayStart py cfg
  let entries ← paths dir
  let state ← replayFrom py cfg 1 start entries
  return ⟨entries.length, state.terminal, ← stateDigest py state.oms state.ledger, state.oms, state.ledger⟩

/-! ## Publication -/

/-- The record of a command without its digest. -/
def recordFields (cfg : JournalConfig) (prior : StateSnapshot) (commandId command : String) (payload : Json)
    (stateDigest : String) : List (String × Json) :=
  [("journal_identity", .str cfg.journalIdentity), ("epoch", .str cfg.epoch),
    ("sequence", .int (prior.sequence + 1 : Nat)), ("command_id", .str commandId), ("command", .str command),
    ("payload", payload),
    ("previous_digest", if prior.sequence = 0 then .null else .str prior.terminalDigest),
    ("state_digest", .str stateDigest)]

/-- The record with its digest. -/
def sealRecord (fields : List (String × Json)) (content : String) : List (String × Json) :=
  fields ++ [("content_digest", .str content)]

/-- What `_publish` computes before it writes: the digest of the next state and the
text of the record. -/
def prepare (cfg : JournalConfig) (prior : StateSnapshot) (commandId command : String) (payload : Json) :
    Outcome (String × List Char) := do
  let (oms, ledger) ← apply py prior.oms prior.ledger command payload
  let digest ← stateDigest py oms ledger
  raiseIf (¬ Text.nonblank commandId) (simulationStateError "command_id must be nonempty text")
  let fields := recordFields cfg prior commandId command payload digest
  let content ← recordDigest py (.obj fields)
  let data ← py.canonicalJson (.obj (sealRecord fields content))
  return (digest, data)

/-- `_publish`: the directory after the call, and what the call returns or raises. -/
def publish (cfg : JournalConfig) (dir : Directory) (commandId command : String) (payload : Json) :
    Directory × Outcome StateSnapshot :=
  if dir.locked then (dir, .error (simulationStateError "simulation-state writer is already active"))
  else
    match recover py cfg dir with
    | .error e => (dir, .error e)
    | .ok prior =>
      match prepare py cfg prior commandId command payload with
      | .error e => (dir, .error e)
      | .ok (digest, data) =>
        let target := recordName (prior.sequence + 1)
        if dir.entries.any fun e => e.name = target then
          (dir, .error (simulationStateError "conflicting simulation-state successor"))
        else
          let written := { dir with entries := dir.entries ++ [⟨target, false, data⟩] }
          (written, do
            let result ← recover py cfg written
            raiseIf (result.sequence ≠ prior.sequence + 1 ∨ result.stateDigest ≠ digest)
              (simulationStateError "published state failed recovery")
            return result)

/-! ## Calls -/

/-- A call of one of the journal's commands. -/
inductive Command where
  | submit (order : { o : SimulatedOrder Decimal // o.Constructed })
  | cancel (orderId : OrderId)
  | markUnfilled (orderId : OrderId) (reason : String)
  | executeAndPost (orderId : OrderId) (requestedQuantity : Decimal)
      (snapshot : { s : ExecutionSnapshot Decimal // s.Constructed })
      (costModel : { m : ExecutionCostModel Decimal // m.Constructed })

def Command.name : Command → String
  | .submit _ => "SUBMIT"
  | .cancel _ => "CANCEL"
  | .markUnfilled _ _ => "MARK_UNFILLED"
  | .executeAndPost _ _ _ _ => "EXECUTE_AND_POST"

def Command.payload : Command → Json
  | .submit order => .obj [("order", orderBody order)]
  | .cancel orderId => .obj [("order_id", .str orderId.value.str)]
  | .markUnfilled orderId reason => .obj [("order_id", .str orderId.value.str), ("reason", .str reason)]
  | .executeAndPost orderId requested snapshot costModel =>
    .obj [("order_id", .str orderId.value.str), ("requested_quantity", .str requested.str),
      ("snapshot", snapshotBody snapshot), ("cost_model", modelBody costModel)]

/-- `submit`, `cancel`, `mark_unfilled` and `execute_and_post`. -/
def call (cfg : JournalConfig) (dir : Directory) (commandId : String) (command : Command) :
    Directory × Outcome StateSnapshot :=
  publish py cfg dir commandId command.name command.payload

end Journal

end ATB
