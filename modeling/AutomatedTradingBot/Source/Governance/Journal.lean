import AutomatedTradingBot.Framework.Calls
import AutomatedTradingBot.Framework.Dict
import AutomatedTradingBot.Framework.Fields
import AutomatedTradingBot.Source.Governance.Plan
import AutomatedTradingBot.Source.Journal

/-!
# The research journal

`ResearchJournal` of `research/research_governance.py`: a directory of numbered events
in canonical JSON, each with the digest of the one before it. `recover` decodes the
events and replays what they mean (`validateSemantics`), and `append` does the same
with the next event before it links its file.

The directory holds the record files and the number of temporary files that are being
written; a temporary file makes `recover` raise. Files hold text, as in the
simulation-state journal, and a record with a repeated key is refused as not
canonical. Code that reads and writes the directory is a `Program`, whose calls are
the recovery of the history, the creation and the removal of the temporary file, and
the exclusive link of the record; the file that was linked reads back. `int(text)`
takes ASCII digits.
-/

namespace ATB.Governance

open Calls (Program)

/-! ## Events -/

inductive TrialState where
  | admitted
  | running
  | completed
  | failed
  | interrupted
deriving DecidableEq

def TrialState.value : TrialState → String
  | .admitted => "ADMITTED"
  | .running => "RUNNING"
  | .completed => "COMPLETED"
  | .failed => "FAILED"
  | .interrupted => "INTERRUPTED"

/-- `TrialState(text)`. -/
def trialStateOf? (text : String) : Option TrialState :=
  [TrialState.admitted, .running, .completed, .failed, .interrupted].find? fun s => s.value = text

inductive HoldoutDecision where
  | authorizedAccess
  | unauthorizedAccess
  | repeatedAccess
deriving DecidableEq

def HoldoutDecision.value : HoldoutDecision → String
  | .authorizedAccess => "AUTHORIZED_ACCESS"
  | .unauthorizedAccess => "UNAUTHORIZED_ACCESS"
  | .repeatedAccess => "REPEATED_ACCESS"

/-- `HoldoutDecision(text)`. -/
def holdoutDecisionOf? (text : String) : Option HoldoutDecision :=
  [HoldoutDecision.authorizedAccess, .unauthorizedAccess, .repeatedAccess].find? fun d => d.value = text

inductive EventKind where
  | planAccepted
  | trialAdmitted
  | trialRunning
  | trialCompleted
  | trialFailed
  | trialInterrupted
  | holdoutAuthorized
  | holdoutRejected
  | holdoutConsumed
  | contaminationRecorded
deriving DecidableEq

def EventKind.all : List EventKind :=
  [.planAccepted, .trialAdmitted, .trialRunning, .trialCompleted, .trialFailed, .trialInterrupted,
    .holdoutAuthorized, .holdoutRejected, .holdoutConsumed, .contaminationRecorded]

def EventKind.value : EventKind → String
  | .planAccepted => "PLAN_ACCEPTED"
  | .trialAdmitted => "TRIAL_ADMITTED"
  | .trialRunning => "TRIAL_RUNNING"
  | .trialCompleted => "TRIAL_COMPLETED"
  | .trialFailed => "TRIAL_FAILED"
  | .trialInterrupted => "TRIAL_INTERRUPTED"
  | .holdoutAuthorized => "HOLDOUT_AUTHORIZED"
  | .holdoutRejected => "HOLDOUT_REJECTED"
  | .holdoutConsumed => "HOLDOUT_CONSUMED"
  | .contaminationRecorded => "CONTAMINATION_RECORDED"

/-- `EventKind(text)`. -/
def eventKindOf? (text : String) : Option EventKind := EventKind.all.find? fun k => k.value = text

inductive AssuranceMode where
  | engineeringSimulation
  | productionAuthorityNotEstablished
deriving DecidableEq

def AssuranceMode.value : AssuranceMode → String
  | .engineeringSimulation => "ENGINEERING_SIMULATION_NON_PRODUCTION"
  | .productionAuthorityNotEstablished => "PRODUCTION_AUTHORITY_NOT_ESTABLISHED"

/-- `AssuranceMode(text)`. -/
def assuranceModeOf? (text : String) : Option AssuranceMode :=
  [AssuranceMode.engineeringSimulation, .productionAuthorityNotEstablished].find? fun m => m.value = text

/-- `_TRANSITIONS[state]`. -/
def TrialState.transitions : TrialState → List TrialState
  | .admitted => [.running]
  | .running => [.completed, .failed, .interrupted]
  | .completed | .failed | .interrupted => []

/-- `_STATE_KIND[state]`. -/
def TrialState.kind : TrialState → EventKind
  | .admitted => .trialAdmitted
  | .running => .trialRunning
  | .completed => .trialCompleted
  | .failed => .trialFailed
  | .interrupted => .trialInterrupted

/-- `_STATE_KIND.values()`. -/
def EventKind.isTrial (kind : EventKind) : Bool :=
  kind ∈ [EventKind.trialAdmitted, .trialRunning, .trialCompleted, .trialFailed, .trialInterrupted]

structure JournalEvent where
  sequence : Nat
  eventId : String
  kind : EventKind
  experimentId : String
  runId : Option String
  planDigest : String
  policyIdentity : String
  approvalReference : String
  disposition : String
  reasons : List String
  details : List String
  previousDigest : Option String
  contentDigest : String
deriving DecidableEq

/-- The fields of `_event_body` without the digest. -/
def JournalEvent.fields (e : JournalEvent) : List (String × Json) :=
  [("approval_reference", .str e.approvalReference),
    ("details", .arr (e.details.map .str)),
    ("disposition", .str e.disposition),
    ("event_id", .str e.eventId),
    ("experiment_id", .str e.experimentId),
    ("kind", .str e.kind.value),
    ("plan_digest", .str e.planDigest),
    ("policy_identity", .str e.policyIdentity),
    ("previous_digest", .ofOption .str e.previousDigest),
    ("reasons", .arr (e.reasons.map .str)),
    ("run_id", .ofOption .str e.runId),
    ("sequence", .int e.sequence)]

/-- `_event_body(event, include_digest=True)`. -/
def JournalEvent.sealedBody (e : JournalEvent) : Json := .obj (e.fields ++ [("content_digest", .str e.contentDigest)])

/-- The digest of an event's body. -/
def JournalEvent.digest (py : Platform) (e : JournalEvent) : Except Raised String :=
  Raised.ofOutcome (py.digest "ATIS-S4-08-JOURNAL-EVENT-V1" (.obj e.fields))

/-! ## Decoding -/

def eventKeys : List String :=
  ["approval_reference", "content_digest", "details", "disposition", "event_id", "experiment_id", "kind",
    "plan_digest", "policy_identity", "previous_digest", "reasons", "run_id", "sequence"]

/-- `tuple(value)`. -/
def tuple? : Json → Option (List Json)
  | .arr items => some items
  | .str s => some ((Text.chars s).map fun c => .str (String.ofList [c]))
  | .dict fields => some (fields.map fun f => .str f.1)
  | _ => none

/-- A value that must be a text. -/
def textOf (name : String) (j : Json) : Except Raised String :=
  orRaise (.governance (name ++ " must be nonempty unpadded text")) (text? j)

/-- A tuple of texts that must be unique. -/
def textsOf (name : String) (items : List Json) : Except Raised (List String) :=
  orRaise (.governance (name ++ " must be a unique tuple")) (items.mapM text?)

/-- `_decode`, of the text of the file. -/
def decode (py : Platform) (content : List Char) : Except Raised JournalEvent := do
  let value ← orRaise (.journal "journal record is unreadable") (Json.loads content)
  let fields ← orRaise (.journal "journal record is not canonical JSON") value.fields?
  let canonical ← Raised.ofOutcome (py.canonicalJson value)
  raiseIf (canonical ≠ content) (.journal "journal record is not canonical JSON")
  raiseIf (hasKeys eventKeys fields = false) (.journal "journal record schema mismatch")
  let invalid := Raised.journal "journal record contains invalid values"
  let kind ← orRaise invalid ((text? (member "kind" value)).bind eventKindOf?)
  let reasonItems ← orRaise invalid (tuple? (member "reasons" value))
  let detailItems ← orRaise invalid (tuple? (member "details" value))
  let sequence ← orRaise (.journal "journal sequence is invalid") (natural? (member "sequence" value))
  raiseIf (sequence = 0) (.journal "journal sequence is invalid")
  let eventId ← textOf "event_id" (member "event_id" value)
  safeId "event_id" eventId
  let experimentId ← textOf "experiment_id" (member "experiment_id" value)
  text "experiment_id" experimentId
  let runId ← orRaise (.governance "run_id must be nonempty unpadded text") (optionalText? (member "run_id" value))
  runId.forM (text "run_id")
  let planDigest ← textOf "plan_digest" (member "plan_digest" value)
  digestText "plan_digest" planDigest
  let policyIdentity ← textOf "policy_identity" (member "policy_identity" value)
  safeId "policy_identity" policyIdentity
  let approvalReference ← textOf "approval_reference" (member "approval_reference" value)
  safeId "approval_reference" approvalReference
  let disposition ← textOf "disposition" (member "disposition" value)
  text "disposition" disposition
  let reasons ← textsOf "reasons" reasonItems
  uniqueText "reasons" reasons
  let details ← textsOf "details" detailItems
  uniqueText "details" details
  let previousDigest ← orRaise (.governance "previous_digest must be nonempty unpadded text")
    (optionalText? (member "previous_digest" value))
  previousDigest.forM (digestText "previous_digest")
  let contentDigest ← orRaise (.journal "journal record digest mismatch") (text? (member "content_digest" value))
  let event : JournalEvent := {
    sequence := sequence, eventId := eventId, kind := kind, experimentId := experimentId, runId := runId,
    planDigest := planDigest, policyIdentity := policyIdentity, approvalReference := approvalReference,
    disposition := disposition, reasons := reasons, details := details, previousDigest := previousDigest,
    contentDigest := contentDigest }
  let expected ← event.digest py
  raiseIf (contentDigest ≠ expected) (.journal "journal record digest mismatch")
  return event

/-- `item.partition("=")`, of an item that has the mark. -/
def partition? (item : String) : Option (String × String) :=
  match (Text.chars item).span (· ≠ '=') with
  | (key, _ :: value) => some (String.ofList key, String.ofList value)
  | (_, []) => none

/-- One iteration of `_detail_map`. -/
def addDetail (result : List (String × String)) (item : String) : Except Raised (List (String × String)) := do
  let pair ← orRaise (.journal "event details are not canonical key-value pairs") (partition? item)
  raiseIf (pair.1 = "" ∨ (Dict.get? pair.1 result).isSome)
    (.journal "event details are not canonical key-value pairs")
  return result ++ [pair]

/-- `_detail_map`. -/
def detailMap (e : JournalEvent) : Except Raised (List (String × String)) := e.details.foldlM addDetail []

/-- `details[k]`, of details that have the key. -/
def detail (k : String) (details : List (String × String)) : String := (Dict.get? k details).getD ""

/-- `set(details) == names`. -/
def detailsAre (names : List String) (details : List (String × String)) : Bool :=
  (names.all fun k => (Dict.get? k details).isSome) && details.all fun d => d.1 ∈ names

/-! ## What a history means -/

/-- The loop that collects the plans before a plan: `none` is a cycle. The digests of the
plans met are keys of `plans`, so the loop has no more rounds than `plans` has plans. -/
def lineageFrom (plans : List (String × FrozenResearchPlan)) :
    Nat → List FrozenResearchPlan → Option FrozenResearchPlan → Option (List FrozenResearchPlan)
  | _, result, none => some result
  | 0, _, some _ => none
  | rounds + 1, result, some cursor =>
    if cursor.planDigest ∈ result.map FrozenResearchPlan.planDigest then none
    else lineageFrom plans rounds (result ++ [cursor]) (cursor.predecessorPlanDigest.bind fun d => Dict.get? d plans)

/-- A plan and the plans before it. -/
def lineageOf (plans : List (String × FrozenResearchPlan)) (plan : FrozenResearchPlan) :
    Option (List FrozenResearchPlan) :=
  lineageFrom plans (plans.length + 1) [] (some plan)

/-- The variables of `_validate_semantics`; `admitted_by_lineage`, which nothing reads, is
left out. -/
structure Replay where
  plans : List (String × FrozenResearchPlan)
  states : List (String × TrialState)
  runPlans : List (String × String)
  authorizations : List (String × JournalEvent)
  consumed : List String

namespace Replay

def start : Replay := ⟨[], [], [], [], []⟩

end Replay

/-- The plan in the details of its acceptance. -/
def planOfDetails (py : Platform) (details : List (String × String)) : Except Raised FrozenResearchPlan := do
  let body ← orRaise (.journal "plan event contains malformed JSON") (Json.loads (Text.chars (detail "plan" details)))
  FrozenResearchPlan.fromCanonicalBody py body

/-- The approval in the details of a plan's acceptance. -/
def approvalOfDetails (details : List (String × String)) : Except Raised ApprovalEvidence := do
  let body ← orRaise (.journal "plan approval evidence is invalid")
    (Json.loads (Text.chars (detail "approval" details)))
  ApprovalEvidence.fromCanonicalBody body

/-- `except ResearchGovernanceError: raise JournalError(message)`. -/
def asJournal (message : String) : Raised → Raised
  | .governance _ => .journal message
  | e => e

/-- A successor has the scope of its predecessor. -/
def FrozenResearchPlan.sameScope (plan predecessor : FrozenResearchPlan) : Prop :=
  plan.hypothesis = predecessor.hypothesis ∧ plan.experiment = predecessor.experiment ∧
    plan.configurationDigest = predecessor.configurationDigest ∧ plan.parameterDomain = predecessor.parameterDomain ∧
    plan.objective = predecessor.objective ∧ plan.datasetId = predecessor.datasetId ∧
    plan.datasetVersion = predecessor.datasetVersion ∧ plan.partitionRole = predecessor.partitionRole

instance (plan predecessor : FrozenResearchPlan) : Decidable (plan.sameScope predecessor) := by
  unfold FrozenResearchPlan.sameScope
  infer_instance

/-- The check of a successor against its predecessor. -/
def checkSuccessor (plans : List (String × FrozenResearchPlan)) (plan : FrozenResearchPlan) : Except Raised Unit :=
  match plan.predecessorPlanDigest with
  | none => .ok ()
  | some digest => do
    let predecessor ← orRaise (.journal "plan predecessor is missing") (Dict.get? digest plans)
    raiseIf (¬ plan.sameScope predecessor) (.journal "successor plan changes frozen scope")
    raiseIf (plan.maximumAdmittedTrials ≤ predecessor.maximumAdmittedTrials)
      (.journal "successor budget does not increase")

/-- A `PLAN_ACCEPTED` event. -/
def replayPlan (py : Platform) (r : Replay) (event : JournalEvent) (details : List (String × String)) :
    Except Raised Replay := do
  raiseIf (event.runId ≠ none ∨ event.disposition ≠ "ACCEPTED" ∨ event.reasons ≠ [])
    (.journal "plan acceptance event semantics are invalid")
  raiseIf (detailsAre ["approval", "assurance_mode", "plan", "trust_context"] details = false)
    (.journal "plan acceptance details are incomplete")
  raiseIf (assuranceModeOf? (detail "assurance_mode" details) = none) (.journal "plan assurance mode is invalid")
  let plan ← planOfDetails py details
  raiseIf (plan.planDigest ≠ event.planDigest ∨ plan.experimentId.value ≠ event.experimentId)
    (.journal "plan event identity substitution")
  (approvalOfDetails details >>= fun approval => approval.validateFor py plan).mapError
    (asJournal "plan approval evidence is invalid")
  raiseIf (∃ known ∈ Dict.get? event.planDigest r.plans, known ≠ plan) (.journal "conflicting plan identity")
  checkSuccessor r.plans plan
  return { r with plans := Dict.set event.planDigest plan r.plans }

/-- The check of the target of a replay. -/
def checkReplayTarget (r : Replay) (lineage : List String) (run replay : String) : Except Raised Unit := do
  raiseIf (replay = run) (.journal "replay target is not an attributable admitted run")
  let digest ← orRaise (.journal "replay target is not an attributable admitted run") (Dict.get? replay r.runPlans)
  raiseIf (digest ∉ lineage) (.journal "replay target is outside plan lineage")

/-- A `TRIAL_ADMITTED` event. -/
def replayAdmission (r : Replay) (event : JournalEvent) (plan : FrozenResearchPlan) (lineage : List String)
    (details : List (String × String)) : Except Raised Replay := do
  let run ← orRaise (.journal "trial admission semantics are invalid") event.runId
  raiseIf (event.disposition ≠ TrialState.admitted.value ∨ event.reasons ≠ [])
    (.journal "trial admission semantics are invalid")
  raiseIf (detailsAre ["maximum", "replay_of", "reproducibility"] details = false)
    (.journal "trial admission details are incomplete")
  digestText "reproducibility" (detail "reproducibility" details)
  if detail "replay_of" details ≠ "none" then
    checkReplayTarget r lineage run (detail "replay_of" details)
  raiseIf (Dict.get? run r.states).isSome (.journal "run was admitted more than once")
  let maximum ← orRaise (.journal "trial admission maximum is invalid") (Text.intOf? (detail "maximum" details))
  raiseIf (maximum ≠ plan.maximumAdmittedTrials ∨
      plan.maximumAdmittedTrials ≤ (Dict.values r.runPlans).countP (· ∈ lineage))
    (.journal "trial admission exceeds cumulative budget")
  return { r with states := Dict.set run .admitted r.states, runPlans := Dict.set run plan.planDigest r.runPlans }

/-- A later event of a trial. -/
def replayTransition (r : Replay) (event : JournalEvent) (plan : FrozenResearchPlan)
    (details : List (String × String)) : Except Raised Replay := do
  let run ← orRaise (.journal "trial transition details are invalid") event.runId
  raiseIf (details ≠ []) (.journal "trial transition details are invalid")
  raiseIf (Dict.get? run r.runPlans ≠ some plan.planDigest) (.journal "trial transition uses another plan")
  let target ← orRaise (.python ⟨.valueError, "'" ++ event.disposition ++ "' is not a valid TrialState"⟩)
    (trialStateOf? event.disposition)
  let prior ← orRaise (.journal "invalid recovered trial transition") (Dict.get? run r.states)
  raiseIf (target.kind ≠ event.kind ∨ target ∉ prior.transitions) (.journal "invalid recovered trial transition")
  raiseIf ((target = .failed ∨ target = .interrupted) ≠ (event.reasons ≠ []))
    (.journal "trial transition reasons are invalid")
  return { r with states := Dict.set run target r.states }

/-- A `HOLDOUT_AUTHORIZED` or `HOLDOUT_REJECTED` event. -/
def replayRequest (r : Replay) (event : JournalEvent) (plan : FrozenResearchPlan)
    (details : List (String × String)) : Except Raised Replay := do
  raiseIf (event.runId ≠ none ∨ detailsAre ["dataset", "partition", "purpose", "version"] details = false)
    (.journal "holdout event semantics are invalid")
  raiseIf (detail "dataset" details ≠ plan.datasetId ∨ detail "version" details ≠ plan.datasetVersion ∨
      detail "partition" details ≠ plan.partitionRole.value)
    (.journal "holdout event dataset substitution")
  let decision ← orRaise (.python ⟨.valueError, "'" ++ event.disposition ++ "' is not a valid HoldoutDecision"⟩)
    (holdoutDecisionOf? event.disposition)
  raiseIf ((event.kind = .holdoutAuthorized) ≠ (decision = .authorizedAccess))
    (.journal "holdout disposition mismatch")
  return { r with
    authorizations :=
      if event.kind = .holdoutAuthorized then Dict.set event.contentDigest event r.authorizations
      else r.authorizations }

/-- A `HOLDOUT_CONSUMED` event. -/
def replayConsumption (r : Replay) (event : JournalEvent) (details : List (String × String)) :
    Except Raised Replay := do
  raiseIf (event.runId ≠ none ∨
      detailsAre ["authorization_event_digest", "authorization_event_id", "dataset", "partition", "version"]
        details = false ∨
      event.disposition ≠ "CONSUMED_NO_DELIVERY" ∨ event.reasons ≠ ["production delivery not established"])
    (.journal "holdout consumption semantics are invalid")
  let digest := detail "authorization_event_digest" details
  digestText "authorization_event_digest" digest
  let authorization ← orRaise (.journal "holdout consumption authorization mismatch")
    (Dict.get? digest r.authorizations)
  raiseIf (authorization.eventId ≠ detail "authorization_event_id" details ∨
      authorization.planDigest ≠ event.planDigest ∨ authorization.experimentId ≠ event.experimentId)
    (.journal "holdout consumption authorization mismatch")
  let authorized ← detailMap authorization
  raiseIf (∃ name ∈ ["dataset", "partition", "version"], detail name details ≠ detail name authorized)
    (.journal "holdout consumption dataset substitution")
  raiseIf (digest ∈ r.consumed) (.journal "holdout authorization already consumed")
  return { r with consumed := r.consumed ++ [digest] }

/-- A `CONTAMINATION_RECORDED` event. -/
def replayContamination (r : Replay) (event : JournalEvent) (details : List (String × String)) :
    Except Raised Replay := do
  raiseIf (event.runId ≠ none ∨ details ≠ [] ∨ event.disposition ≠ "CONTAMINATED_EVIDENCE" ∨ event.reasons = [])
    (.journal "contamination event semantics are invalid")
  return r

/-- One iteration of `_validate_semantics`. -/
def replayEvent (py : Platform) (r : Replay) (event : JournalEvent) : Except Raised Replay := do
  let details ← detailMap event
  if event.kind = .planAccepted then replayPlan py r event details
  else
    let plan ← orRaise (.journal "event references an unaccepted plan") (Dict.get? event.planDigest r.plans)
    raiseIf (event.experimentId ≠ plan.experimentId.value) (.journal "event references an unaccepted plan")
    let lineage ← orRaise (.journal "plan lineage cycle") (lineageOf r.plans plan)
    match event.kind with
    | .planAccepted => .error (.journal "unknown journal event kind")
    | .trialAdmitted => replayAdmission r event plan (lineage.map FrozenResearchPlan.planDigest) details
    | .trialRunning | .trialCompleted | .trialFailed | .trialInterrupted => replayTransition r event plan details
    | .holdoutAuthorized | .holdoutRejected => replayRequest r event plan details
    | .holdoutConsumed => replayConsumption r event details
    | .contaminationRecorded => replayContamination r event details

/-- `_validate_semantics`, with the variables at its end. -/
def validateSemantics (py : Platform) (events : List JournalEvent) : Except Raised Replay :=
  events.foldlM (replayEvent py) Replay.start

/-! ## The directory -/

structure Disk where
  entries : List Entry
  /-- How many temporary files are there. -/
  staged : Nat

def Disk.empty : Disk := ⟨[], 0⟩

/-- `_paths`. -/
def paths (disk : Disk) : Except Raised (List Entry) := do
  raiseIf (0 < disk.staged ∨ disk.entries.any fun e => !Journal.hasJsonSuffix e.name)
    (.journal "journal contains incomplete or unexpected files")
  return disk.entries.insertionSort (·.name ≤ ·.name)

/-- One iteration of `recover`. -/
def recoverRecord (py : Platform) (events : List JournalEvent) (entry : Entry) : Except Raised (List JournalEvent) := do
  raiseIf (entry.symlink = true) (.journal "journal record path is unsafe")
  raiseIf (entry.name ≠ Journal.recordName (events.length + 1)) (.journal "journal sequence is missing or reordered")
  let event ← decode py entry.content
  raiseIf (event.sequence ≠ events.length + 1 ∨ event.previousDigest ≠ events.getLast?.map JournalEvent.contentDigest)
    (.journal "journal hash chain is incomplete")
  raiseIf (event.eventId ∈ events.map JournalEvent.eventId) (.journal "journal event identity is duplicated")
  return events ++ [event]

/-- `recover`. -/
def recover (py : Platform) (disk : Disk) : Except Raised (List JournalEvent) := do
  let entries ← paths disk
  let events ← entries.foldlM (recoverRecord py) []
  let _ ← validateSemantics py events
  return events

/-! ## Trust -/

structure JournalCheckpoint where
  journalIdentity : String
  epoch : String
  acceptedSequence : Nat
  terminalDigest : Option String
  establishmentIdentity : String
  checkpointDigest : String
deriving DecidableEq

/-- `TrustContext`: the verifier that the caller supplies. -/
structure TrustContext where
  identity : String
  assuranceMode : AssuranceMode
  requireApproval : ApprovalEvidence → FrozenResearchPlan → Except Raised Unit
  requireCheckpoint : JournalCheckpoint → Except Raised Unit

/-- The fields of a `ResearchJournal` object but its root. -/
structure ResearchJournal where
  journalIdentity : String
  epoch : String
  checkpoint : Option JournalCheckpoint
  trust : TrustContext

inductive HistoryTrustState where
  | checkpointedHistory
  | uncheckpointedTail
  | invalidHistory
deriving DecidableEq

namespace ResearchJournal

variable (j : ResearchJournal)

/-- The checks of `history_trust_state` that make a history invalid. -/
def checkCheckpoint (checkpoint : JournalCheckpoint) (events : List JournalEvent) : Except Raised Unit := do
  j.trust.requireCheckpoint checkpoint
  raiseIf (checkpoint.journalIdentity ≠ j.journalIdentity ∨ checkpoint.epoch ≠ j.epoch)
    (.journal "checkpoint journal identity mismatch")
  raiseIf (checkpoint.establishmentIdentity ≠ j.trust.identity)
    (.journal "checkpoint establishment identity mismatch")
  raiseIf (events.length < checkpoint.acceptedSequence) (.journal "accepted journal records are missing")
  let actual := if checkpoint.acceptedSequence = 0 then none
    else events[checkpoint.acceptedSequence - 1]?.map JournalEvent.contentDigest
  raiseIf (actual ≠ checkpoint.terminalDigest) (.journal "checkpoint terminal digest mismatch")

/-- `history_trust_state`. -/
def historyTrustState (events : List JournalEvent) : Except Raised HistoryTrustState :=
  match j.checkpoint with
  | none => .ok .uncheckpointedTail
  | some checkpoint =>
    match j.checkCheckpoint checkpoint events with
    | .error (.journal _) => .ok .invalidHistory
    | .error e => .error e
    | .ok () => .ok (if checkpoint.acceptedSequence = events.length then .checkpointedHistory else .uncheckpointedTail)

/-- `require_checkpointed`. -/
def requireCheckpointed (events : List JournalEvent) : Except Raised Unit := do
  raiseIf ((← j.historyTrustState events) ≠ .checkpointedHistory)
    (.journal "authoritative history is not independently checkpointed")

end ResearchJournal

/-! ## Calls on the directory -/

/-- Who recovers the history: the governor to decide, or `_append`. -/
inductive Caller where
  | governor
  | append
deriving DecidableEq

/-- What the code asks of the directory. -/
inductive Call where
  | recover (caller : Caller)
  /-- The temporary file is written. -/
  | stage
  /-- The temporary file is linked under the event's number. -/
  | link (event : JournalEvent) (content : List Char)
  /-- The temporary file is removed. -/
  | discard

def Reply : Call → Type
  | .recover _ => Except Raised (List JournalEvent)
  | .stage => Unit
  | .link _ _ => Bool
  | .discard => Unit

/-- The file of an event. -/
def entryOf (event : JournalEvent) (content : List Char) : Entry := ⟨Journal.recordName event.sequence, false, content⟩

/-- What the directory answers, and the directory after it. -/
def Disk.answer (py : Platform) (disk : Disk) : (c : Call) → Reply c × Disk
  | .recover _ => (recover py disk, disk)
  | .stage => ((), { disk with staged := disk.staged + 1 })
  | .link event content =>
    if disk.entries.any fun e => e.name = Journal.recordName event.sequence then (false, disk)
    else (true, { disk with entries := disk.entries ++ [entryOf event content] })
  | .discard => ((), { disk with staged := disk.staged - 1 })

/-- Code over the directory that may raise. -/
abbrev Action := ExceptT Raised (Program Call Reply)

namespace Action

/-- The history, as it is recovered now. -/
def history (caller : Caller) : Action (List JournalEvent) := Program.call (.recover caller) .ret

/-- A computation that does not read the directory. -/
def lift {α : Type} (x : Except Raised α) : Action α := Program.ret x

/-- Whether the link was made; the temporary file is gone either way. -/
def publish (event : JournalEvent) (content : List Char) : Action Bool :=
  Program.call .stage fun _ => .call (.link event content) fun linked => .call .discard fun _ => .ret (.ok linked)

end Action

/-- The event that a caller of `_append` asks for. -/
structure Proposal where
  eventId : String
  kind : EventKind
  experimentId : ExperimentId
  runId : Option ResearchRunId
  plan : FrozenResearchPlan
  disposition : String
  reasons : List String
  details : List String

namespace Proposal

/-- The checks of the arguments of `_append`. -/
def check (p : Proposal) : Except Raised Unit := do
  safeId "event_id" p.eventId
  text "disposition" p.disposition
  uniqueText "reasons" p.reasons
  uniqueText "details" p.details

/-- The event after a history, without its digest. -/
def provisional (p : Proposal) (events : List JournalEvent) : JournalEvent where
  sequence := events.length + 1
  eventId := p.eventId
  kind := p.kind
  experimentId := p.experimentId.value
  runId := p.runId.map ResearchRunId.value
  planDigest := p.plan.planDigest
  policyIdentity := p.plan.policyIdentity
  approvalReference := p.plan.ownerApprovalReference
  disposition := p.disposition
  reasons := p.reasons
  details := p.details
  previousDigest := events.getLast?.map JournalEvent.contentDigest
  contentDigest := ""

/-- `existing_semantic == semantic`. -/
def sameSemantic (p : Proposal) (existing : JournalEvent) : Prop :=
  { existing with sequence := 0, eventId := "", previousDigest := none, contentDigest := "" } =
    { p.provisional [] with sequence := 0, eventId := "", previousDigest := none, contentDigest := "" }

instance (p : Proposal) (existing : JournalEvent) : Decidable (p.sameSemantic existing) := by
  unfold Proposal.sameSemantic
  infer_instance

/-- The event after a history, and the text of its file. -/
def sealed (py : Platform) (p : Proposal) (events : List JournalEvent) : Except Raised (JournalEvent × List Char) := do
  let provisional := p.provisional events
  let digest ← provisional.digest py
  let event := { provisional with contentDigest := digest }
  let _ ← validateSemantics py (events ++ [event])
  let content ← Raised.ofOutcome (py.canonicalJson event.sealedBody)
  return (event, content)

/-- `_append`. -/
def append (py : Platform) (p : Proposal) : Action JournalEvent := do
  Action.lift p.check
  let events ← Action.history .append
  match events.find? fun existing => existing.eventId = p.eventId with
  | some existing =>
    Action.lift (raiseIf (¬ p.sameSemantic existing) (.journal "conflicting duplicate event"))
    return existing
  | none =>
    let (event, content) ← Action.lift (p.sealed py events)
    let linked ← Action.publish event content
    Action.lift (raiseIf (linked = false) (.journal "concurrent journal writer detected"))
    let recovered ← Action.history .append
    Action.lift (raiseIf (recovered[event.sequence - 1]? ≠ some event)
      (.journal "published journal record identity changed"))
    return event

end Proposal

end ATB.Governance
