import Mathlib.Logic.Function.Basic
import AutomatedTradingBot.Framework.Fencing
import AutomatedTradingBot.Framework.Trace
import AutomatedTradingBot.Source.Stage5.AuthorityService

/-!
# Concurrent calls of the authority service

Calls of any number of processes over one authority store: `_reader_turn`,
`_writer_turn` and `_file_lock` of `stage5/authority_service/persistence.py`, and
`FencedRuntimeSession.serve` of `ipc.py`.

* A call loads what it needs outside of the lock: a management request or a key command
  reads the state and makes its successor, a fence checks its admission.
* It takes its turn at the gate of its process, then the file lock, and goes through
  its section, which no other section interrupts. A fence keeps both until its peer
  answers.
* A call gives up whenever its deadline may have passed. A process may crash, in the
  middle of a section too, which drops its lock.

The log and the commits are not part of the service. The log says, newest first, which
admissions were issued, for which fences were entered, and when the head of the authority
was renewed; the commits are the databases that were committed, and by which calls.
-/

namespace ATB.Stage5.AuthorityStore

open ATB.Durable

/-! ## Calls -/

inductive AuthorityCall where
  | manage (request : Json)
  | key (action : KeyAction) (commandId keyId : String) (version : Int)
  | admitCall (call : AdmitCall)
  | recover
  | fence (call : FenceCall) (fenceNonce : String)

/-- What a call does under the lock, with what it has loaded. -/
inductive Section where
  | retry (commandId payloadDigest : String)
  | publish (current : AuthorityState) (commandId payloadDigest : String) (successor : AuthorityState) (result : String)
  | admitCall (call : AdmitCall)
  | recover
  | fence (call : FenceCall)

inductive Reply where
  | result (text : String)
  | state (state : AuthorityState)
  | admission (admission : SignedAdmission)
  | released

/-- The fence takes its turn as a reader, the others as writers. -/
def Section.isReader : Section → Bool
  | .fence _ => true
  | _ => false

variable (env : Environment) (cfg : ServiceConfiguration)

/-- The part of a call before its section. -/
def AuthorityCall.load (database : Database) : AuthorityCall → Except StoreError Section
  | .manage request => do
    let commandId ← managedCommandId request
    let payloadDigest := digest env request
    let current ← read env database
    if requestText request "expected_authority_head" ≠ some current.authorityHead then return .retry commandId payloadDigest
    else do
      let body ← managedBody current request
      let successor := successorOf env body
      return .publish current commandId payloadDigest successor (managedText commandId successor)
  | .key action commandId keyId version => do
    let current ← read env database
    let successor ← action.successor env current keyId version
    let payload : Json := .obj [("action", .str action.value), ("key_id", .str keyId), ("version", .int version)]
    return .publish current commandId (digest env payload) successor (commandText commandId successor)
  | .admitCall call => do
    raiseIf (call.request.requestNonce = "") (.authorityService "Runtime request nonce is missing")
    return .admitCall call
  | .recover => return .recover
  | .fence call _ => do
    checkAdmission env cfg call
    return .fence call

def Section.perform : Section → Durable.Operation Store StoreError Reply
  | .retry commandId payloadDigest => do
    let text ← retryResult env commandId payloadDigest
    return .result text
  | .publish _ commandId payloadDigest successor result => do
    let text ← AuthorityStore.publish env commandId payloadDigest successor result
    return .result text
  | .admitCall call => do
    let admission ← AuthorityService.admitExclusive env cfg call
    return .admission admission
  | .recover => do
    let state ← AuthorityStore.recover env
    return .state state
  | .fence call => do
    let state ← AuthorityService.enterFence env call
    return .state state

/-- A key command reads the state again once it has published. -/
def AuthorityCall.readsBack : AuthorityCall → Bool
  | .key .. => true
  | _ => false

/-- The request that ends a fence. -/
def releases (fenceNonce : String) (admission : SignedAdmission) (request : Json) : Bool :=
  requestText request "protocol" = some serviceProtocol ∧
    requestText request "operation" = some "RELEASE_FENCED_CONSUMPTION" ∧
    requestText request "fence_nonce" = some fenceNonce ∧
    requestText request "admission_id" = some admission.envelope.admissionId

/-- The end of `serve`, by what its peer sends before it disconnects. -/
def AuthorityCall.released (call : AuthorityCall) (admission : SignedAdmission) (request : Option Json) :
    Except StoreError Reply :=
  match call, request with
  | .fence _ fenceNonce, some request => do
    raiseIf (releases fenceNonce admission request = false)
      (.authorityService "operational authority fence release rejected")
    return .released
  | _, _ => .error (.authorityService "fenced consumer disconnected before release")

/-! ## The log -/

abbrev Event := Fencing.Event SignedAdmission AuthorityBody

/-- Whether a section from `db` to `db'` has committed a management or key command, or an expiry. -/
def Section.renews (σ : Section) (db db' : Database) : Bool :=
  match σ with
  | .publish .. => db' ≠ db
  | .admitCall _ => db' ≠ db ∧ db'.state.authorityStatus = .expired
  | _ => false

/-- The body of which the head of `db'` is the digest, when `db'` comes after `db`. -/
def renewal (db db' : Database) : AuthorityBody :=
  { db'.state.toAuthorityBody with authorityHead := db.state.authorityHead }

/-- The events of a section from `db` to `db'`. -/
def Section.events (σ : Section) (db db' : Database) (r : Except (Stop StoreError) Reply) : List Event :=
  let renewed := if σ.renews db db' then [.renewed (renewal db db')] else []
  match σ, r with
  | .admitCall _, .ok (.admission admission) => .issued admission :: renewed
  | .fence call, .ok _ => .accepted call.admission :: renewed
  | _, _ => renewed

/-! ## Steps -/

/-- The `_gate` of a process. -/
structure Gate where
  activeReaders : Nat := 0
  waitingWriters : Nat := 0
  writerActive : Bool := false

inductive Phase where
  | idle
  | ready (σ : Section)
  /-- A writer that waits for its turn. -/
  | waiting (σ : Section)
  | entered (σ : Section)
  | locked (σ : Section)
  /-- The fence is held since the store was `entry`. -/
  | fenced (admission : SignedAdmission) (entry : Store)
  | published
  | returned (reply : Reply)
  | stopped (stop : Stop StoreError)

structure Commit where
  call : Nat
  database : Database

structure Config where
  store : Store
  fileLock : Option Nat
  gate : Nat → Gate
  phase : Nat → Phase
  log : List Event
  commits : List Commit

def Config.initial (s : Store) : Config := ⟨s, none, fun _ => {}, fun _ => .idle, [], []⟩

/-- The calls, and the processes in which they are made. -/
structure Deployment where
  env : Environment
  cfg : ServiceConfiguration
  call : Nat → AuthorityCall
  process : Nat → Nat

inductive Action where
  | load
  | announce
  | enter
  | timeOut
  | lock
  | perform
  /-- The peer of the fence sends a request, or disconnects. -/
  | release (request : Option Json)
  | readBack

inductive Label where
  | call (i : Nat) (action : Action)
  /-- The process crashes, and a section that it is in is cut off at one of its writes. -/
  | crash (p : Nat) (writes : Nat)

namespace Deployment

variable (d : Deployment) (c : Config)

def goto (i : Nat) (phase : Phase) : Config := { c with phase := Function.update c.phase i phase }

def setGate (i : Nat) (gate : Gate) : Config := { c with gate := Function.update c.gate (d.process i) gate }

/-- A turn ends. -/
def leave (i : Nat) (reader : Bool) : Config :=
  let gate := c.gate (d.process i)
  d.setGate c i (if reader then { gate with activeReaders := gate.activeReaders - 1 } else { gate with writerActive := false })

def unlock (i : Nat) (reader : Bool) : Config := d.leave { c with fileLock := none } i reader

/-- The store after a section, with the log and the commits. -/
def after (i : Nat) (σ : Section) (writes : Option Nat) : Config :=
  let (r, t) := (σ.perform d.env d.cfg).run c.store writes
  { c with
    store := t
    log := σ.events c.store.database t.database r ++ c.log
    commits := if t.database = c.store.database then c.commits else ⟨i, t.database⟩ :: c.commits }

/-- Where a call goes from its section. -/
def conclude (i : Nat) (σ : Section) (r : Except (Stop StoreError) Reply) (c : Config) : Config :=
  match r, σ with
  | .error stop, σ => goto (d.unlock c i σ.isReader) i (.stopped stop)
  | .ok _, .fence call => goto c i (.fenced call.admission c.store)
  | .ok reply, σ => goto (d.unlock c i σ.isReader) i (if (d.call i).readsBack then .published else .returned reply)

def timedOut : Phase := .stopped (.raised (.authorityService "authority witness lock timed out"))

def finish (r : Except StoreError Reply) : Phase :=
  match r with
  | .ok reply => .returned reply
  | .error e => .stopped (.raised e)

def act (i : Nat) : Action → Phase → Option Config
  | .load, .idle =>
    match (d.call i).load d.env d.cfg c.store.database with
    | .ok σ => some (goto c i (.ready σ))
    | .error e => some (goto c i (.stopped (.raised e)))
  | .announce, .ready σ =>
    let gate := c.gate (d.process i)
    if σ.isReader then none
    else some (goto (d.setGate c i { gate with waitingWriters := gate.waitingWriters + 1 }) i (.waiting σ))
  | .enter, .ready σ =>
    let gate := c.gate (d.process i)
    if σ.isReader = true ∧ gate.writerActive = false ∧ gate.waitingWriters = 0 then
      some (goto (d.setGate c i { gate with activeReaders := gate.activeReaders + 1 }) i (.entered σ))
    else none
  | .enter, .waiting σ =>
    let gate := c.gate (d.process i)
    if gate.writerActive = false ∧ gate.activeReaders = 0 then
      some (goto (d.setGate c i { gate with waitingWriters := gate.waitingWriters - 1, writerActive := true }) i (.entered σ))
    else none
  | .timeOut, .ready σ => if σ.isReader then some (goto c i timedOut) else none
  | .timeOut, .waiting _ =>
    let gate := c.gate (d.process i)
    some (goto (d.setGate c i { gate with waitingWriters := gate.waitingWriters - 1 }) i timedOut)
  | .timeOut, .entered σ => some (goto (d.leave c i σ.isReader) i timedOut)
  | .lock, .entered σ =>
    if c.fileLock = none then some (goto { c with fileLock := some i } i (.locked σ)) else none
  | .perform, .locked σ =>
    some (d.conclude i σ ((σ.perform d.env d.cfg).run c.store none).1 (d.after c i σ none))
  | .release request, .fenced admission _ =>
    some (goto (d.unlock c i true) i (finish ((d.call i).released admission request)))
  | .readBack, .published =>
    some (goto c i (finish (Reply.state <$> read d.env c.store.database)))
  | _, _ => none

/-- The section that a crash of the process cuts off. -/
def interrupted (p : Nat) : Option (Nat × Section) :=
  match c.fileLock with
  | some i => if d.process i = p then match c.phase i with
      | .locked σ => some (i, σ)
      | _ => none
    else none
  | none => none

def crashed : Phase → Phase
  | .returned reply => .returned reply
  | .stopped stop => .stopped stop
  | _ => .stopped .crashed

def crash (p writes : Nat) : Config :=
  let after := match d.interrupted c p with
    | some (i, σ) => d.after c i σ (some writes)
    | none => c
  { after with
    fileLock := c.fileLock.filter fun i => d.process i ≠ p
    gate := Function.update c.gate p {}
    phase := fun i => if d.process i = p then crashed (c.phase i) else c.phase i }

def step (c : Config) : Label → Option Config
  | .call i action => d.act c i action (c.phase i)
  | .crash p writes => some (d.crash c p writes)

end Deployment

end ATB.Stage5.AuthorityStore
