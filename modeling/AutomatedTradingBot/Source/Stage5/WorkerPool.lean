import Mathlib
import AutomatedTradingBot.Framework.Trace
import AutomatedTradingBot.Source.Stage5.RecoveryJournal

/-!
# The preconnected worker pool

`execute`, `_lease`, `_release`, `_retire` and `replace_retired` of
`stage5/commit_boundary/preconnected_pool.py`. A call of `execute` is followed
through its program points: each call of the journal, of the admission controller
and of the pipes is one step, each block under the pool's lock is one step, and any
of the former may raise. What the callee answers is part of the label of the step
(`Reply`), so that nothing is assumed of the journal, of the controller or of the
worker. Worker processes may end at any time.

`holder` is not in the source: it is the call that a slot is leased to.
-/

namespace ATB.Stage5.WorkerPool

inductive Lifecycle where
  | idle
  | leased
  | retiring
  | reaped
  | unresolved
deriving DecidableEq

/-- `_WorkerSlot`; `safe` is its readiness. -/
structure Slot where
  safe : Bool
  retired : Bool
  leased : Bool
  lifecycle : Lifecycle
  handlesClosed : Bool
  alive : Bool
deriving DecidableEq

/-- What `_spawn_slot` publishes. -/
def Slot.fresh : Slot := ⟨true, false, false, .idle, false, true⟩

/-- A message of the worker: `OUTCOME` with whether it is well formed and names this
command, and whether the readiness it reports is safe; or anything else. -/
inductive Message where
  | outcome (valid safe : Bool)
  | other
deriving DecidableEq

/-- What a step gets back from what it calls. -/
inductive Reply where
  | returns
  | message (m : Option Message)
  | record (state : Option RecoveryState)
  | deadlineExceeded
  | persistenceUnresolved
  | raises
deriving DecidableEq

inductive Stage where
  | mark
  | terminate
  | kill
  | close
  | finish
deriving DecidableEq

/-- The clause of `execute` that calls `_retire`. -/
inductive Clause where
  | body
  | journalUnavailable
  | otherwise
deriving DecidableEq

/-- The next program point of a call of `execute`; `s` is the slot that `_lease` gave it. -/
inductive Point where
  | idle
  | lease
  | recordCapacityDenied
  | prepareProtectedDispatch (s : Nat)
  | admitVerified (s : Nat)
  | send (s : Nat)
  | receive (s : Nat)
  | resolved (s : Nat) (safe : Bool)
  | release (s : Nat) (safe : Bool)
  /-- `get` after `_release`. -/
  | readBack (s : Nat)
  | hold (s : Nat)
  /-- `get` after `hold`. -/
  | confirm (s : Nat)
  /-- `except BaseException`, where `effect` is `effect_possible`. -/
  | recover (s : Nat) (effect : Bool)
  | recoverHold (s : Nat)
  | failedBeforeEffect (s : Nat)
  | retire (s : Nat) (stage : Stage) (clause : Clause)
deriving DecidableEq

/-- `PreconnectedWorkerPoolSupervisor`. -/
structure Supervisor (ι : Type) where
  /-- `_slots`, by identity. -/
  slots : List Nat
  /-- `_available`. -/
  available : List Nat
  slot : Nat → Slot
  /-- The identity of the next slot object. -/
  next : Nat
  /-- The retired slots that `replace_retired` has still to replace, while it holds its lock. -/
  replacing : Option (List Nat)
  calls : ι → Point
  holder : Nat → Option ι

namespace Supervisor

variable {ι : Type} [DecidableEq ι]

def setCall (p : Supervisor ι) (t : ι) (c : Point) : Supervisor ι := { p with calls := Function.update p.calls t c }

def setSlot (p : Supervisor ι) (s : Nat) (x : Slot) : Supervisor ι := { p with slot := Function.update p.slot s x }

def setHolder (p : Supervisor ι) (s : Nat) (t : Option ι) : Supervisor ι := { p with holder := Function.update p.holder s t }

/-- The call is over, and holds its slot no longer. -/
def leave (p : Supervisor ι) (t : ι) (s : Nat) : Supervisor ι :=
  (if p.holder s = some t then p.setHolder s none else p).setCall t .idle

/-- `_lease`. -/
def lease (p : Supervisor ι) (t : ι) : Supervisor ι :=
  match p.available with
  | [] => p.setCall t .recordCapacityDenied
  | s :: rest =>
    (({ p with available := rest }.setSlot s { p.slot s with leased := true, lifecycle := .leased }).setHolder s
      (some t)).setCall t (.prepareProtectedDispatch s)

/-- `_release`. -/
def release (p : Supervisor ι) (s : Nat) (safe : Bool) : Supervisor ι :=
  let x := { p.slot s with safe := safe, leased := false }
  let p := p.setHolder s none
  if x.retired = false ∧ safe = true ∧ x.alive = true then
    { p.setSlot s { x with lifecycle := .idle } with available := p.available ++ [s] }
  else p.setSlot s x

/-- The first block of `_retire`. -/
def markRetired (p : Supervisor ι) (s : Nat) : Supervisor ι :=
  { p.setSlot s { p.slot s with retired := true, leased := false, lifecycle := .retiring } with
    available := p.available.erase s }

/-- The last block of `_retire`. -/
def finishRetire (p : Supervisor ι) (s : Nat) : Supervisor ι :=
  let x := p.slot s
  p.setSlot s { x with lifecycle := if x.alive = false ∧ x.handlesClosed = true then .reaped else .unresolved }

/-- The step that a call takes next. -/
def advance (p : Supervisor ι) (t : ι) (reply : Reply) : Point → Option (Supervisor ι)
  | .idle => none
  | .lease => some (p.lease t)
  | .recordCapacityDenied => some (p.setCall t .idle)
  | .prepareProtectedDispatch s => attempt s false reply (.admitVerified s)
  | .admitVerified s => attempt s false reply (.send s)
  | .send s => attempt s true reply (.receive s)
  | .receive s =>
    match reply with
    | .message (some (.outcome valid safe)) =>
      some (p.setCall t (if valid && safe then .resolved s safe else .recover s true))
    | .message _ => some (p.setCall t (.hold s))
    | .raises => some (p.setCall t (.recover s true))
    | _ => none
  | .resolved s safe => attempt s true reply (.release s safe)
  | .release s safe => some ((p.release s safe).setCall t (.readBack s))
  | .readBack s =>
    match reply with
    | .record (some _) => some (p.setCall t .idle)
    | .record none | .raises => some (p.setCall t (.recover s true))
    | .deadlineExceeded | .persistenceUnresolved => some (p.setCall t (.retire s .mark .journalUnavailable))
    | _ => none
  | .hold s =>
    match reply with
    | .returns => some (p.setCall t (.confirm s))
    | .deadlineExceeded | .persistenceUnresolved => some (p.setCall t (.retire s .mark .body))
    | .raises => some (p.setCall t (.recover s true))
    | _ => none
  | .confirm s =>
    match reply with
    | .record _ | .deadlineExceeded | .persistenceUnresolved => some (p.setCall t (.retire s .mark .body))
    | .raises => some (p.setCall t (.recover s true))
    | _ => none
  | .recover s effect =>
    if effect then some (p.setCall t (.recoverHold s))
    else
      match reply with
      | .record (some .effectPossible) | .record (some .ambiguousHold) => some (p.setCall t (.recoverHold s))
      | .record (some .intent) => some (p.setCall t (.failedBeforeEffect s))
      | .record _ | .deadlineExceeded => some (p.setCall t (.retire s .mark .otherwise))
      | .persistenceUnresolved | .raises => some (p.leave t s)
      | _ => none
  | .recoverHold s =>
    match reply with
    | .returns | .deadlineExceeded | .persistenceUnresolved => some (p.setCall t (.retire s .mark .otherwise))
    | .raises => some (p.leave t s)
    | _ => none
  | .failedBeforeEffect s =>
    match reply with
    | .returns => some (p.setCall t (.retire s .mark .otherwise))
    | .deadlineExceeded | .persistenceUnresolved | .raises => some (p.leave t s)
    | _ => none
  | .retire s .mark clause => some ((p.markRetired s).setCall t (.retire s .terminate clause))
  | .retire s .terminate clause => signal s reply clause .kill
  | .retire s .kill clause => signal s reply clause .close
  | .retire s .close clause =>
    match reply with
    | .returns => some ((p.setSlot s { p.slot s with handlesClosed := true }).setCall t (.retire s .finish clause))
    | .raises => some ((p.setSlot s { p.slot s with handlesClosed := false }).setCall t (.retire s .finish clause))
    | _ => none
  | .retire s .finish _ => some ((p.finishRetire s).leave t s)
where
  /-- A call in the body of `try`: a journal that is not available, or any other exception,
  goes to its clause. -/
  attempt (s : Nat) (effect : Bool) (reply : Reply) (next : Point) : Option (Supervisor ι) :=
    match reply with
    | .returns => some (p.setCall t next)
    | .deadlineExceeded | .persistenceUnresolved => some (p.setCall t (.retire s .mark .journalUnavailable))
    | .raises => some (p.setCall t (.recover s effect))
    | _ => none
  /-- `terminate` or `kill`, when the process is still alive. An exception leaves `_retire`:
  from the body to the last clause, from a clause out of the call. -/
  signal (s : Nat) (reply : Reply) (clause : Clause) (stage : Stage) : Option (Supervisor ι) :=
    match reply with
    | .returns => some (p.setCall t (.retire s stage clause))
    | .raises =>
      if (p.slot s).alive then
        match clause with
        | .body => some (p.setCall t (.recover s true))
        | .journalUnavailable | .otherwise => some (p.leave t s)
      else none
    | _ => none

end Supervisor

inductive Event (ι : Type) where
  /-- A call of `execute` has verified its evidence. -/
  | execute (t : ι)
  | work (t : ι) (reply : Reply)
  /-- A worker process ends. -/
  | die (s : Nat)
  /-- `replace_retired` takes its lock and looks for retired slots. -/
  | replaceRetired
  /-- It spawns the next replacement, or fails to. -/
  | replace (spawned : Bool)
deriving DecidableEq

namespace Supervisor

variable {ι : Type} [DecidableEq ι]

/-- One turn of the loop of `replace_retired`. -/
def replaceNext (p : Supervisor ι) (s : Nat) (rest : List Nat) : Supervisor ι :=
  let q := { p.setSlot p.next .fresh with next := p.next + 1 }
  if s ∈ p.slots ∧ (p.slot s).retired = true then
    { q with
      slots := p.slots.erase s ++ [p.next], available := p.available ++ [p.next], replacing := some rest }
  else
    -- "retired slot changed during replacement": the new worker is retired
    { q.markRetired p.next with replacing := none }

def step (p : Supervisor ι) : Event ι → Option (Supervisor ι)
  | .execute t => if p.calls t = .idle then some (p.setCall t .lease) else none
  | .work t reply => p.advance t reply (p.calls t)
  | .die s => some (p.setSlot s { p.slot s with alive := false })
  | .replaceRetired =>
    if p.replacing = none then some { p with replacing := some (p.slots.filter fun s => (p.slot s).retired) }
    else none
  | .replace spawned =>
    match p.replacing with
    | none => none
    | some [] => some { p with replacing := none }
    | some (s :: rest) => some (if spawned then p.replaceNext s rest else { p with replacing := none })

/-- The pool after its constructor. -/
def init (capacity : Nat) : Supervisor ι :=
  ⟨List.range capacity, List.range capacity, fun _ => .fresh, capacity, none, fun _ => .idle, fun _ => none⟩

end Supervisor

end ATB.Stage5.WorkerPool
