import AutomatedTradingBot.Framework.Trace

/-!
# The gate of the authority database

`_reader_turn` and `_writer_turn` of `stage5/authority_service/persistence.py`, for any
number of threads on one `AuthorityDatabase`. A thread holds the lock of the condition
from where it enters or wakes up to its next `wait`, its body or its exception, so this
is one step. `late` says that no time is left where the loop looks; a `wait` can end
without a notification at any moment, and then the turn raises.
-/

namespace ATB.Stage5.AuthorityGate

inductive Role where
  | reader
  | writer
deriving DecidableEq

/-- Where a turn is: in `wait`, perhaps released by `notify_all`, in its body, or over. -/
inductive Phase where
  | waiting (released : Bool)
  | active
  | ended
deriving DecidableEq

structure Turn where
  role : Role
  phase : Phase
deriving DecidableEq

/-- `_active_readers`, `_waiting_writers` and `_writer_active`, and the turns so far. -/
structure Gate where
  activeReaders : Int
  waitingWriters : Int
  writerActive : Bool
  turns : List Turn
deriving DecidableEq

/-- What a thread does with the lock; a turn is named by its place among the turns. -/
inductive Label where
  | enter (role : Role) (late : Bool)
  | wake (i : Nat) (late : Bool)
  | timeOut (i : Nat)
  | leave (i : Nat)
deriving DecidableEq

namespace Gate

/-- `__init__`. -/
def initial : Gate := ⟨0, 0, false, []⟩

/-- The condition of the loop of a turn. -/
def mustWait (g : Gate) : Role → Bool
  | .reader => g.writerActive || decide (g.waitingWriters ≠ 0)
  | .writer => g.writerActive || decide (g.activeReaders ≠ 0)

/-- What precedes the loop. -/
def announce (g : Gate) : Role → Gate
  | .reader => g
  | .writer => { g with waitingWriters := g.waitingWriters + 1 }

/-- Where the loop raises. -/
def giveUp (g : Gate) : Role → Gate
  | .reader => g
  | .writer => { g with waitingWriters := g.waitingWriters - 1 }

/-- What follows the loop. -/
def activate (g : Gate) : Role → Gate
  | .reader => { g with activeReaders := g.activeReaders + 1 }
  | .writer => { g with writerActive := true, waitingWriters := g.waitingWriters - 1 }

/-- The loop, up to the next `wait`, the body or the exception. -/
def attempt (g : Gate) (role : Role) (late : Bool) : Gate × Phase :=
  if g.mustWait role = true then
    if late = true then (g.giveUp role, .ended) else (g, .waiting false)
  else (g.activate role, .active)

/-- A turn after `notify_all`. -/
def notified (t : Turn) : Turn :=
  match t.phase with
  | .waiting _ => { t with phase := .waiting true }
  | _ => t

/-- The `finally` of a turn whose body has ended. -/
def release (g : Gate) : Role → Gate
  | .reader => { g with activeReaders := g.activeReaders - 1, turns := g.turns.map notified }
  | .writer => { g with writerActive := false, turns := g.turns.map notified }

def setPhase (g : Gate) (i : Nat) (phase : Phase) : Gate :=
  { g with turns := g.turns.modify i fun t => { t with phase := phase } }

/-- The gate after a step. -/
def step (g : Gate) : Label → Option Gate
  | .enter role late =>
    let (g, phase) := (g.announce role).attempt role late
    some { g with turns := g.turns ++ [⟨role, phase⟩] }
  | .wake i late =>
    match g.turns[i]? with
    | some ⟨role, .waiting true⟩ =>
      let (g, phase) := g.attempt role late
      some (g.setPhase i phase)
    | _ => none
  | .timeOut i =>
    match g.turns[i]? with
    | some ⟨role, .waiting _⟩ => some ((g.giveUp role).setPhase i .ended)
    | _ => none
  | .leave i =>
    match g.turns[i]? with
    | some ⟨role, .active⟩ => some ((g.setPhase i .ended).release role)
    | _ => none

end Gate

end ATB.Stage5.AuthorityGate
