import AutomatedTradingBot.Framework.Trace
import Mathlib.Logic.Function.Basic

/-!
# The G00 admission controller

`G00AdmissionController` of `stage5/commit_boundary/preconnected_pool.py`, used by
any number of threads. A step is what a thread does under the state lock, or its
taking or leaving the serialization lock; `Call` says where each thread stands.
`admit` is `verify`, which keeps no cut-over state, followed by `admit_verified`.
-/

namespace ATB.G00

inductive AdmissionError where
  | valueError (message : String)
  | g00AdmissionRejected (message : String)
deriving DecidableEq

/-- Where a thread stands in its call. -/
inductive Call where
  | idle
  /-- `publish_restriction`, before the serialization lock. -/
  | publishing (cutover : Int)
  /-- `publish_restriction`, with the serialization lock. -/
  | cutting (cutover : Int)
  /-- `admit_verified`, before the serialization lock. -/
  | admitting (ticket : Int)
  /-- `admit_verified`, with the serialization lock, before its check. -/
  | checking (ticket : Int)
  /-- `admit_verified`, admitted and not yet acknowledged. -/
  | inFlight (ticket : Int)
deriving DecidableEq

structure Controller (ι : Type) where
  pendingCutover : Option Int
  effectiveCutover : Option Int
  /-- The thread that holds `_serialization_lock`. -/
  serializationLock : Option ι
  calls : ι → Call

/-- A cut-over that is asked for while another one stands. -/
def lower (cutover : Int) : Option Int → Option Int
  | none => some cutover
  | some standing => some (min standing cutover)

/-- The body of `check_cutover`, which `admit_verified` repeats. -/
def checkCutover (pending effective : Option Int) (ticket : Int) : Except AdmissionError Unit :=
  match ([pending, effective].filterMap id).min? with
  | none => .ok ()
  | some smallest =>
    if smallest ≤ ticket then .error (.g00AdmissionRejected "ticket conflicts with restrictive cutover")
    else .ok ()

namespace Controller

variable {ι : Type} [DecidableEq ι] (s : Controller ι)

def init : Controller ι := ⟨none, none, none, fun _ => .idle⟩

def requestRestriction (cutover : Int) : Except AdmissionError (Controller ι) :=
  if cutover < 0 then .error (.valueError "cutover sequence must be non-negative")
  else .ok { s with pendingCutover := lower cutover s.pendingCutover }

def setCall (t : ι) (call : Call) : Controller ι := { s with calls := Function.update s.calls t call }

/-- The thread takes the serialization lock. -/
def take (t : ι) (call : Call) : Controller ι := { s.setCall t call with serializationLock := some t }

/-- The thread leaves the serialization lock and its call. -/
def leave (t : ι) : Controller ι := { s.setCall t .idle with serializationLock := none }

/-- The body of `publish_restriction` under both locks. -/
def cutOver (cutover : Int) : Controller ι :=
  { s with
    effectiveCutover := lower cutover s.effectiveCutover
    pendingCutover := if s.pendingCutover = some cutover then none else s.pendingCutover }

end Controller

inductive Action where
  | requestRestriction (cutover : Int)
  /-- A call of `publish_restriction`, up to its request. -/
  | publishRestriction (cutover : Int)
  | admitVerified (ticket : Int)
  /-- Takes the serialization lock when it is free. -/
  | acquire
  | cutOver
  | check
  /-- The protected work is acknowledged, or raises. -/
  | complete
deriving DecidableEq

variable {ι : Type} [DecidableEq ι]

/-- One step of a thread. A request that raises changes nothing and is no step. -/
def step (s : Controller ι) (l : ι × Action) : Option (Controller ι) :=
  match l.2, s.calls l.1 with
  | .requestRestriction c, _ => (s.requestRestriction c).toOption
  | .publishRestriction c, .idle =>
    (s.requestRestriction c).toOption.map fun s => s.setCall l.1 (.publishing c)
  | .admitVerified k, .idle => some (s.setCall l.1 (.admitting k))
  | .acquire, .publishing c => if s.serializationLock = none then some (s.take l.1 (.cutting c)) else none
  | .acquire, .admitting k => if s.serializationLock = none then some (s.take l.1 (.checking k)) else none
  | .cutOver, .cutting c => some ((s.cutOver c).leave l.1)
  | .check, .checking k =>
    match checkCutover s.pendingCutover s.effectiveCutover k with
    | .ok _ => some (s.setCall l.1 (.inFlight k))
    | .error _ => some (s.leave l.1)
  | .complete, .inFlight _ => some (s.leave l.1)
  | _, _ => none

end ATB.G00
