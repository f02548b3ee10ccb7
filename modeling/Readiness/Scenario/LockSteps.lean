import Readiness.Lock

/-! # Scenarios of a lock

Steps on a lock around a 64-bit integer.  `hold` keeps the lock for later steps until
`release`.  Meanwhile all steps but `release` find it held. -/

namespace Readiness

/-- A step of a scenario. -/
inductive LockStep where
  | get
  | set (value : Int64)
  | hold
  | release
  /-- Take the lock, add one, and give up while holding it. -/
  | poison
  /-- A step that could not be read; nothing is done.  If it carries a name, it blocks like every
  step but `release`. -/
  | malformed (named : Bool)
deriving DecidableEq, Repr

/-- What a step answers. -/
inductive LockReply where
  | malformed
  | nothing
  | value (n : Int64)
  | flag (b : Bool)
  | halted (cause : Halt)
deriving DecidableEq, Repr

namespace LockStep

/-- Do something under the lock, if it is free. -/
def guarded (l : Lock Int64) (act : Lock Int64 → LockReply × Lock Int64) :
    LockReply × Lock Int64 :=
  match l.acquire with
  | .error cause => (.halted cause, l)
  | .ok l => act l

/-- Take a step. -/
def run (step : LockStep) (l : Lock Int64) : LockReply × Lock Int64 :=
  match step with
  | get => guarded l fun l => (.value l.value, l.release l.value)
  | set value => guarded l fun l => (.nothing, l.release value)
  | hold => guarded l fun l => (.value l.value, l)
  | release => (.flag l.held, l.release l.value)
  | poison => guarded l fun l => (.halted .poisoned, l.release (l.value + 1))
  | malformed named =>
    if named && l.threadSafe && l.held then (.halted .deadlock, l) else (.malformed, l)

/-- Take steps one after the other. -/
def play : List LockStep → Lock Int64 → List LockReply
  | [], _ => []
  | step :: rest, l =>
    let (reply, l) := step.run l
    reply :: play rest l

end LockStep

end Readiness
