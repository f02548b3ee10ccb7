import Readiness.SystemError

/-! # Errors and outcomes

* **Errors** (`Error`) are what the operations of a watch set return when they do not succeed.
  Three of them wrap the error of the native facility.
* **Halts** (`Halt`) are no answers: the call is given up because a rule of use was broken,
  because the facility under it gave up, or because it could never return.
* **Outcomes** (`Outcome`) keep the three ways in which a call can end apart.  The state that a
  call leaves is not part of its outcome; calls that change a state return it next to the
  outcome, in all three cases. -/

namespace Readiness

/-- Why an operation of a watch set did not succeed. -/
inductive Error where
  /-- The native facility could not be opened. -/
  | unavailable (cause : SystemError)
  /-- Thread safety is not available on the host. -/
  | unsupported
  /-- The facility refused a registration; nothing was registered. -/
  | rejected (cause : SystemError)
  /-- The facility does not know the descriptor. -/
  | unknownDescriptor
  /-- Nothing became ready in time. -/
  | timedOut
  /-- Waiting failed. -/
  | waitFailed (cause : SystemError)
deriving DecidableEq, Repr

namespace Error

/-- The error of the system inside, if there is one. -/
def cause? : Error → Option SystemError
  | unavailable cause => some cause
  | rejected cause => some cause
  | waitFailed cause => some cause
  | unsupported => none
  | unknownDescriptor => none
  | timedOut => none

/-- The number of the system's error inside. -/
def code? (e : Error) : Option Int32 := e.cause?.bind SystemError.code?

/-- The error says that nothing became ready in time. -/
def isTimedOut : Error → Bool
  | timedOut => true
  | _ => false

/-- The text shown for an error. -/
def message : Error → String
  | unavailable cause => s!"unable to create pollset: {cause.message}"
  | unsupported => "thread safe pollsets are not supported on this host"
  | rejected cause => s!"backend rejected registration: {cause.message}"
  | unknownDescriptor => "descriptor not found"
  | timedOut => "timed out waiting for readiness"
  | waitFailed cause => s!"polling failed: {cause.message}"

end Error

/-- Why a call is given up without an answer. -/
inductive Halt where
  /-- A watch set was to be created without room for a descriptor. -/
  | zeroCapacity
  /-- A lock of a set that was not created thread safe was held when it was needed. -/
  | concurrentUse
  /-- The facility was told to give up. -/
  | scripted
  /-- The holder of a lock gave up. -/
  | poisoned
  /-- The call would wait for a lock whose holder waits for the call. -/
  | deadlock
deriving DecidableEq, Repr

/-- The text shown when a call is given up; a call that never returns shows nothing. -/
def Halt.message : Halt → String
  | zeroCapacity => "pollset capacity must be non-zero"
  | concurrentUse => "concurrent use of a pollset that was not created thread safe"
  | scripted => "scripted panic"
  | poisoned => "poison"
  | deadlock => ""

/-- How a call ends: with an answer, with an error, or not at all. -/
inductive Outcome (ε α : Type) where
  | done (value : α)
  | failed (error : ε)
  | halted (cause : Halt)
deriving DecidableEq, Repr

namespace Outcome

variable {ε δ α β : Type}

/-- Change the answer of a call that succeeded. -/
def map (f : α → β) : Outcome ε α → Outcome ε β
  | done value => done (f value)
  | failed error => failed error
  | halted cause => halted cause

/-- Change the error of a call that failed. -/
def mapError (f : ε → δ) : Outcome ε α → Outcome δ α
  | done value => done value
  | failed error => failed (f error)
  | halted cause => halted cause

@[simp] theorem map_done (f : α → β) (value : α) :
    (done value : Outcome ε α).map f = done (f value) := rfl

@[simp] theorem map_failed (f : α → β) (error : ε) :
    (failed error : Outcome ε α).map f = failed error := rfl

@[simp] theorem map_halted (f : α → β) (cause : Halt) :
    (halted cause : Outcome ε α).map f = halted cause := rfl

end Outcome

end Readiness
