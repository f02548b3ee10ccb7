import Readiness.Error

/-! # Locks

A value that one holder at a time may use.

* **Thread safe.**  Whoever needs a held lock waits for its holder.  In a single run of calls
  the holder is waiting for the caller in turn, so such a call ends in `Halt.deadlock`.
* **Not thread safe.**  The callers promised to be alone.  A held lock shows that the promise
  was broken, and the call is given up with `Halt.concurrentUse` before it changes anything.
* **Recovery.**  A holder that gives up leaves the lock free and the value as it is. -/

namespace Readiness

/-- A guarded value. -/
structure Lock (α : Type) where
  value : α
  threadSafe : Bool
  held : Bool := false
deriving DecidableEq, Repr

namespace Lock

variable {α : Type}

/-- Take the lock, if it is free. -/
def acquire (l : Lock α) : Except Halt (Lock α) :=
  if l.held then .error (if l.threadSafe then .deadlock else .concurrentUse)
  else .ok { l with held := true }

/-- Leave `value` in the lock and give it free. -/
def release (l : Lock α) (value : α) : Lock α := { l with value := value, held := false }

/-- Read the value under the lock. -/
def read (l : Lock α) : Except Halt α := l.acquire.map (·.value)

theorem acquire_eq_ok_iff {l m : Lock α} :
    l.acquire = .ok m ↔ l.held = false ∧ m = { l with held := true } := by
  unfold acquire
  cases hl : l.held
  · simp only [Bool.false_eq_true, if_false, Except.ok.injEq, true_and]
    exact eq_comm
  · simp

@[simp] theorem held_release (l : Lock α) (value : α) : (l.release value).held = false := rfl

@[simp] theorem value_release (l : Lock α) (value : α) : (l.release value).value = value := rfl

end Lock

end Readiness
