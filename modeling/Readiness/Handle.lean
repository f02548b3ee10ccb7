import Readiness.Kernel.Basic

/-! # Native handles

A facility in the kernel is used through a handle.

* **Closing once.**  `Handle.close` closes a handle and puts `Handle.closed` in its place,
  whatever the system call says: after a failed close it is unknown whether the handle is still
  open, so it is never closed again.  Closing `Handle.closed` does nothing.
* **After closing.**  Calls on `Handle.closed` fail, because no open handle has its number. -/

namespace Readiness

/-- The handle of a facility. -/
structure Handle where
  fd : Int32
deriving DecidableEq, Repr

namespace Handle

/-- What is left of a handle that was closed. -/
def closed : Handle := ⟨-1⟩

/-- Close a handle unless that was done before. -/
def close (handle : Handle) (k : Kernel) : Outcome SystemError Unit × Handle × Kernel :=
  if handle = closed then (.done (), handle, k)
  else
    let (outcome, k) := k.closeHandle handle.fd
    (outcome, closed, k)

end Handle

end Readiness
