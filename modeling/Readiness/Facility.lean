import Readiness.Kernel.Basic
import Readiness.Log
import Readiness.NativeBuffer
import Readiness.Progress

/-! # Facilities

What a watch set waits with: descriptors are watched with a tag, and waiting fills a buffer with
the tags of those that are ready.

* **Host.**  A facility acts on its own state, on the kernel, and on the log; the three together
  are its `Host`.
* **Calls** (`Facility`).  `watch` and `unwatch` change the registrations, `wait` fills the
  buffer it is given and returns it, `close` gives the native handle back.  Others may run
  inside a call, so the first three are calls in progress.
* **Disposal.**  `dispose` is what becomes of a facility at the end of its life.  It returns
  no error; an error on the way is only written to the log. -/

namespace Readiness

/-- A facility's own state with the kernel and the log. -/
structure Host (β : Type) where
  facility : β
  kernel : Kernel
  log : Array LogEntry := #[]
deriving DecidableEq, Repr

namespace Host

variable {β ρ γ : Type}

/-- Write a line to the log. -/
def note (h : Host β) (entry : LogEntry) : Host β := { h with log := h.log.push entry }

/-- Write a call down. -/
def record (h : Host β) (call : SystemCall) : Host β := { h with kernel := h.kernel.record call }

/-- Make a system call. -/
def system (call : Kernel → ρ × Kernel) (h : Host β) : ρ × Host β :=
  let (r, kernel) := call h.kernel
  (r, { h with kernel })

/-- Make a system call inside which others may run, and go on with `k`. -/
def systemWithin (call : Kernel → Progress Kernel ρ × Kernel) (k : ρ → Host β → γ × Host β)
    (h : Host β) : Progress (Host β) γ × Host β :=
  Progress.within (·.kernel) (fun kernel h => { h with kernel }) call k h

/-- Do `act` if the next verdict for the call lets it pass. -/
def obey (name : CallName) (act : Host β → Outcome SystemError ρ × Host β) (h : Host β) :
    Outcome SystemError ρ × Host β :=
  match h.kernel.nextVerdict name with
  | (.pass, kernel) => act { h with kernel }
  | (.fail code _, kernel) => (.failed (.os code.toInt32), { h with kernel })
  | (.giveUp, kernel) => (.halted .scripted, { h with kernel })

end Host

/-- A facility as a watch set uses it. -/
class Facility (β : Type) where
  /-- Watch a descriptor, to be reported with the tag. -/
  watch : Int32 → Interests → Tag → Host β → Progress (Host β) (Outcome SystemError Unit) × Host β
  /-- Stop watching a descriptor for some interests. -/
  unwatch : Int32 → Interests → Host β → Progress (Host β) (Outcome SystemError Unit) × Host β
  /-- Wait for events, which replace what the buffer held. -/
  wait : NativeBuffer → Option Duration → Host β →
    Progress (Host β) (Outcome SystemError Unit × NativeBuffer) × Host β
  /-- Give the native handle back; only the first call does anything. -/
  close : Host β → Outcome SystemError Unit × Host β
  /-- End the facility's life. -/
  dispose : Host β → Outcome SystemError Unit × Host β
  /-- How a facility is shown. -/
  text : β → String

/-- The room of a buffer as system calls take it. -/
def room (capacity : Nat) : Int32 := Int32.ofNat (min capacity 2147483647)

end Readiness
