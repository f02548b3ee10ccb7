import Readiness.Facility
import Readiness.Lock
import Readiness.Roster.Basic

/-! # Watch sets

A watch set keeps the descriptors a program waits for.  Descriptors are added and removed, and
polling waits until some of them are ready and reports them as events.

* **State.**  The facility with its host, the rings of records under one lock, the buffer for
  native events under another, the capacity, and whether the set was destroyed.
* **Questions** about the records take the lock on the rings; the others take no lock.
* **Calls in progress.**  `add`, `remove` and `poll` are `Progress` values, in which the other
  calls of the set run while the facility works (`WatchSet.within`). -/

namespace Readiness

/-- A set of watched descriptors on a facility. -/
structure WatchSet (β : Type) where
  host : Host β
  roster : Lock Roster
  buffer : Lock NativeBuffer
  capacity : Nat
  destroyed : Bool := false
deriving DecidableEq, Repr

namespace WatchSet

variable {β ρ γ : Type}

/-- The set was created thread safe. -/
def isThreadSafe (s : WatchSet β) : Bool := s.roster.threadSafe

/-- Write a line to the log. -/
def note (s : WatchSet β) (entry : LogEntry) : WatchSet β := { s with host := s.host.note entry }

/-- Leave rings in the lock and give it free. -/
def releaseRoster (s : WatchSet β) (roster : Roster) : WatchSet β :=
  { s with roster := s.roster.release roster }

/-- Make a call on the host inside which others may run, and go on with `k`. -/
def within (call : Host β → Progress (Host β) ρ × Host β) (k : ρ → WatchSet β → γ × WatchSet β)
    (s : WatchSet β) : Progress (WatchSet β) γ × WatchSet β :=
  Progress.within (·.host) (fun host s => { s with host }) call k s

/-! ### Questions -/

/-- The sizes of the rings. -/
def stats (s : WatchSet β) : Except Halt RosterSizes := s.roster.read.map Roster.stats

/-- The number of descriptors that are added. -/
def len (s : WatchSet β) : Except Halt Nat := s.roster.read.map (·.active.len)

/-- No descriptor is added. -/
def isEmpty (s : WatchSet β) : Except Halt Bool := s.len.map (· == 0)

/-- How a set is shown. -/
def text [Facility β] (s : WatchSet β) : String :=
  s!"Pollset \x7b backend: {Facility.text s.host.facility}, capacity: {s.capacity}, " ++
    s!"thread_safe: {s.isThreadSafe}, destroyed: {s.destroyed} \x7d"

end WatchSet

end Readiness
