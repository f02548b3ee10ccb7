import Readiness.WatchSet.Basic

/-! # Creating and destroying

* **Creating** needs room for a descriptor.  Without it the facility is disposed of at once.
* **Destroying** closes the facility, once; an error is only written to the log.
* **Disposing** of a set destroys it, unless that was done before, and then disposes of the
  facility, even if destroying was given up. -/

namespace Readiness

namespace WatchSet

variable {β : Type} [Facility β]

/-! ### Creating -/

/-- The set on a host that has the facility ready. -/
def ofHost (host : Host β) (capacity : Nat) (threadSafe : Bool) : WatchSet β where
  host := host
  roster := { value := {}, threadSafe }
  buffer := { value := { capacity }, threadSafe }
  capacity := capacity

/-- A set on a facility, or without room for a descriptor none, and the facility is disposed
of. -/
def create (host : Host β) (capacity : Nat) (threadSafe : Bool) :
    Outcome Error (WatchSet β) × Host β :=
  if capacity = 0 then
    let (_, host) := Facility.dispose host
    (.halted .zeroCapacity, host)
  else
    let host := host.note (.creating capacity threadSafe)
    (.done (ofHost host capacity threadSafe), host)

/-! ### Destroying -/

/-- Give the native facility back; only the first call does anything. -/
def destroy (s : WatchSet β) : Outcome Error Unit × WatchSet β :=
  if s.destroyed then (.done (), s)
  else
    let s := { s with destroyed := true }.note .destroying
    match Facility.close s.host with
    | (.done (), host) => (.done (), { s with host })
    | (.failed cause, host) => (.done (), { s with host }.note (.closeFailed cause))
    | (.halted cause, host) => (.halted cause, { s with host })

/-- End the life of a set: destroy it, and then dispose of the facility in any case. -/
def dispose (s : WatchSet β) : Outcome Error Unit × Host β :=
  let (outcome, s) := s.destroy
  let (disposed, host) := Facility.dispose s.host
  match outcome, disposed with
  | .done (), .halted cause => (.halted cause, host)
  | _, _ => (outcome, host)

end WatchSet

end Readiness
