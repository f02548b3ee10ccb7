import Readiness.Facility

/-! # A facility that does as it is told

It has no kernel, and serves to try out what a watch set makes of any behaviour of a facility,
also of a wrong one.

* **Others run inside** every call except `close`, before the call's verdict is taken.
* **Pending events** are queued by hand, with any tag, and handed out in order, at most as many
  as the buffer has room for.
* **Faults** of the next successful wait: it may ignore the room (`overfull`), claim a wrong
  length (`claimed`), or leave an entry out (`hole`). -/

namespace Readiness

/-- The facility's state. -/
structure Scripted where
  watched : List (Int32 × Tag) := []
  pending : List NativeEvent := []
  closed : Bool := false
  /-- The next successful wait ignores the room of its buffer. -/
  overfull : Bool := false
  /-- The length that the buffer of the next successful wait claims. -/
  claimed : Option Nat := none
  /-- The entry that is missing from the buffer of the next successful wait. -/
  hole : Option Nat := none
deriving DecidableEq, Repr

namespace Scripted

/-- A descriptor is watched. -/
def has (b : Scripted) (fd : Int32) : Bool := b.watched.any (·.1 == fd)

/-- Write a call down and, unless the facility is closed, let others run and then take the verdict
for the call. -/
def enter {ρ : Type} (call : SystemCall) (name : CallName)
    (act : Host Scripted → Outcome SystemError ρ × Host Scripted) (h : Host Scripted) :
    Progress (Host Scripted) (Outcome SystemError ρ) × Host Scripted :=
  let h := h.record call
  if h.facility.closed then (.returned (.failed .badDescriptor), h)
  else (.inside (Host.obey name act), h)

/-- Watch a descriptor that is not watched yet. -/
def watch (fd : Int32) (i : Interests) (t : Tag) :
    Host Scripted → Progress (Host Scripted) (Outcome SystemError Unit) × Host Scripted :=
  enter (.watch fd i t) .watch fun h =>
    if h.facility.has fd then (.failed .alreadyExists, h)
    else (.done (), { h with facility.watched := h.facility.watched ++ [(fd, t)] })

/-- Stop watching a descriptor. -/
def unwatch (fd : Int32) (i : Interests) :
    Host Scripted → Progress (Host Scripted) (Outcome SystemError Unit) × Host Scripted :=
  enter (.unwatch fd i) .unwatch fun h =>
    if h.facility.has fd then
      (.done (), { h with facility.watched := h.facility.watched.filter (·.1 ≠ fd) })
    else (.failed .noEntry, h)

/-- The buffer that hands out pending events, with the faults that are due. -/
def deliver (b : Scripted) (buffer : NativeBuffer) : NativeBuffer × Scripted :=
  let taken := if b.overfull then b.pending.length else buffer.capacity
  let buffer := buffer.extend (b.pending.take taken)
  let entries := match b.hole with
    | none => buffer.entries
    | some i => buffer.entries.set i none
  ({ buffer with entries, len := b.claimed.getD buffer.len },
    { b with pending := b.pending.drop taken, overfull := false, claimed := none, hole := none })

/-- Give the emptied buffer back if a wait did not succeed. -/
def settle (b : NativeBuffer) (outcome : Outcome SystemError NativeBuffer) :
    Outcome SystemError Unit × NativeBuffer :=
  match outcome with
  | .done filled => (.done (), filled)
  | .failed cause => (.failed cause, b)
  | .halted cause => (.halted cause, b)

/-- Hand out pending events. -/
def wait (b : NativeBuffer) (timeout : Option Duration) (h : Host Scripted) :
    Progress (Host Scripted) (Outcome SystemError Unit × NativeBuffer) × Host Scripted :=
  let b := b.clear
  Progress.andThen (fun outcome h => (settle b outcome, h)) <|
    h |> enter (.wait b.capacity timeout) .wait fun h =>
      let (filled, facility) := h.facility.deliver b
      (.done filled, { h with facility })

/-- Refuse all further calls. -/
def close (h : Host Scripted) : Outcome SystemError Unit × Host Scripted :=
  (h.record .close).obey .close fun h => (.done (), { h with facility.closed := true })

instance : Facility Scripted where
  watch := watch
  unwatch := unwatch
  wait := wait
  close := close
  dispose h := (.done (), h)
  text _ := "TestBackend"

/-! ### Instructions -/

/-- Queue an event. -/
def inject (e : NativeEvent) (b : Scripted) : Scripted := { b with pending := b.pending ++ [e] }

/-- The tag a descriptor is watched with. -/
def tag? (b : Scripted) (fd : Int32) : Option Tag := b.watched.lookup fd

end Scripted

end Readiness
