import Readiness.WatchSet.Basic

/-! # Adding and removing

Both operations hold the lock on the rings during the call of the facility.

* **Adding** a descriptor takes a record, hands its tag to the facility, and activates the
  record if the facility accepts.  If the facility refuses, the record is released again.  A
  descriptor that is there already, or one too many, is refused before the facility is called.
* **Removing** a descriptor unwatches it and retires its record whatever the facility says.
  Without a record both directions are unwatched. -/

namespace Readiness

namespace WatchSet

variable {β : Type} [Facility β]

/-- The end of adding: activate the record, or release it if the facility refused.  If the
facility gave up, the record stays outside the rings. -/
def finishAdd (d : Descriptor) (t : Tag) (outcome : Outcome SystemError Unit) (s : WatchSet β) :
    Outcome Error Unit × WatchSet β :=
  match outcome with
  | .done () => (.done (), s.releaseRoster (s.roster.value.activate t))
  | .failed cause =>
    let s := s.note (.rejected d cause)
    (.failed (.rejected cause), s.releaseRoster (s.roster.value.release t))
  | .halted cause => (.halted cause, s.releaseRoster s.roster.value)

/-- The start of adding: with the lock on the rings, take a record for the descriptor. -/
def beginAdd (d : Descriptor) (i : Interests) (id : EventId) (s : WatchSet β) :
    Except (Outcome Error Unit) (Tag × WatchSet β) :=
  match s.roster.acquire with
  | .error cause => .error (.halted cause)
  | .ok lock =>
    match lock.value.accept s.capacity d i id with
    | .error cause => .error (.failed (.rejected cause))
    | .ok (t, roster) => .ok (t, { s with roster := { lock with value := roster } })

/-- Add a descriptor, to be reported with an identifier. -/
def add (d : Descriptor) (i : Interests) (id : EventId) (s : WatchSet β) :
    Progress (WatchSet β) (Outcome Error Unit) × WatchSet β :=
  let s := s.note (.adding d i id)
  match s.beginAdd d i id with
  | .error outcome => (.returned outcome, s)
  | .ok (t, s) => s.within (Facility.watch d.fd i t) (finishAdd d t)

/-! ### Removing -/

/-- The end of removing: retire the record, if there was one. -/
def finishRemove (d : Descriptor) (found : Option UInt32) (outcome : Outcome SystemError Unit)
    (s : WatchSet β) : Outcome Error Bool × WatchSet β :=
  let s := match outcome with
    | .failed cause => (s.note (.unwatchFailed d cause)).note (.notUnwatched d .unknownDescriptor)
    | _ => s
  match outcome, found with
  | .halted cause, _ => (.halted cause, s.releaseRoster s.roster.value)
  | _, some index => (.done true, s.releaseRoster (s.roster.value.retire index))
  | _, none => (.done false, s.releaseRoster s.roster.value)

/-- The interests to unwatch: those of the record, or without a record both. -/
def interestsOf (roster : Roster) (found : Option UInt32) : Interests :=
  match found.bind roster.record? with
  | none => .both
  | some r => r.interests

/-- The start of removing: with the lock on the rings, find the record of the descriptor and the
interests to unwatch. -/
def beginRemove (d : Descriptor) (s : WatchSet β) :
    Except Halt ((Option UInt32 × Interests) × WatchSet β) :=
  match s.roster.acquire with
  | .error cause => .error cause
  | .ok lock =>
    let found := lock.value.find? d
    .ok ((found, interestsOf lock.value found), { s with roster := lock })

/-- Remove a descriptor, and say whether it was there. -/
def remove (d : Descriptor) (s : WatchSet β) :
    Progress (WatchSet β) (Outcome Error Bool) × WatchSet β :=
  let s := s.note (.removing d)
  match s.beginRemove d with
  | .error cause => (.returned (.halted cause), s)
  | .ok ((found, i), s) => s.within (Facility.unwatch d.fd i) (finishRemove d found)

end WatchSet

end Readiness
