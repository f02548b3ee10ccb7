import Readiness.Roster.Ring
import Readiness.SystemError

/-! # The three rings

Every descriptor that was ever added has a record, and every record is in one of three rings.

* **Active.**  The descriptor is added and watched by the facility.
* **Dead.**  The descriptor was removed, but a wait that began before the removal may still
  report the tag of the record.
* **Free.**  The record may be used for the next descriptor.

A record moves from active to dead with `Roster.retire`, and from dead to free with
`Roster.reclaim`, which gets a *marker*: the number of retirements that had happened when some
wait began (`Roster.retired`).  The dead ring is filled at its tail, so the records retired
before the marker was taken are the first `marker - reclaimed` ones in it.

`Roster.allocate` takes a record out of the free ring and gives it a new generation, or makes a
new record; until `Roster.activate` or `Roster.release` that record is in no ring. -/

namespace Readiness

/-- The sizes of the rings and of the arena. -/
structure RosterSizes where
  active : Nat
  dead : Nat
  free : Nat
  allocated : Nat
deriving DecidableEq, Repr

/-- How ring sizes are shown. -/
def RosterSizes.text (s : RosterSizes) : String :=
  s!"RingStats \x7b active: {s.active}, dead: {s.dead}, free: {s.free}, " ++
    s!"allocated: {s.allocated} \x7d"

/-- The arena and its rings. -/
structure Roster where
  records : Arena := #[]
  active : Ring := {}
  dead : Ring := {}
  free : Ring := {}
  /-- How many records were ever moved to the dead ring.  The counters are plain numbers; up to
  2⁶⁴ retirements they fit in words of 64 bits, and counting in words is the same. -/
  retired : Nat := 0
  /-- How many records were ever moved from the dead ring to the free ring. -/
  reclaimed : Nat := 0
deriving DecidableEq, Repr

namespace Roster

/-- Take the first free record, in its next generation, or a new one, and fill it.  There is
none when all records that a tag can name are in use. -/
def allocate (roster : Roster) (d : Descriptor) (i : Interests) (id : EventId) :
    Option (Tag × Roster) :=
  match roster.free.pop? roster.records with
  | some (index, free, records) =>
    let records := records.modify index.toNat (·.reuse d i id)
    some (Tag.pack index (Arena.generation records index), { roster with free, records })
  | none =>
    if Tag.maxRecords ≤ roster.records.size then none
    else
      let index := UInt32.ofNat roster.records.size
      let record : Record := { descriptor := d, interests := i, id := id }
      some (Tag.pack index 0, { roster with records := roster.records.push record })

/-- Put an allocated record at the tail of the active ring. -/
def activate (roster : Roster) (t : Tag) : Roster :=
  let (active, records) := roster.active.push roster.records t.index
  { roster with active, records }

/-- Put an allocated record that never became active at the tail of the free ring. -/
def release (roster : Roster) (t : Tag) : Roster :=
  let (free, records) := roster.free.push roster.records t.index
  { roster with free, records }

/-- The record at an index is for the same descriptor as `d`. -/
def isFor (roster : Roster) (d : Descriptor) (i : UInt32) : Bool :=
  match roster.records[i.toNat]? with
  | none => false
  | some r => r.descriptor.sameAs d

/-- The first active record for a descriptor. -/
def find? (roster : Roster) (d : Descriptor) : Option UInt32 :=
  (roster.active.forward roster.records).find? (roster.isFor d)

/-- The record at an index. -/
def record? (roster : Roster) (i : UInt32) : Option Record := roster.records[i.toNat]?

/-- The tag and the record for a descriptor to be added, or why it is refused before the facility
is asked: it is there already, or it would be one too many. -/
def accept (roster : Roster) (capacity : Nat) (d : Descriptor) (i : Interests) (id : EventId) :
    Except SystemError (Tag × Roster) :=
  if (roster.find? d).isSome then .error .alreadyExists
  else if capacity ≤ roster.active.len then .error .noSpace
  else
    match roster.allocate d i id with
    | none => .error .noSpace
    | some accepted => .ok accepted

/-- Move an active record to the tail of the dead ring. -/
def retire (roster : Roster) (i : UInt32) : Roster :=
  let (active, records) := roster.active.erase roster.records i
  let (dead, records) := roster.dead.push records i
  { roster with active, dead, records, retired := roster.retired + 1 }

/-- Move the record at the head of the dead ring to the tail of the free ring. -/
def reclaimOne (roster : Roster) : Roster :=
  match roster.dead.pop? roster.records with
  | none => roster
  | some (i, dead, records) =>
    let (free, records) := roster.free.push records i
    { roster with dead, free, records }

/-- Move `n` records from the head of the dead ring to the tail of the free ring, one by
one. -/
def reclaimEach : Nat → Roster → Roster
  | 0, roster => roster
  | n + 1, roster => reclaimEach n roster.reclaimOne

/-- Move all records of the dead ring to the tail of the free ring at once. -/
def reclaimAll (roster : Roster) : Roster :=
  let (free, records) := roster.free.append roster.dead roster.records
  { roster with free, dead := {}, records, reclaimed := roster.reclaimed + roster.dead.len }

/-- Move the records that were dead when `marker` retirements had happened to the free ring.
Those retired later stay in the dead ring. -/
def reclaim (roster : Roster) (marker : Nat) : Roster :=
  let eligible := marker - roster.reclaimed
  if eligible = 0 then roster
  else if roster.dead.len ≤ eligible then roster.reclaimAll
  else { reclaimEach eligible roster with reclaimed := roster.reclaimed + eligible }

/-- The record that a tag names, unless the record is of another generation by now. -/
def resolve? (roster : Roster) (t : Tag) : Option Record :=
  (roster.record? t.index).filter fun r => r.generation == t.generation

/-- Note the readiness last reported for the record of a tag. -/
def setReadiness (roster : Roster) (t : Tag) (readiness : Conditions) : Roster :=
  match roster.resolve? t with
  | none => roster
  | some _ =>
    { roster with records := roster.records.modify t.index.toNat fun r => { r with readiness } }

/-- The current sizes. -/
def stats (roster : Roster) : RosterSizes where
  active := roster.active.len
  dead := roster.dead.len
  free := roster.free.len
  allocated := roster.records.size

end Roster

end Readiness
