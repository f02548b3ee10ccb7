import Readiness.Event

/-! # Rings of records

A ring is a doubly linked list threaded through an arena of records.

* **Arena.**  An array of `Record`s that only grows.  Each record has one pair of links, so it
  can be in one ring at a time.
* **Links.**  A link is the index of a record or the mark `noLink`, which is the index
  `Tag.maxRecords` that no record has.
* **Ring.**  The two ends and the number of records between them (`Ring`).  Records enter at
  the tail (`Ring.push`) and leave at the head (`Ring.pop?`) or from the middle
  (`Ring.erase`); a whole ring is spliced behind another one by `Ring.append`.
* **Views.**  `Ring.forward` follows the links from the head and `Ring.backward` those from the
  tail.  A ring holds a record at most once, so the size of the arena bounds both walks. -/

namespace Readiness

/-- The mark of a missing record in a link. -/
def noLink : UInt32 := 4294967295

/-- What is kept for one added descriptor. -/
structure Record where
  descriptor : Descriptor
  interests : Interests
  id : EventId
  /-- The readiness last reported. -/
  readiness : Conditions := .empty
  /-- How often the record was used again. -/
  generation : UInt32 := 0
  prev : UInt32 := noLink
  next : UInt32 := noLink
deriving DecidableEq, Repr

/-- A record used again, for a new descriptor and in its next generation.  The generation wraps
around at the end of its word. -/
def Record.reuse (r : Record) (d : Descriptor) (i : Interests) (id : EventId) : Record :=
  { r with
    descriptor := d, interests := i, id := id, readiness := .empty
    generation := (r.generation + 1) &&& Tag.generationMask }

/-- All records, by index. -/
abbrev Arena := Array Record

namespace Arena

/-- The generation of the record at an index. -/
def generation (records : Arena) (i : UInt32) : UInt32 :=
  match records[i.toNat]? with
  | none => 0
  | some r => r.generation

/-- Point the forward link of a record elsewhere. -/
def setNext (records : Arena) (i next : UInt32) : Arena :=
  records.modify i.toNat fun r => { r with next }

/-- Point the backward link of a record elsewhere. -/
def setPrev (records : Arena) (i prev : UInt32) : Arena :=
  records.modify i.toNat fun r => { r with prev }

/-- Point both links of a record elsewhere. -/
def setLinks (records : Arena) (i prev next : UInt32) : Arena :=
  records.modify i.toNat fun r => { r with prev, next }

/-- The records met from `i` on by following `link`, at most `fuel` of them. -/
def walk (records : Arena) (link : Record → UInt32) : Nat → UInt32 → List UInt32
  | 0, _ => []
  | fuel + 1, i =>
    if i = noLink then []
    else match records[i.toNat]? with
      | none => []
      | some r => i :: walk records link fuel (link r)

end Arena

/-- The ends of a linked list of records and the number of records in it. -/
structure Ring where
  head : UInt32 := noLink
  tail : UInt32 := noLink
  len : Nat := 0
deriving DecidableEq, Repr

namespace Ring

/-- The records from head to tail. -/
def forward (ring : Ring) (records : Arena) : List UInt32 :=
  records.walk (·.next) records.size ring.head

/-- The records from tail to head. -/
def backward (ring : Ring) (records : Arena) : List UInt32 :=
  records.walk (·.prev) records.size ring.tail

/-- Add a record that is in no ring at the tail. -/
def push (ring : Ring) (records : Arena) (i : UInt32) : Ring × Arena :=
  let records := records.setLinks i ring.tail noLink
  if ring.tail = noLink then
    ({ head := i, tail := i, len := ring.len + 1 }, records)
  else
    ({ ring with tail := i, len := ring.len + 1 }, records.setNext ring.tail i)

/-- Take a record of the ring out of it, wherever it stands. -/
def erase (ring : Ring) (records : Arena) (i : UInt32) : Ring × Arena :=
  match records[i.toNat]? with
  | none => (ring, records)
  | some r =>
    let (head, records) :=
      if r.prev = noLink then (r.next, records) else (ring.head, records.setNext r.prev r.next)
    let (tail, records) :=
      if r.next = noLink then (r.prev, records) else (ring.tail, records.setPrev r.next r.prev)
    ({ head, tail, len := ring.len - 1 }, records.setLinks i noLink noLink)

/-- Take the record at the head out of the ring. -/
def pop? (ring : Ring) (records : Arena) : Option (UInt32 × Ring × Arena) :=
  if ring.head = noLink then none
  else some (ring.head, ring.erase records ring.head)

/-- Put all records of `other` behind those of `ring`; `other` is empty afterwards. -/
def append (ring other : Ring) (records : Arena) : Ring × Arena :=
  if other.head = noLink then (ring, records)
  else if ring.tail = noLink then
    ({ head := other.head, tail := other.tail, len := ring.len + other.len }, records)
  else
    ({ head := ring.head, tail := other.tail, len := ring.len + other.len },
      (records.setNext ring.tail other.head).setPrev other.head ring.tail)

end Ring

end Readiness
