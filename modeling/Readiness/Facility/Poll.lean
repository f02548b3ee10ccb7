import Readiness.Facility
import Readiness.Kernel.Poll

/-! # Waiting with `poll`

`poll` keeps no registrations, so the facility has a table of its own and shows it to each call.

* **Table.**  One entry for each watched descriptor, with the interests that remain and the tag.
  An entry disappears with its last interest; the last entry of the table takes its place.
* **Waker.**  Changing the table wakes a wait in progress.  `Poll.wakeups` counts the wake-ups
  that no wait has drained yet.
* **Arrays.**  A call gets an array of entries and writes a result into each.  The waker has the
  first entry; the tags of the others are in an array of their own (`Poll.Arrays`).
* **Rounds.**  A wait goes round after round (`Poll.round`): it fills the arrays from the table,
  makes the call, drains the waker, and collects the entries with results.  It goes round again
  when it was woken, found nothing and still has time, because the arrays may be out of date.
  Nobody else runs in the rounds after the first, so they are at most one more than the pending
  wake-ups (`Poll.settle`).
* **Time.**  Time stands still, so a deadline has passed only if the timeout was zero.
* **Closing.**  There is no handle.  A closed facility has an empty table and refuses all calls. -/

namespace Readiness

/-- An entry of the table. -/
structure PollEntry where
  fd : Int32
  interests : Conditions
  tag : Tag
deriving DecidableEq, Repr

/-- The facility's state. -/
structure Poll where
  table : List PollEntry := []
  wakeups : Nat := 0
  closed : Bool := false
deriving DecidableEq, Repr

namespace Poll

/-- The bits to ask for. -/
def requested (interests : Conditions) : UInt16 :=
  (if interests.contains .readable then inBit ||| priBit else 0)
    ||| (if interests.contains .writable then outBit else 0)

/-- Some bit of `mask` is set. -/
def hasBit (results mask : UInt16) : Bool := results &&& mask ≠ 0

/-- The readiness that results stand for. -/
def readiness (results : UInt16) : Conditions :=
  (if hasBit results (inBit ||| priBit) then .readable else .empty)
    ||| (if hasBit results outBit then .writable else .empty)
    ||| (if hasBit results (errBit ||| nvalBit) then .error else .empty)
    ||| (if hasBit results hupBit then .hup else .empty)

/-- Open the facility, which takes no call. -/
def create (k : Kernel) : Outcome SystemError Poll × Kernel := (.done {}, k)

/-! ### The table -/

/-- The place of a descriptor in the table. -/
def place? (table : List PollEntry) (fd : Int32) : Option Nat := table.findIdx? (·.fd == fd)

/-- Delete the entry at a place; the last entry takes its place. -/
def swapRemove (table : List PollEntry) (i : Nat) : List PollEntry :=
  match table.getLast? with
  | none => []
  | some last => (table.set i last).dropLast

/-- The table with an entry for a descriptor that had none. -/
def enlist (fd : Int32) (i : Interests) (t : Tag) (table : List PollEntry) :
    Except SystemError (List PollEntry) :=
  if (place? table fd).isSome then .error .alreadyExists
  else .ok (table ++ [⟨fd, .ofInterests i, t⟩])

/-- The table after taking interests from the entry at a place; the entry goes with its last
interest. -/
def lessen (table : List PollEntry) (n : Nat) (entry : PollEntry) (taken : Conditions) :
    List PollEntry :=
  let remaining := entry.interests.diff taken
  if remaining.isEmpty then swapRemove table n
  else table.set n { entry with interests := remaining }

/-- The entry of a descriptor and its place. -/
def entry? (table : List PollEntry) (fd : Int32) : Option (Nat × PollEntry) := do
  let n ← place? table fd
  let entry ← table[n]?
  some (n, entry)

/-- One more wake-up is pending. -/
def wake (p : Poll) : Poll := { p with wakeups := p.wakeups + 1 }

/-- The waker is readable: a wake-up is pending. -/
def woken (p : Poll) : Bool := p.wakeups != 0

/-- No wake-up is pending any more. -/
def drain (p : Poll) : Poll := { p with wakeups := 0 }

/-- Put a changed table in place and wake the wait in progress. -/
def changeTable (table : List PollEntry) (h : Host Poll) : Host Poll :=
  { h with facility := { h.facility with table }.wake }

/-- Watch a descriptor.  The call itself ignores invalid descriptors, so they are refused
here. -/
def watch (fd : Int32) (i : Interests) (t : Tag) (h : Host Poll) :
    Outcome SystemError Unit × Host Poll :=
  let (valid, h) := if fd < 0 then (.failed .badDescriptor, h) else h.system (·.getFlags fd)
  match valid with
  | .halted cause => (.halted cause, h)
  | .failed _ => (.failed .badDescriptor, h)
  | .done () =>
    if h.facility.closed then (.failed .badDescriptor, h)
    else
      match enlist fd i t h.facility.table with
      | .error cause => (.failed cause, h)
      | .ok table => (.done (), changeTable table h)

/-- Take interests from a descriptor.  All of them are taken, but it is an error if some were
not there. -/
def unwatch (fd : Int32) (i : Interests) (h : Host Poll) : Outcome SystemError Unit × Host Poll :=
  if h.facility.closed then (.failed .badDescriptor, h)
  else
    match entry? h.facility.table fd with
    | none => (.failed .noEntry, h)
    | some (n, entry) =>
      let taken := Conditions.ofInterests i
      let h := changeTable (lessen h.facility.table n entry taken) h
      if (taken.diff entry.interests).isEmpty then (.done (), h) else (.failed .noEntry, h)

/-! ### Waiting -/

/-- The timeout in milliseconds; without one it is negative. -/
def timeoutMillis : Option Duration → Int32
  | none => -1
  | some d => d.millis

/-- The time is up as soon as the call returns. -/
def expired : Option Duration → Bool
  | none => false
  | some d => d == .zero

/-- How a round of a wait ends. -/
inductive Round where
  | over (outcome : Outcome SystemError Unit)
  | again
deriving DecidableEq, Repr

/-- An entry of the array that a call gets.  The waker has no descriptor that could be watched. -/
structure PollSlot where
  fd : Option Int32
  events : UInt16
  result : UInt16 := 0
deriving DecidableEq, Repr

/-- What a wait prepares for a call: the array that the call gets, with the waker's entry first, and
the tags of the other entries. -/
structure Arrays where
  slots : List PollSlot
  tags : List Tag
deriving DecidableEq, Repr

namespace Arrays

/-- Only the waker is there. -/
def waker : Arrays := ⟨[{ fd := none, events := inBit }], []⟩

/-- One more entry of the table, with its tag. -/
def push (arrays : Arrays) (entry : PollEntry) : Arrays where
  slots := arrays.slots ++ [{ fd := some entry.fd, events := requested entry.interests }]
  tags := arrays.tags ++ [entry.tag]

/-- The waker and the whole table. -/
def ofTable (table : List PollEntry) : Arrays := table.foldl push waker

/-- What the call is asked for, apart from the waker. -/
def asked (arrays : Arrays) : List (Int32 × UInt16) :=
  arrays.slots.filterMap fun slot => slot.fd.map (·, slot.events)

/-- Write results into the entries, in order. -/
def write : List UInt16 → List PollSlot → List PollSlot
  | result :: results, slot :: slots => { slot with result } :: write results slots
  | _, slots => slots

/-- The call writes the result of the waker, and those of the other entries. -/
def answer (woken : Bool) (results : List UInt16) (arrays : Arrays) : Arrays :=
  { arrays with slots := write ((if woken then inBit else 0) :: results) arrays.slots }

/-- Whether the waker has a result, and at most `room` events of the other entries that have
one. -/
def collect (room : Nat) (arrays : Arrays) : Bool × List NativeEvent :=
  let (waker, slots) := arrays.slots.splitAt 1
  let found := ((slots.zip arrays.tags).filter fun pair => pair.1.result ≠ 0).take room
  (waker.any (·.result ≠ 0), found.map fun pair => ⟨pair.2, readiness pair.1.result⟩)

end Arrays

/-- A round is not the last one: it was woken, found nothing, and there is time left. -/
def goesOn (woken : Bool) (b : NativeBuffer) (timeout : Option Duration) : Bool :=
  woken && b.isEmpty && !expired timeout

/-- The end of a round, after the call: drain the waker if it has a result, and collect what was
found. -/
def finish (arrays : Arrays) (b : NativeBuffer) (timeout : Option Duration)
    (outcome : Outcome SystemError (List UInt16)) (h : Host Poll) :
    (Round × NativeBuffer) × Host Poll :=
  match outcome with
  | .halted cause => ((.over (.halted cause), b), h)
  | .failed cause => ((.over (.failed cause), b), h)
  | .done results =>
    let (woken, events) := (arrays.answer h.facility.woken results).collect b.capacity
    let b := b.extend events
    (((if goesOn woken b timeout then .again else .over (.done ())), b),
      if woken then { h with facility := h.facility.drain } else h)

/-- One round of a wait; others may run inside the call. -/
def round (b : NativeBuffer) (timeout : Option Duration) (h : Host Poll) :
    Progress (Host Poll) (Round × NativeBuffer) × Host Poll :=
  let b := b.clear
  if h.facility.closed then (.returned (.over (.failed .badDescriptor), b), h)
  else
    let arrays := Arrays.ofTable h.facility.table
    h.systemWithin (Kernel.poll arrays.asked (timeoutMillis timeout)) (finish arrays b timeout)

/-- Rounds in which nobody else runs, at most `fuel` of them.  A round that is not the last one
has drained a wake-up, and no new ones come, so the pending wake-ups and one more are enough. -/
def settle (timeout : Option Duration) :
    Nat → NativeBuffer → Host Poll → (Outcome SystemError Unit × NativeBuffer) × Host Poll
  | 0, b, h => ((.done (), b), h)
  | fuel + 1, b, h =>
    match Progress.alone (round b timeout h) with
    | ((.over outcome, b), h) => ((outcome, b), h)
    | ((.again, b), h) => settle timeout fuel b h

/-- What follows a round: nothing, or the rounds after it. -/
def next (timeout : Option Duration) (result : Round × NativeBuffer) (h : Host Poll) :
    (Outcome SystemError Unit × NativeBuffer) × Host Poll :=
  match result with
  | (.over outcome, b) => ((outcome, b), h)
  | (.again, b) => settle timeout (h.facility.wakeups + 1) b h

/-- Wait for events: a round in which others may run, and the rounds after it. -/
def wait (b : NativeBuffer) (timeout : Option Duration) (h : Host Poll) :
    Progress (Host Poll) (Outcome SystemError Unit × NativeBuffer) × Host Poll :=
  Progress.andThen (next timeout) (round b timeout h)

/-! ### Closing -/

/-- Empty the table and refuse all further calls. -/
def close (h : Host Poll) : Outcome SystemError Unit × Host Poll :=
  if h.facility.closed then (.done (), h)
  else (.done (), { h with facility := { h.facility with table := [], closed := true } })

instance : Facility Poll where
  watch fd i t := Progress.atOnce (watch fd i t)
  unwatch fd i := Progress.atOnce (unwatch fd i)
  wait := wait
  close := close
  dispose h := (.done (), h)
  text _ := "Poll"

end Poll

end Readiness
