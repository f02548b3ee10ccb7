import Readiness.WatchSet.Basic

/-! # Polling

* **Waiting.**  A poll holds the lock on the buffer during its wait, but not the one on the
  rings, so descriptors come and go meanwhile.
* **Reclaiming.**  Before the wait it notes how many records were ever retired; after it,
  whatever the outcome, the records that were dead at that moment become free
  (`Roster.reclaim`).
* **Reporting.**  Of the native events, those whose tag resolves are masked by the interests of
  their record and reported unless nothing remains (`Roster.event?`).  The others are
  dropped. -/

namespace Readiness

namespace Roster

/-- The readiness to report for a native event: that of its record's interests, and errors and
hang-ups. -/
def reportable (r : Record) (e : NativeEvent) : Conditions := e.readiness.mask r.interests

/-- The event to report for a native event, if its tag resolves and anything is left to
report. -/
def event? (roster : Roster) (e : NativeEvent) : Option Event :=
  match roster.resolve? e.tag with
  | none => none
  | some r =>
    if (reportable r e).isEmpty then none else some ⟨r.descriptor, r.id, reportable r e⟩

/-- A native event whose tag no longer names a record. -/
def isStale (roster : Roster) (e : NativeEvent) : Bool := (roster.resolve? e.tag).isNone

/-- Keep the readiness of a native event with its record. -/
def noteReadiness (roster : Roster) (e : NativeEvent) : Roster :=
  match roster.resolve? e.tag with
  | none => roster
  | some r => roster.setReadiness e.tag (reportable r e)

end Roster

namespace WatchSet

variable {β : Type} [Facility β]

/-- The answer of a poll whose wait returned: what was reported, if anything was. -/
def answer (roster : Roster) (b : NativeBuffer) (outcome : Outcome SystemError Unit) :
    Outcome Error Unit × List Event :=
  match outcome with
  | .halted cause => (.halted cause, [])
  | .failed cause => (.failed (.waitFailed cause), [])
  | .done () =>
    if b.isEmpty then (.failed .timedOut, []) else (.done (), b.reported.filterMap roster.event?)

/-- The native events that a poll whose wait returned looks at. -/
def considered (b : NativeBuffer) (outcome : Outcome SystemError Unit) : List NativeEvent :=
  match outcome with
  | .done () => b.reported
  | _ => []

/-- The end of polling: report the events behind those in `events`, and free the records that
were dead when `marker` records had been retired. -/
def finishPoll (marker : Nat) (events : List Event)
    (result : Outcome SystemError Unit × NativeBuffer) (s : WatchSet β) :
    (Outcome Error Nat × List Event) × WatchSet β :=
  let (outcome, b) := result
  let s := { s with buffer := s.buffer.release b }
  match outcome, s.roster.acquire with
  | .halted cause, _ => ((.halted cause, events), s)
  | _, .error cause => ((.halted cause, events), s)
  | _, .ok lock =>
    let roster := lock.value
    let (outcome', reported) := answer roster b outcome
    let seen := considered b outcome
    let stale := seen.filter roster.isStale
    let s := stale.foldl (fun s e => s.note (.staleTag e.tag)) s
    let events := events ++ reported
    ((outcome'.map fun () => events.length, events),
      s.releaseRoster ((seen.foldl Roster.noteReadiness roster).reclaim marker))

/-- The caller's buffer at the start of a poll: whatever it held is gone. -/
def cleared (_ : List Event) : List Event := []

/-- The start of polling: take the lock on the buffer, and note how many records were ever
retired. -/
def beginPoll (s : WatchSet β) : Except Halt (Nat × WatchSet β) :=
  match s.buffer.acquire with
  | .error cause => .error cause
  | .ok buffer =>
    match s.roster.read with
    | .error cause => .error cause
    | .ok roster => .ok (roster.retired, { s with buffer })

/-- Wait for events, put them into the caller's buffer, and return their number. -/
def poll (events : List Event) (timeout : Option Duration) (s : WatchSet β) :
    Progress (WatchSet β) (Outcome Error Nat × List Event) × WatchSet β :=
  let s := s.note (.polling timeout)
  let events := cleared events
  match s.beginPoll with
  | .error cause => (.returned (.halted cause, events), s)
  | .ok (marker, s) =>
    s.within (Facility.wait s.buffer.value timeout) (finishPoll marker events)

end WatchSet

end Readiness
