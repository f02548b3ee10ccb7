import Readiness.Facility
import Readiness.Facility.Registration
import Readiness.Handle
import Readiness.Kernel.Kqueue

/-! # Waiting with `kqueue`

* **Filters.**  Each interest is a filter of its own, so a descriptor watched for both has two
  registrations with the same tag, and can be reported twice by one wait.
* **Receipts.**  Every change asks for a receipt.  A change has failed if the call failed, or if
  its receipt carries an error number other than zero.  A call that was interrupted has made
  its changes and counts as a success.
* **All or nothing.**  Watching registers the filters one by one and deletes them again if one
  fails.  Unwatching tries every filter and returns the first error. -/

namespace Readiness

/-- The facility's state: its handle. -/
structure Kqueue where
  handle : Handle
deriving DecidableEq, Repr

namespace Kqueue

/-- The filter for a single interest. -/
def filterFor (i : Interests) : Int16 := if i.isReadable then readFilter else writeFilter

/-- The readiness that an event stands for.  The other side being gone is an error only if the
event carries a code for it. -/
def readiness (e : KqueueEvent) : Conditions :=
  let gone := hasFlag e.flags eofFlag
  (if e.filter = readFilter then .readable else .empty)
    ||| (if e.filter = writeFilter then .writable else .empty)
    ||| (if gone then .hup else .empty)
    ||| (if gone ∧ e.fflags ≠ 0 then .error else .empty)
    ||| (if hasFlag e.flags errorFlag then .error else .empty)

/-- A native event in common terms. -/
def native (e : KqueueEvent) : NativeEvent := ⟨e.tag, readiness e⟩

/-- Open the facility.  If the handle cannot be marked as not to be inherited it is closed again,
and that error is returned whatever closing says. -/
def create (k : Kernel) : Outcome SystemError Kqueue × Kernel :=
  match k.kqueue with
  | (.failed cause, k) => (.failed cause, k)
  | (.halted cause, k) => (.halted cause, k)
  | (.done handle, k) =>
    match k.closeOnExec handle with
    | (.done (), k) => (.done ⟨⟨handle⟩⟩, k)
    | (.halted cause, k) => (.halted cause, k)
    | (.failed cause, k) =>
      match k.closeHandle handle with
      | (.halted other, k) => (.halted other, k)
      | (_, k) => (.failed cause, k)

/-- The error that a receipt carries, if there is one. -/
def receiptError? (r : KqueueReceipt) : Option SystemError :=
  if hasFlag r.change.flags errorFlag ∧ r.data ≠ 0 then some (.os r.data.toInt32) else none

/-- Ask for a change and look at its receipt. -/
def change (c : KqueueChange) (h : Host Kqueue) : Outcome SystemError Unit × Host Kqueue :=
  match h.system (·.keventChange h.facility.handle.fd c) with
  | (.halted cause, h) => (.halted cause, h)
  | (.failed cause, h) => if cause = .interrupted then (.done (), h) else (.failed cause, h)
  | (.done receipt, h) =>
    match receiptError? receipt with
    | none => (.done (), h)
    | some cause => (.failed cause, h)

/-- Register the filter of one interest. -/
def register (fd : Int32) (t : Tag) (i : Interests) :
    Host Kqueue → Outcome SystemError Unit × Host Kqueue :=
  change ⟨fd, filterFor i, addFlag ||| receiptFlag, t⟩

/-- Delete the filter of one interest. -/
def deregister (fd : Int32) (t : Tag) (i : Interests) :
    Host Kqueue → Outcome SystemError Unit × Host Kqueue :=
  change ⟨fd, filterFor i, deleteFlag ||| receiptFlag, t⟩

/-- Watch a descriptor for all of the interests, or for none. -/
def watch (fd : Int32) (i : Interests) (t : Tag) :
    Host Kqueue → Outcome SystemError Unit × Host Kqueue :=
  registerAll (register fd t) (deregister fd t)
    (fun single cause h => h.note (.rollbackFailed single cause)) i

/-- Delete the filters of single interests, all of them; the first error counts. -/
def unwatchEach (fd : Int32) : List Interests → Outcome SystemError Unit → Host Kqueue →
    Outcome SystemError Unit × Host Kqueue
  | [], result, h => (result, h)
  | i :: rest, result, h =>
    match deregister fd ⟨0⟩ i h with
    | (.halted cause, h) => (.halted cause, h)
    | (.done (), h) => unwatchEach fd rest result h
    | (.failed cause, h) =>
      unwatchEach fd rest (if result = .done () then .failed cause else result) h

/-- Stop watching a descriptor for the interests. -/
def unwatch (fd : Int32) (i : Interests) (h : Host Kqueue) :
    Outcome SystemError Unit × Host Kqueue :=
  unwatchEach fd i.split (.done ()) h

/-- Fill the emptied buffer with the events of a wait that succeeded. -/
def deliver (b : NativeBuffer) (outcome : Outcome SystemError (List KqueueEvent)) :
    Outcome SystemError Unit × NativeBuffer :=
  match outcome with
  | .done events => (.done (), b.extend (events.map native))
  | .failed cause => (.failed cause, b)
  | .halted cause => (.halted cause, b)

/-- Wait for events. -/
def wait (b : NativeBuffer) (timeout : Option Duration) (h : Host Kqueue) :
    Progress (Host Kqueue) (Outcome SystemError Unit × NativeBuffer) × Host Kqueue :=
  let b := b.clear
  h.systemWithin
    (Kernel.keventWait h.facility.handle.fd (room b.capacity) (timeout.map Duration.timespec))
    fun outcome h => (deliver b outcome, h)

/-- Close the handle, once. -/
def close (h : Host Kqueue) : Outcome SystemError Unit × Host Kqueue :=
  let (outcome, handle, kernel) := h.facility.handle.close h.kernel
  (outcome, { h with facility := ⟨handle⟩, kernel })

/-- Close the handle unless it is closed already, and write an error to the log. -/
def dispose (h : Host Kqueue) : Outcome SystemError Unit × Host Kqueue :=
  match close h with
  | (.failed cause, h) => (.done (), h.note (.disposeFailed "kqueue" cause))
  | other => other

instance : Facility Kqueue where
  watch fd i t := Progress.atOnce (watch fd i t)
  unwatch fd i := Progress.atOnce (unwatch fd i)
  wait := wait
  close := close
  dispose := dispose
  text b := s!"Selector \x7b kq: {b.handle.fd} \x7d"

end Kqueue

end Readiness
