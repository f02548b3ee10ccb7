import Readiness.Kernel.Basic
import Readiness.Progress

/-! # The calls of `kqueue`

* `Kernel.kqueue` opens a handle.
* `Kernel.keventChange` makes one change to the registrations and answers with a receipt,
  which says what became of the change.  A call that is interrupted has made the change but
  shows no receipt.
* `Kernel.keventWait` never blocks: it returns the injected events, then one event for each
  registered filter that has a state. -/

namespace Readiness

namespace Kqueue

/-- The filter for reading. -/
def readFilter : Int16 := -1

/-- The filter for writing. -/
def writeFilter : Int16 := -2

/-- Make a registration. -/
def addFlag : UInt16 := 1

/-- Delete a registration. -/
def deleteFlag : UInt16 := 2

/-- Answer a change with a receipt. -/
def receiptFlag : UInt16 := 64

/-- The data are an error number. -/
def errorFlag : UInt16 := 16384

/-- The other side is gone. -/
def eofFlag : UInt16 := 32768

/-- A flag is set. -/
def hasFlag (flags flag : UInt16) : Bool := flags &&& flag ≠ 0

end Kqueue

/-- A change to the registrations of `kqueue`. -/
structure KqueueChange where
  fd : Int32
  filter : Int16
  flags : UInt16
  tag : Tag
deriving DecidableEq, Repr

/-- A registration is for the descriptor and filter of a change. -/
def KqueueChange.concerns (c : KqueueChange) (r : KqueueRegistration) : Bool :=
  r.fd == c.fd && r.filter == c.filter

/-- The answer to a change: the change with the error flag, and an error number, zero if the
change was made. -/
structure KqueueReceipt where
  change : KqueueChange
  data : Int64
deriving DecidableEq, Repr

namespace Kernel

/-- Open a handle. -/
def kqueue (k : Kernel) : Outcome SystemError Int32 × Kernel :=
  (k.record .kqueue).obey .kqueue fun k =>
    let (handle, k) := k.newHandle
    (.done handle, k)

/-- Make a change, or say why not by an error number. -/
def applyChange (k : Kernel) (c : KqueueChange) : Int64 × Kernel :=
  let known := k.kqueueRegistrations.any c.concerns
  if k.isInvalid c.fd then (9, k)
  else if Kqueue.hasFlag c.flags Kqueue.addFlag then
    let registrations :=
      if known then
        k.kqueueRegistrations.map fun r => if c.concerns r then { r with tag := c.tag } else r
      else k.kqueueRegistrations ++ [⟨c.fd, c.filter, c.tag⟩]
    (0, { k with kqueueRegistrations := registrations })
  else if known then
    (0, { k with kqueueRegistrations := k.kqueueRegistrations.filter fun r => !c.concerns r })
  else (2, k)

/-- Make a change unless a verdict for its receipt decides otherwise. -/
def change (k : Kernel) (c : KqueueChange) : Outcome SystemError KqueueReceipt × Kernel :=
  let answer (data : Int64) : KqueueReceipt :=
    ⟨{ c with flags := c.flags ||| Kqueue.errorFlag }, data⟩
  match k.nextVerdict .receipt with
  | (.pass, k) =>
    let (data, k) := k.applyChange c
    (.done (answer data), k)
  | (.fail data _, k) => (.done (answer data), k)
  | (.giveUp, k) => (.halted .scripted, k)

/-- Make a change on a handle that is open. -/
def attemptChange (k : Kernel) (handle : Int32) (c : KqueueChange) :
    Outcome SystemError KqueueReceipt × Kernel :=
  if k.isLive handle then k.change c else (.failed .badDescriptor, k)

/-- Ask for a change. -/
def keventChange (k : Kernel) (handle : Int32) (c : KqueueChange) :
    Outcome SystemError KqueueReceipt × Kernel :=
  let k := k.record (.keventChange handle c.fd c.filter c.flags c.tag)
  match k.nextVerdict .kevent with
  | (.pass, k) => k.attemptChange handle c
  | (.fail code _, k) =>
    if code = 4 then
      match k.attemptChange handle c with
      | (.done _, k) => (.failed .interrupted, k)
      | other => other
    else (.failed (.os code.toInt32), k)
  | (.giveUp, k) => (.halted .scripted, k)

/-- The event for a registration, if its filter has a state. -/
def kqueueReport? (k : Kernel) (r : KqueueRegistration) : Option KqueueEvent :=
  (k.filters.find? fun s => s.fd == r.fd && s.filter == r.filter).map fun s =>
    ⟨s.filter, s.flags, s.fflags, r.tag⟩

/-- At most `room` events: the injected ones, then those of the registrations. -/
def kqueueCollect (k : Kernel) (room : Nat) : List KqueueEvent × Kernel :=
  let ready := k.kqueueRegistrations.filterMap k.kqueueReport?
  ((k.kqueueInjected ++ ready).take room, { k with kqueueInjected := k.kqueueInjected.drop room })

/-- Wait for events; others may run inside. -/
def keventWait (handle room : Int32) (timeout : Option Timespec) (k : Kernel) :
    Progress Kernel (Outcome SystemError (List KqueueEvent)) × Kernel :=
  let k := k.record (.keventWait handle room timeout)
  if !k.isLive handle then (.returned (.failed .badDescriptor), k)
  else
    (.inside (obey .keventWait fun k =>
      let (events, k) := k.kqueueCollect room.toInt.toNat
      (.done events, k)), k)

end Kernel

end Readiness
