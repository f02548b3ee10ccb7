import Readiness.Facility
import Readiness.Handle
import Readiness.Kernel.Epoll

/-! # Waiting with `epoll`

* **One registration.**  A descriptor has a single registration, made and deleted by one call
  each, with the tag as its payload.  Deleting it ends the watch for all interests.
* **Level triggered.**  A descriptor is reported by every wait as long as it is ready.
* **Events.**  Urgent data count as readable, and a shutdown of the other side counts as a
  hang-up (`EpollEvent.native`). -/

namespace Readiness

/-- The facility's state: its handle. -/
structure Epoll where
  handle : Handle
deriving DecidableEq, Repr

namespace Epoll

/-- The bits to register for some interests. -/
def requested (i : Interests) : UInt32 :=
  rdhupBit ||| (if i.isReadable then inBit ||| priBit else 0)
    ||| (if i.isWritable then outBit else 0)

/-- Some bit of `mask` is set. -/
def hasBit (events mask : UInt32) : Bool := events &&& mask ≠ 0

/-- The readiness that native bits stand for. -/
def readiness (events : UInt32) : Conditions :=
  (if hasBit events (inBit ||| priBit) then .readable else .empty)
    ||| (if hasBit events outBit then .writable else .empty)
    ||| (if hasBit events errBit then .error else .empty)
    ||| (if hasBit events (rdhupBit ||| hupBit) then .hup else .empty)

/-- A native event in common terms. -/
def native (e : EpollEvent) : NativeEvent := ⟨e.tag, readiness e.events⟩

/-- The timeout in milliseconds; without one it is negative. -/
def timeoutMillis : Option Duration → Int32
  | none => -1
  | some d => d.millis

/-- Open the facility. -/
def create (k : Kernel) : Outcome SystemError Epoll × Kernel :=
  let (outcome, k) := k.epollCreate
  (outcome.map fun fd => ⟨⟨fd⟩⟩, k)

/-- Watch a descriptor by one call for all interests. -/
def watch (fd : Int32) (i : Interests) (t : Tag) (h : Host Epoll) :
    Outcome SystemError Unit × Host Epoll :=
  h.system (·.epollAdd h.facility.handle.fd fd (requested i) t)

/-- Delete the registration of a descriptor. -/
def unwatch (fd : Int32) (h : Host Epoll) : Outcome SystemError Unit × Host Epoll :=
  h.system (·.epollDelete h.facility.handle.fd fd)

/-- Fill the emptied buffer with the events of a wait that succeeded. -/
def deliver (b : NativeBuffer) (outcome : Outcome SystemError (List EpollEvent)) :
    Outcome SystemError Unit × NativeBuffer :=
  match outcome with
  | .done events => (.done (), b.extend (events.map native))
  | .failed cause => (.failed cause, b)
  | .halted cause => (.halted cause, b)

/-- Wait for events. -/
def wait (b : NativeBuffer) (timeout : Option Duration) (h : Host Epoll) :
    Progress (Host Epoll) (Outcome SystemError Unit × NativeBuffer) × Host Epoll :=
  let b := b.clear
  h.systemWithin (Kernel.epollWait h.facility.handle.fd (room b.capacity) (timeoutMillis timeout))
    fun outcome h => (deliver b outcome, h)

/-- Close the handle, once. -/
def close (h : Host Epoll) : Outcome SystemError Unit × Host Epoll :=
  let (outcome, handle, kernel) := h.facility.handle.close h.kernel
  (outcome, { h with facility := ⟨handle⟩, kernel })

/-- Close the handle unless it is closed already, and write an error to the log. -/
def dispose (h : Host Epoll) : Outcome SystemError Unit × Host Epoll :=
  match close h with
  | (.failed cause, h) => (.done (), h.note (.disposeFailed "epoll" cause))
  | other => other

instance : Facility Epoll where
  watch fd i t := Progress.atOnce (watch fd i t)
  unwatch fd _ := Progress.atOnce (unwatch fd)
  wait := wait
  close := close
  dispose := dispose
  text b := s!"Selector \x7b epfd: {b.handle.fd} \x7d"

end Epoll

end Readiness
