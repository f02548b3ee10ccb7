import Readiness.Kernel.Basic
import Readiness.Progress

/-! # The calls of `epoll`

* `Kernel.epollCreate` opens a handle.
* `Kernel.epollAdd` and `Kernel.epollDelete` change the registrations, which stay in the order
  in which they were made, one for each descriptor.
* `Kernel.epollWait` never blocks: it returns the injected events, then one event for each
  registration whose descriptor has a level among those it asked for.  Errors and hang-ups
  need not be asked for. -/

namespace Readiness

namespace Epoll

/-- There is data to read. -/
def inBit : UInt32 := 1

/-- There is urgent data to read. -/
def priBit : UInt32 := 2

/-- There is room to write. -/
def outBit : UInt32 := 4

/-- There is an error. -/
def errBit : UInt32 := 8

/-- Both sides are shut down. -/
def hupBit : UInt32 := 16

/-- The other side is shut down. -/
def rdhupBit : UInt32 := 8192

end Epoll

namespace Kernel

/-- Open a handle. -/
def epollCreate (k : Kernel) : Outcome SystemError Int32 × Kernel :=
  (k.record .epollCreate).obey .epollCreate fun k =>
    let (handle, k) := k.newHandle
    (.done handle, k)

/-- A descriptor is registered. -/
def epollHas (k : Kernel) (fd : Int32) : Bool := k.epollRegistrations.any (·.fd == fd)

/-- Register a descriptor that is not registered yet. -/
def epollAdd (k : Kernel) (handle fd : Int32) (events : UInt32) (t : Tag) :
    Outcome SystemError Unit × Kernel :=
  (k.record (.epollAdd handle fd events t)).obey .epollCtl fun k =>
    if !k.isLive handle || k.isInvalid fd then (.failed .badDescriptor, k)
    else if k.epollHas fd then (.failed .alreadyExists, k)
    else (.done (), { k with epollRegistrations := k.epollRegistrations ++ [⟨fd, events, t⟩] })

/-- Delete the registration of a descriptor. -/
def epollDelete (k : Kernel) (handle fd : Int32) : Outcome SystemError Unit × Kernel :=
  (k.record (.epollDelete handle fd)).obey .epollCtl fun k =>
    if !k.isLive handle || k.isInvalid fd then (.failed .badDescriptor, k)
    else if k.epollHas fd then
      (.done (), { k with epollRegistrations := k.epollRegistrations.filter (·.fd ≠ fd) })
    else (.failed .noEntry, k)

/-- The event for a registration, if its descriptor has a level that is reported. -/
def epollReport? (k : Kernel) (r : EpollRegistration) : Option EpollEvent :=
  let events := k.level r.fd &&& (r.events ||| Epoll.errBit ||| Epoll.hupBit)
  if events = 0 then none else some ⟨events, r.tag⟩

/-- At most `room` events: the injected ones, then those of the registrations. -/
def epollCollect (k : Kernel) (room : Nat) : List EpollEvent × Kernel :=
  let ready := k.epollRegistrations.filterMap k.epollReport?
  ((k.epollInjected ++ ready).take room, { k with epollInjected := k.epollInjected.drop room })

/-- Wait for events; others may run inside. -/
def epollWait (handle room timeout : Int32) (k : Kernel) :
    Progress Kernel (Outcome SystemError (List EpollEvent)) × Kernel :=
  let k := k.record (.epollWait handle room timeout)
  if !k.isLive handle then (.returned (.failed .badDescriptor), k)
  else
    (.inside (obey .epollWait fun k =>
      if room ≤ 0 then (.failed .invalidArgument, k)
      else
        let (events, k) := k.epollCollect room.toInt.toNat
        (.done events, k)), k)

end Kernel

end Readiness
