import Readiness.Duration
import Readiness.Event

/-! # The record of calls

Every call on the kernel, or on the scripted facility, is written down with its arguments before
anything else happens.  `SystemCall.text` is the form in which it is shown. -/

namespace Readiness

/-- A call that was made, with its arguments. -/
inductive SystemCall where
  | watch (fd : Int32) (i : Interests) (t : Tag)
  | unwatch (fd : Int32) (i : Interests)
  | wait (capacity : Nat) (timeout : Option Duration)
  | close
  | closeHandle (handle : Int32)
  | getFlags (fd : Int32)
  | closeOnExec (handle : Int32)
  | epollCreate
  | epollAdd (handle fd : Int32) (events : UInt32) (t : Tag)
  | epollDelete (handle fd : Int32)
  | epollWait (handle room timeout : Int32)
  | poll (entries : List (Int32 × UInt16)) (timeout : Int32)
  | kqueue
  | keventChange (handle fd : Int32) (filter : Int16) (flags : UInt16) (t : Tag)
  | keventWait (handle room : Int32) (timeout : Option Timespec)
deriving DecidableEq, Repr

namespace SystemCall

/-- A timeout of `poll`: only its kind is shown, unless it is a boundary value. -/
def pollTimeoutText (timeout : Int32) : String :=
  if timeout = -1 ∨ timeout = 0 ∨ timeout = 2147483647 then toString timeout else "finite"

/-- An entry of the table given to `poll`. -/
def entryText (entry : Int32 × UInt16) : String := s!"{entry.1}:{entry.2}"

/-- How a call is written down. -/
def text : SystemCall → String
  | watch fd i t => s!"watch({fd}, {i.bits}, {t.value})"
  | unwatch fd i => s!"unwatch({fd}, {i.bits})"
  | wait capacity timeout =>
    let shown := (timeout.map Duration.plainText).getD "null"
    s!"wait({capacity}, {shown})"
  | close => "close()"
  | closeHandle handle => s!"close({handle})"
  | getFlags fd => s!"fcntl({fd}, F_GETFD)"
  | closeOnExec handle => s!"fcntl({handle}, F_SETFD, 1)"
  | epollCreate => "epoll_create1(524288)"
  | epollAdd handle fd events t => s!"epoll_ctl({handle}, ADD, {fd}, {events}, {t.value})"
  | epollDelete handle fd => s!"epoll_ctl({handle}, DEL, {fd})"
  | epollWait handle room timeout => s!"epoll_wait({handle}, {room}, {timeout})"
  | poll entries timeout =>
    let shown := String.intercalate ", " (entries.map entryText)
    s!"poll([{shown}], {pollTimeoutText timeout})"
  | kqueue => "kqueue()"
  | keventChange handle fd filter flags t =>
    s!"kevent_change({handle}, {fd}, {filter}, {flags}, {t.value})"
  | keventWait handle room timeout =>
    let shown := (timeout.map Timespec.text).getD "null"
    s!"kevent_wait({handle}, {room}, {shown})"

end SystemCall

end Readiness
