import Readiness.Duration
import Readiness.Error
import Readiness.Event

/-! # Log entries

Every line that a watch set or a facility writes to the log is a value, `LogEntry`, with a
level (`LogEntry.level`) and a text (`LogEntry.message`).  Entries are always kept; which of
them a reader sees is decided by the level the reader asks for (`Level.shows`). -/

namespace Readiness

/-- How urgent a log line is. -/
inductive Level where
  | error
  | debug
  | trace
deriving DecidableEq, Repr

namespace Level

/-- The name of a level. -/
def name : Level → String
  | error => "ERROR"
  | debug => "DEBUG"
  | trace => "TRACE"

/-- Levels from the most urgent on. -/
def rank : Level → Nat
  | error => 0
  | debug => 1
  | trace => 2

/-- A reader who asks for `threshold` sees lines of level `l`. -/
def shows (threshold l : Level) : Bool := l.rank ≤ threshold.rank

end Level

/-- A line of the log. -/
inductive LogEntry where
  | creating (capacity : Nat) (threadSafe : Bool)
  | adding (d : Descriptor) (i : Interests) (id : EventId)
  | rejected (d : Descriptor) (cause : SystemError)
  | removing (d : Descriptor)
  | unwatchFailed (d : Descriptor) (cause : SystemError)
  | notUnwatched (d : Descriptor) (cause : Error)
  | polling (timeout : Option Duration)
  | staleTag (t : Tag)
  | destroying
  | closeFailed (cause : SystemError)
  | disposeFailed (facility : String) (cause : SystemError)
  | rollbackFailed (i : Interests) (cause : SystemError)
deriving DecidableEq, Repr

namespace LogEntry

/-- The level of a line. -/
def level : LogEntry → Level
  | creating .. => .trace
  | adding .. => .trace
  | rejected .. => .debug
  | removing .. => .trace
  | unwatchFailed .. => .trace
  | notUnwatched .. => .debug
  | polling .. => .trace
  | staleTag .. => .debug
  | destroying => .trace
  | closeFailed .. => .error
  | disposeFailed .. => .error
  | rollbackFailed .. => .debug

/-- The text of a line without its level. -/
def message : LogEntry → String
  | creating capacity threadSafe =>
    s!"creating pollset: capacity={capacity}, thread_safe={threadSafe}"
  | adding d i id =>
    s!"adding descriptor: descriptor={d.text}, interests={i.text}, id={id.display}"
  | rejected d cause =>
    s!"backend rejected descriptor: descriptor={d.text}, err={cause.message}"
  | removing d => s!"removing descriptor: descriptor={d.text}"
  | unwatchFailed d cause =>
    s!"backend unwatch failed: descriptor={d.text}, err={cause.message}"
  | notUnwatched d cause =>
    s!"unable to unwatch descriptor: descriptor={d.text}, err={cause.message}"
  | polling timeout => s!"polling pollset: timeout={timeoutText timeout}"
  | staleTag t => s!"dropping event with stale tag: tag={t.text}"
  | destroying => "destroying pollset"
  | closeFailed cause => s!"error closing pollset backend: {cause.message}"
  | disposeFailed facility cause => s!"error closing {facility}: {cause.message}"
  | rollbackFailed i cause =>
    s!"unable to roll back registration: interest={i.text}, err={cause.message}"

/-- The whole line: the level and the text. -/
def line (e : LogEntry) : String := s!"{e.level.name} {e.message}"

end LogEntry

end Readiness
