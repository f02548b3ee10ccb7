import Readiness.Error
import Readiness.Kernel.SystemCall
import Readiness.Kernel.Verdict

/-! # A scripted kernel

The system calls under the facilities, with everything they depend on in one value.

* **Descriptors.**  All descriptors are valid except the negative ones and those in
  `Kernel.invalid`.
* **Handles.**  Opening a facility gives the next handle, from 1000 on.  Calls on a handle that
  is not in `Kernel.live` fail.
* **Verdicts.**  Every call takes the next verdict for it and passes, fails or gives up
  accordingly (`Kernel.obey`).
* **Levels.**  `Kernel.levels` holds the readiness of descriptors in the bits common to
  `epoll` and `poll`, and `Kernel.filters` the state of each filter of `kqueue`.  A level stays
  until it is changed, and no time passes.
* **Trace.**  Every call is written down before anything else happens (`Kernel.record`). -/

namespace Readiness

/-- A registration with `epoll`. -/
structure EpollRegistration where
  fd : Int32
  events : UInt32
  tag : Tag
deriving DecidableEq, Repr

/-- An event of `epoll`. -/
structure EpollEvent where
  events : UInt32
  tag : Tag
deriving DecidableEq, Repr

/-- A registration with `kqueue`: one filter of one descriptor. -/
structure KqueueRegistration where
  fd : Int32
  filter : Int16
  tag : Tag
deriving DecidableEq, Repr

/-- The state of a filter of `kqueue`. -/
structure FilterState where
  fd : Int32
  filter : Int16
  flags : UInt16
  fflags : UInt32
deriving DecidableEq, Repr

/-- An event of `kqueue`. -/
structure KqueueEvent where
  filter : Int16
  flags : UInt16
  fflags : UInt32
  tag : Tag
deriving DecidableEq, Repr

/-- Everything the system calls depend on. -/
structure Kernel where
  verdicts : List (CallName × Verdict) := []
  calls : Array SystemCall := #[]
  invalid : List Int32 := []
  live : List Int32 := []
  nextHandle : Int32 := 1000
  levels : List (Int32 × UInt32) := []
  filters : List FilterState := []
  epollRegistrations : List EpollRegistration := []
  epollInjected : List EpollEvent := []
  kqueueRegistrations : List KqueueRegistration := []
  kqueueInjected : List KqueueEvent := []
  /-- The results that the next `poll` of a descriptor returns for it. -/
  forced : List (Int32 × UInt16) := []
deriving DecidableEq, Repr

namespace Kernel

/-- Write a call down. -/
def record (k : Kernel) (call : SystemCall) : Kernel := { k with calls := k.calls.push call }

/-- Take the next verdict for a call. -/
def nextVerdict (k : Kernel) (name : CallName) : Verdict × Kernel :=
  let (verdict, verdicts) := Verdict.next name k.verdicts
  (verdict, { k with verdicts })

/-- Queue a verdict for a call. -/
def queueVerdict (k : Kernel) (name : CallName) (verdict : Verdict) : Kernel :=
  { k with verdicts := k.verdicts ++ [(name, verdict)] }

/-- Do `act` if the next verdict for the call lets it pass. -/
def obey {α : Type} (name : CallName) (act : Kernel → Outcome SystemError α × Kernel)
    (k : Kernel) : Outcome SystemError α × Kernel :=
  match k.nextVerdict name with
  | (.pass, k) => act k
  | (.fail code _, k) => (.failed (.os code.toInt32), k)
  | (.giveUp, k) => (.halted .scripted, k)

/-- A descriptor that calls refuse. -/
def isInvalid (k : Kernel) (fd : Int32) : Bool := fd < 0 || k.invalid.contains fd

/-- A handle that calls accept. -/
def isLive (k : Kernel) (handle : Int32) : Bool := k.live.contains handle

/-- The level of a descriptor; it is zero until it is set. -/
def level (k : Kernel) (fd : Int32) : UInt32 := (k.levels.lookup fd).getD 0

/-- Open a new handle. -/
def newHandle (k : Kernel) : Int32 × Kernel :=
  (k.nextHandle, { k with live := k.live ++ [k.nextHandle], nextHandle := k.nextHandle + 1 })

/-! ### Calls on descriptors and handles -/

/-- Ask for the flags of a descriptor, which only tells whether it is valid. -/
def getFlags (k : Kernel) (fd : Int32) : Outcome SystemError Unit × Kernel :=
  (k.record (.getFlags fd)).obey .fcntl fun k =>
    if k.isInvalid fd then (.failed .badDescriptor, k) else (.done (), k)

/-- Mark a handle as not to be inherited. -/
def closeOnExec (k : Kernel) (handle : Int32) : Outcome SystemError Unit × Kernel :=
  (k.record (.closeOnExec handle)).obey .fcntl fun k =>
    if k.isInvalid handle then (.failed .badDescriptor, k) else (.done (), k)

/-- Close a handle, and with it all its registrations.  A close that fails changes nothing. -/
def closeHandle (k : Kernel) (handle : Int32) : Outcome SystemError Unit × Kernel :=
  (k.record (.closeHandle handle)).obey .close fun k =>
    if k.isLive handle then
      (.done (), { k with
        live := k.live.filter (· ≠ handle), epollRegistrations := [], kqueueRegistrations := [] })
    else (.failed .badDescriptor, k)

/-! ### What happens to descriptors -/

/-- From now on the descriptor is invalid. -/
def invalidate (k : Kernel) (fd : Int32) : Kernel :=
  { k with invalid := fd :: k.invalid.filter (· ≠ fd) }

/-- From now on the descriptor is valid again. -/
def validate (k : Kernel) (fd : Int32) : Kernel :=
  { k with invalid := k.invalid.filter (· ≠ fd) }

/-- From now on the descriptor has this level. -/
def setLevel (k : Kernel) (fd : Int32) (bits : UInt32) : Kernel :=
  { k with levels := (fd, bits) :: k.levels.filter (·.1 ≠ fd) }

/-- From now on the filter of the descriptor has this state. -/
def setFilter (k : Kernel) (state : FilterState) : Kernel :=
  { k with filters :=
      state :: k.filters.filter fun s => ¬ (s.fd = state.fd ∧ s.filter = state.filter) }

/-- From now on the descriptor has no level and no filter of it has a state. -/
def clearLevel (k : Kernel) (fd : Int32) : Kernel :=
  { k with levels := k.levels.filter (·.1 ≠ fd), filters := k.filters.filter (·.fd ≠ fd) }

end Kernel

end Readiness
