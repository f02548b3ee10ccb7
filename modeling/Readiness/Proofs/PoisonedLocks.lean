import Readiness.Proofs.CallParts

/-! # Poisoned locks

Behind a lock there is a mutex.  A holder that gives up while it unwinds leaves a mark on the mutex,
and whoever takes it next is told.

* **Taking** (`Mutex.take`).  A thread safe lock waits for the mutex; the other kind only tries.
  Both recover a mutex that is poisoned.
* **The mark does not matter** (`Mutex.map_take`, `Mutex.toLock_giveBack`).  Without the mark,
  taking and giving back are `Lock.acquire` and `Lock.release`.
* **Two locks.**  A poll takes the lock on the buffer and then the one on the rings.  If it is given
  up in between it poisons the first (`Mutex.startPoll_of_held`). -/

namespace Readiness

/-- A lock with the mark that a holder was given up. -/
structure Mutex (α : Type) extends Lock α where
  poisoned : Bool := false
deriving DecidableEq, Repr

namespace Mutex

variable {α : Type}

/-- A mutex that was taken, with or without the mark. -/
inductive Taken (α : Type) where
  | sound (m : Mutex α)
  | poisoned (m : Mutex α)

/-- The mutex that was taken, poisoned or not. -/
def Taken.recover : Taken α → Mutex α
  | sound m => m
  | poisoned m => m

/-- Take a mutex, if it is free. -/
def tryTake (m : Mutex α) : Option (Taken α) :=
  if m.held then none
  else if m.poisoned then some (.poisoned { m with held := true })
  else some (.sound { m with held := true })

/-- Wait for a mutex.  In a single run of calls its holder never gives it back. -/
def wait (m : Mutex α) : Except Halt (Taken α) :=
  match m.tryTake with
  | some taken => .ok taken
  | none => .error .deadlock

/-- Take the mutex behind a lock; one that is poisoned is recovered. -/
def take (m : Mutex α) : Except Halt (Mutex α) :=
  if m.threadSafe then m.wait.map Taken.recover
  else
    match m.tryTake with
    | some taken => .ok taken.recover
    | none => .error .concurrentUse

/-- Leave a value in the mutex and give it free.  A holder that is given up poisons it. -/
def giveBack (m : Mutex α) (value : α) (givenUp : Bool) : Mutex α where
  toLock := m.toLock.release value
  poisoned := m.poisoned || givenUp

/-- A mutex that is free is taken, poisoned or not. -/
theorem take_of_free {m : Mutex α} (h : m.held = false) : m.take = .ok { m with held := true } := by
  cases hp : m.poisoned <;> cases hs : m.threadSafe <;>
    simp [take, wait, tryTake, Taken.recover, Except.map, h, hp, hs]

theorem take_of_held {m : Mutex α} (h : m.held = true) : m.take = .error m.conflict := by
  cases hs : m.threadSafe <;> simp [take, wait, tryTake, Lock.conflict, Except.map, h, hs]

/-- **The mark does not matter.**  Taking a mutex is taking the lock. -/
theorem map_take (m : Mutex α) : m.take.map Mutex.toLock = m.toLock.acquire := by
  cases hm : m.held with
  | false => simp [take_of_free hm, Lock.acquire, hm, Except.map]
  | true => simp [take_of_held hm, Lock.acquire_of_held hm, Except.map]

@[simp] theorem toLock_giveBack (m : Mutex α) (value : α) (givenUp : Bool) :
    (m.giveBack value givenUp).toLock = m.toLock.release value := rfl

/-- Giving a mutex back makes it free, poisoned or not. -/
theorem take_giveBack (m : Mutex α) (value : α) (givenUp : Bool) :
    (m.giveBack value givenUp).take =
      .ok { m.giveBack value givenUp with held := true } :=
  take_of_free rfl

end Mutex

/-- The mutex behind a lock can be taken, whatever mark is on it. -/
def Lock.Available {α : Type} (l : Lock α) : Prop :=
  ∀ m : Mutex α, m.toLock = l → m.take = .ok { m with held := true }

theorem Lock.available_of_free {α : Type} {l : Lock α} (h : l.held = false) : l.Available := by
  rintro m rfl
  exact Mutex.take_of_free h

/-! ### A poll and its two locks -/

namespace Mutex

/-- The start of a poll, with what becomes of the two mutexes.  If the lock on the rings cannot be
taken, the buffer is given back by a holder that is given up. -/
def startPoll (roster : Mutex Roster) (buffer : Mutex NativeBuffer) :
    Except Halt Nat × Mutex Roster × Mutex NativeBuffer :=
  match buffer.take with
  | .error cause => (.error cause, roster, buffer)
  | .ok buffer =>
    match roster.take with
    | .error cause => (.error cause, roster, buffer.giveBack buffer.value true)
    | .ok roster => (.ok roster.value.retired, roster.giveBack roster.value false, buffer)

variable {β : Type} {roster : Mutex Roster} {buffer : Mutex NativeBuffer} {s : WatchSet β}

/-- Without the marks, this is the start of a poll. -/
theorem startPoll_eq_beginPoll (hroster : roster.toLock = s.roster)
    (hbuffer : buffer.toLock = s.buffer) :
    s.beginPoll = (startPoll roster buffer).1.map fun marker =>
      (marker, { s with
        roster := (startPoll roster buffer).2.1.toLock
        buffer := (startPoll roster buffer).2.2.toLock }) := by
  obtain ⟨host, _, _, capacity, destroyed⟩ := s
  obtain rfl := hroster
  obtain rfl := hbuffer
  obtain ⟨⟨records, rosterSafe, rosterHeld⟩, rosterMark⟩ := roster
  obtain ⟨⟨events, bufferSafe, bufferHeld⟩, bufferMark⟩ := buffer
  cases bufferHeld with
  | true =>
      simp [WatchSet.beginPoll, startPoll, Lock.acquire, Lock.conflict, take_of_held, Except.map]
  | false =>
      cases rosterHeld <;>
        simp [WatchSet.beginPoll, startPoll, Lock.acquire, Lock.conflict, Lock.read, take_of_free,
          take_of_held, Except.map, Lock.release]

/-- A poll that gets the buffer and not the rings poisons the buffer and leaves it as it was. -/
theorem startPoll_of_held (hroster : roster.Refusing) (hbuffer : buffer.held = false) :
    startPoll roster buffer =
      (.error .concurrentUse, roster, { buffer with poisoned := true }) := by
  obtain ⟨⟨events, bufferSafe, held⟩, mark⟩ := buffer
  obtain rfl : held = false := hbuffer
  simp [startPoll, take_of_free, take_of_held hroster.held, hroster.conflict, giveBack,
    Lock.release]

end Mutex

end Readiness
