import Readiness.Facility.Epoll
import Readiness.Proofs.FilterLoops
import Readiness.Proofs.PollRounds
import Readiness.Proofs.Strands

/-! # The calls of each facility, turn by turn

The calls of `epoll`, `kqueue` and `poll` cut into turns (`Turns`), between which other threads run.

* **Handles.**  A call looks at the handle once, when it is made, and makes all its system calls with
  the number it found there, whatever becomes of the handle meanwhile.  Closing first takes the
  handle away, and then closes what it took.
* **Filters.**  Each filter of `kqueue` is registered, deleted or rolled back in a turn of its own.
* **Tables.**  Watching with `poll` checks the descriptor, looks whether the facility was closed,
  changes the table, and wakes the wait in progress, in four turns; closing sets the flag and then
  empties the table.  A wait looks at the flag, takes a snapshot of the table, asks the kernel, and
  drains the waker; it goes round if it is to wait on a new table.

Without others in between, the turns are the calls of the facility (`FaithfulTurns`). -/

namespace Readiness

/-- A facility whose calls are cut into turns.  A call looks at the host when it is made. -/
class Turns (β : Type) where
  watch : Int32 → Interests → Tag → Host β → Strand (Host β) (Outcome SystemError Unit)
  unwatch : Int32 → Interests → Host β → Strand (Host β) (Outcome SystemError Unit)
  /-- One round of a wait.  There is no outcome yet if the wait goes round again. -/
  wait : NativeBuffer → Option Duration → Host β →
    Strand (Host β) (Option (Outcome SystemError Unit) × NativeBuffer)
  close : Strand (Host β) (Outcome SystemError Unit)

/-- How the rounds of a wait end if nobody else runs. -/
inductive Turns.Waits {β : Type} [Turns β] (timeout : Option Duration) :
    NativeBuffer → Host β → (Outcome SystemError Unit × NativeBuffer) × Host β → Prop
  | last {b b' : NativeBuffer} {h h' : Host β} {outcome : Outcome SystemError Unit} :
      (Turns.wait b timeout h).alone h = ((some outcome, b'), h') →
      Waits timeout b h ((outcome, b'), h')
  | again {b b₁ : NativeBuffer} {h h₁ : Host β}
      {r : (Outcome SystemError Unit × NativeBuffer) × Host β} :
      (Turns.wait b timeout h).alone h = ((none, b₁), h₁) → Waits timeout b₁ h₁ r →
      Waits timeout b h r

/-- Without others in between, the turns of a call are the call. -/
class FaithfulTurns (β : Type) [Facility β] [Turns β] : Prop where
  watch : ∀ (fd : Int32) (i : Interests) (t : Tag) (h : Host β),
    (Turns.watch fd i t h).alone h = Progress.alone (Facility.watch fd i t h)
  unwatch : ∀ (fd : Int32) (i : Interests) (h : Host β),
    (Turns.unwatch fd i h).alone h = Progress.alone (Facility.unwatch fd i h)
  wait : ∀ (b : NativeBuffer) (timeout : Option Duration) (h : Host β),
    Turns.Waits timeout b h (Progress.alone (Facility.wait b timeout h))
  close : ∀ h : Host β, Turns.close.alone h = Facility.close h

/-- A round that is always the last one. -/
def lastRound (result : Outcome SystemError Unit × NativeBuffer) :
    Option (Outcome SystemError Unit) × NativeBuffer := (some result.1, result.2)

namespace Strand

variable {β : Type}

/-- Take the handle away, and then close it if there was one. -/
def closeHandle (take : Host β → Handle × Host β) :
    Strand (Host β) (Outcome SystemError Unit) :=
  .act take fun handle =>
    if handle = .closed then .returned (.done ())
    else .act (Host.system (·.closeHandle handle.fd)) .returned

/-- What taking the handle away does and closing one does, closing does. -/
theorem Does.closeHandle {Q : Host β → Prop} {R : Host β → Host β → Prop}
    {take : Host β → Handle × Host β} (htake : ∀ h, Q h → R h (take h).2)
    (hclose : ∀ n h, Q h → R h (h.system (·.closeHandle n)).2) :
    (closeHandle take).Does Q R fun _ => True := by
  refine .act htake fun h _ => ?_
  split
  · trivial
  · exact .act (hclose _) fun _ _ => trivial

/-- A system call that is a whole wait, alone. -/
theorem alone_system_last {ρ : Type} {call : Kernel → Progress Kernel ρ × Kernel}
    (k : ρ → Outcome SystemError Unit × NativeBuffer) (h : Host β) :
    (system call (fun _ => ()) fun r _ => .returned (lastRound (k r))).alone h =
      ((lastRound (Progress.alone (h.systemWithin call fun r h => (k r, h))).1),
        (Progress.alone (h.systemWithin call fun r h => (k r, h))).2) := by
  unfold Host.systemWithin Progress.within
  cases hp : call h.kernel with
  | mk p kernel =>
      cases p with
      | returned r => exact alone_system_returned hp
      | inside resume => exact alone_system hp

end Strand

/-! ### Interest by interest -/

section

variable {σ : Type} (register deregister : Interests → σ → Outcome SystemError Unit × σ)
  (report : Interests → SystemError → σ → σ)

/-- Delete an interest, and report it if that fails. -/
def undo (i : Interests) (s : σ) : Outcome SystemError Unit × σ :=
  match deregister i s with
  | (.failed cause, s) => (.failed cause, report i cause s)
  | other => other

/-- Delete each of some interests, each in its turn. -/
def undoTurns : List Interests → Strand σ (Outcome SystemError Unit)
  | [] => .returned (.done ())
  | i :: rest => .act (undo deregister report i) fun
    | .halted cause => .returned (.halted cause)
    | _ => undoTurns rest

/-- What a rollback returns, if it is not given up: the error that made it necessary. -/
def undoneBy (cause : SystemError) : Outcome SystemError Unit → Outcome SystemError Unit
  | .halted other => .halted other
  | _ => .failed cause

/-- Register the interests `todo`, each in its turn, where those of `registered` have been registered
before. -/
def registerTurns (registered : List Interests) :
    List Interests → Strand σ (Outcome SystemError Unit)
  | [] => .returned (.done ())
  | i :: todo => .act (register i) fun
    | .done () => registerTurns (registered ++ [i]) todo
    | .failed cause =>
      (undoTurns deregister report registered).andThen fun undone =>
        .returned (undoneBy cause undone)
    | .halted cause => .returned (.halted cause)

theorem alone_undoTurns (singles : List Interests) (s : σ) :
    (undoTurns deregister report singles).alone s = undoAll deregister report singles s := by
  induction singles generalizing s with
  | nil => rfl
  | cons i rest ih =>
      rw [undoTurns, Strand.alone_act, undoAll, undo]
      cases deregister i s with
      | mk outcome s₁ =>
          cases outcome with
          | done _ => exact ih s₁
          | failed cause => exact ih _
          | halted cause => rfl

theorem alone_registerTurns (registered todo : List Interests) (s : σ) :
    (registerTurns register deregister report registered todo).alone s =
      registerFrom register deregister report registered todo s := by
  induction todo generalizing registered s with
  | nil => rfl
  | cons i todo ih =>
      rw [registerTurns, Strand.alone_act, registerFrom]
      cases register i s with
      | mk outcome s₁ =>
          cases outcome with
          | done _ => exact ih _ s₁
          | halted cause => rfl
          | failed cause =>
              dsimp only
              rw [Strand.alone_andThen, alone_undoTurns]
              cases undoAll deregister report registered s₁ with
              | mk undone s₂ => cases undone <;> rfl

variable {Q : σ → Prop} {R : σ → σ → Prop} {P : Outcome SystemError Unit → Prop}

/-- What holds of each deletion and of each report holds of the rollback. -/
theorem does_undoTurns
    (hundo : ∀ i s, Q s → R s (undo deregister report i s).2 ∧
      ∀ cause, (undo deregister report i s).1 = .halted cause → P (.halted cause))
    (hdone : P (.done ())) (singles : List Interests) :
    (undoTurns deregister report singles).Does Q R P := by
  induction singles with
  | nil => exact hdone
  | cons i rest ih =>
      refine .act (fun s hs => (hundo i s hs).1) fun s hs => ?_
      cases hu : (undo deregister report i s).1 with
      | done _ | failed _ => exact ih
      | halted cause => exact (hundo i s hs).2 cause hu

/-- What holds of each registration and of each step of the rollback holds of them all. -/
theorem does_registerTurns
    (hregister : ∀ i s, Q s → R s (register i s).2 ∧
      ∀ cause, (register i s).1 = .halted cause → P (.halted cause))
    (hundo : ∀ i s, Q s → R s (undo deregister report i s).2 ∧
      ∀ cause, (undo deregister report i s).1 = .halted cause → P (.halted cause))
    (hdone : P (.done ())) (hfailed : ∀ cause, P (.failed cause))
    (registered todo : List Interests) :
    (registerTurns register deregister report registered todo).Does Q R P := by
  induction todo generalizing registered with
  | nil => exact hdone
  | cons i todo ih =>
      refine .act (fun s hs => (hregister i s hs).1) fun s hs => ?_
      cases hr : (register i s).1 with
      | done _ => exact ih _
      | halted cause => exact (hregister i s hs).2 cause hr
      | failed cause =>
          refine .andThen (does_undoTurns deregister report hundo hdone registered) ?_
          rintro (_ | _ | _) hp
          · exact hfailed cause
          · exact hfailed cause
          · exact hp

end

/-! ### `epoll` -/

namespace Epoll

/-- Register a descriptor with a handle. -/
def watchTurns (handle : Handle) (fd : Int32) (i : Interests) (t : Tag) :
    Strand (Host Epoll) (Outcome SystemError Unit) :=
  .act (Host.system (·.epollAdd handle.fd fd (requested i) t)) .returned

/-- Delete the registration of a descriptor with a handle. -/
def unwatchTurns (handle : Handle) (fd : Int32) :
    Strand (Host Epoll) (Outcome SystemError Unit) :=
  .act (Host.system (·.epollDelete handle.fd fd)) .returned

/-- Wait with a handle. -/
def waitTurns (handle : Handle) (b : NativeBuffer) (timeout : Option Duration) :
    Strand (Host Epoll) (Option (Outcome SystemError Unit) × NativeBuffer) :=
  .system (Kernel.epollWait handle.fd (room b.clear.capacity) (timeoutMillis timeout))
    (fun _ => ()) fun outcome _ => .returned (lastRound (deliver b.clear outcome))

/-- Give the handle away. -/
def takeHandle (h : Host Epoll) : Handle × Host Epoll :=
  (h.facility.handle, { h with facility := ⟨.closed⟩ })

instance : Turns Epoll where
  watch fd i t h := watchTurns h.facility.handle fd i t
  unwatch fd _ h := unwatchTurns h.facility.handle fd
  wait b timeout h := waitTurns h.facility.handle b timeout
  close := .closeHandle takeHandle

theorem alone_close (h : Host Epoll) : (Strand.closeHandle takeHandle).alone h = close h := by
  rw [Strand.closeHandle, Strand.alone_act, close, Handle.close, takeHandle]
  by_cases hclosed : h.facility.handle = .closed
  · obtain ⟨⟨handle⟩, kernel, log⟩ := h
    obtain rfl : handle = .closed := hclosed
    rfl
  · simp only [if_neg hclosed]
    rfl

instance : FaithfulTurns Epoll where
  watch _ _ _ _ := rfl
  unwatch _ _ _ := rfl
  wait b _ h := .last (Strand.alone_system_last (deliver b.clear) h)
  close := alone_close

end Epoll

/-! ### `kqueue` -/

namespace Kqueue

/-- Ask for a change with a handle that was looked at before, and look at its receipt. -/
def changeWith (handle : Handle) (c : KqueueChange) (h : Host Kqueue) :
    Outcome SystemError Unit × Host Kqueue :=
  let (outcome, g) := change c { h with facility := ⟨handle⟩ }
  (outcome, { g with facility := h.facility })

/-- Register the filter of one interest with a handle. -/
def registerWith (handle : Handle) (fd : Int32) (t : Tag) (i : Interests) :
    Host Kqueue → Outcome SystemError Unit × Host Kqueue :=
  changeWith handle (registering fd t i)

/-- Delete the filter of one interest with a handle. -/
def deregisterWith (handle : Handle) (fd : Int32) (t : Tag) (i : Interests) :
    Host Kqueue → Outcome SystemError Unit × Host Kqueue :=
  changeWith handle (deleting fd t i)

/-- Register the filters of a descriptor with a handle, or none of them. -/
def watchTurns (handle : Handle) (fd : Int32) (i : Interests) (t : Tag) :
    Strand (Host Kqueue) (Outcome SystemError Unit) :=
  registerTurns (registerWith handle fd t) (deregisterWith handle fd t)
    (fun single cause h => h.note (.rollbackFailed single cause)) [] i.split

/-- Delete the filters of single interests with a handle, all of them; the first error counts. -/
def unwatchTurns (handle : Handle) (fd : Int32) :
    List Interests → Outcome SystemError Unit → Strand (Host Kqueue) (Outcome SystemError Unit)
  | [], result => .returned result
  | i :: rest, result => .act (deregisterWith handle fd ⟨0⟩ i) fun
    | .halted cause => .returned (.halted cause)
    | .done () => unwatchTurns handle fd rest result
    | .failed cause =>
      unwatchTurns handle fd rest (if result = .done () then .failed cause else result)

/-- What holds of each deletion holds of them all. -/
theorem does_unwatchTurns {Q : Host Kqueue → Prop} {R : Host Kqueue → Host Kqueue → Prop}
    {P : Outcome SystemError Unit → Prop} {handle : Handle} {fd : Int32}
    (hdelete : ∀ i h, Q h → R h (deregisterWith handle fd ⟨0⟩ i h).2 ∧
      ∀ cause, (deregisterWith handle fd ⟨0⟩ i h).1 = .halted cause → P (.halted cause))
    (hfailed : ∀ cause, P (.failed cause)) (singles : List Interests)
    {result : Outcome SystemError Unit} (hresult : P result) :
    (unwatchTurns handle fd singles result).Does Q R P := by
  induction singles generalizing result with
  | nil => exact hresult
  | cons i rest ih =>
      refine .act (fun h hh => (hdelete i h hh).1) fun h hh => ?_
      cases hd : (deregisterWith handle fd ⟨0⟩ i h).1 with
      | done _ => exact ih hresult
      | halted cause => exact (hdelete i h hh).2 cause hd
      | failed cause =>
          refine ih ?_
          split
          · exact hfailed cause
          · exact hresult

/-- Wait with a handle. -/
def waitTurns (handle : Handle) (b : NativeBuffer) (timeout : Option Duration) :
    Strand (Host Kqueue) (Option (Outcome SystemError Unit) × NativeBuffer) :=
  .system (Kernel.keventWait handle.fd (room b.clear.capacity) (timeout.map Duration.timespec))
    (fun _ => ()) fun outcome _ => .returned (lastRound (deliver b.clear outcome))

/-- Give the handle away. -/
def takeHandle (h : Host Kqueue) : Handle × Host Kqueue :=
  (h.facility.handle, { h with facility := ⟨.closed⟩ })

instance : Turns Kqueue where
  watch fd i t h := watchTurns h.facility.handle fd i t
  unwatch fd i h := unwatchTurns h.facility.handle fd i.split (.done ())
  wait b timeout h := waitTurns h.facility.handle b timeout
  close := .closeHandle takeHandle

theorem changeWith_self {handle : Handle} (c : KqueueChange) {h : Host Kqueue}
    (hhandle : h.facility.handle = handle) : changeWith handle c h = change c h := by
  obtain ⟨⟨n⟩, kernel, log⟩ := h
  obtain rfl : n = handle := hhandle
  have hsame := facility_change c ⟨⟨n⟩, kernel, log⟩
  rw [changeWith]
  dsimp only
  cases hc : change c ⟨⟨n⟩, kernel, log⟩ with
  | mk outcome g =>
      rw [hc] at hsame
      rw [← show g.facility = ⟨n⟩ from hsame]

theorem handle_change {handle : Handle} {c : KqueueChange} {h h' : Host Kqueue}
    {outcome : Outcome SystemError Unit} (hc : change c h = (outcome, h'))
    (hhandle : h.facility.handle = handle) : h'.facility.handle = handle := by
  have hsame := facility_change c h
  rw [hc] at hsame
  rw [← hhandle, ← hsame]

theorem undoAll_with {handle : Handle} (fd : Int32) (t : Tag) (singles : List Interests)
    {h : Host Kqueue} (hhandle : h.facility.handle = handle) :
    undoAll (deregisterWith handle fd t)
        (fun single cause h => h.note (.rollbackFailed single cause)) singles h =
      undoAll (deregister fd t)
        (fun single cause h => h.note (.rollbackFailed single cause)) singles h := by
  induction singles generalizing h with
  | nil => rfl
  | cons i rest ih =>
      have hfirst : deregisterWith handle fd t i h = deregister fd t i h :=
        changeWith_self _ hhandle
      rw [undoAll, undoAll, hfirst]
      cases hd : deregister fd t i h with
      | mk outcome g =>
          have hg : g.facility.handle = handle := handle_change hd hhandle
          cases outcome with
          | done _ => exact ih hg
          | failed cause => exact ih hg
          | halted cause => rfl

theorem registerFrom_with {handle : Handle} (fd : Int32) (t : Tag)
    (registered todo : List Interests) {h : Host Kqueue} (hhandle : h.facility.handle = handle) :
    registerFrom (registerWith handle fd t) (deregisterWith handle fd t)
        (fun single cause h => h.note (.rollbackFailed single cause)) registered todo h =
      registerFrom (register fd t) (deregister fd t)
        (fun single cause h => h.note (.rollbackFailed single cause)) registered todo h := by
  induction todo generalizing registered h with
  | nil => rfl
  | cons i todo ih =>
      have hfirst : registerWith handle fd t i h = register fd t i h :=
        changeWith_self _ hhandle
      rw [registerFrom, registerFrom, hfirst]
      cases hr : register fd t i h with
      | mk outcome g =>
          have hg : g.facility.handle = handle := handle_change hr hhandle
          cases outcome with
          | done _ => exact ih _ hg
          | halted cause => rfl
          | failed cause =>
              dsimp only
              rw [undoAll_with fd t registered hg]

theorem alone_unwatchTurns {handle : Handle} (fd : Int32) (singles : List Interests)
    (result : Outcome SystemError Unit) {h : Host Kqueue} (hhandle : h.facility.handle = handle) :
    (unwatchTurns handle fd singles result).alone h = unwatchEach fd singles result h := by
  induction singles generalizing result h with
  | nil => rfl
  | cons i rest ih =>
      have hfirst : deregisterWith handle fd ⟨0⟩ i h = deregister fd ⟨0⟩ i h :=
        changeWith_self _ hhandle
      rw [unwatchTurns, Strand.alone_act, unwatchEach, hfirst]
      cases hd : deregister fd ⟨0⟩ i h with
      | mk outcome g =>
          have hg : g.facility.handle = handle := handle_change hd hhandle
          cases outcome with
          | done _ => exact ih _ hg
          | failed cause => exact ih _ hg
          | halted cause => rfl

theorem alone_close (h : Host Kqueue) : (Strand.closeHandle takeHandle).alone h = close h := by
  rw [Strand.closeHandle, Strand.alone_act, close, Handle.close, takeHandle]
  by_cases hclosed : h.facility.handle = .closed
  · obtain ⟨⟨handle⟩, kernel, log⟩ := h
    obtain rfl : handle = .closed := hclosed
    rfl
  · simp only [if_neg hclosed]
    rfl

instance : FaithfulTurns Kqueue where
  watch fd i t h :=
    (alone_registerTurns _ _ _ [] i.split h).trans (registerFrom_with fd t [] i.split rfl)
  unwatch fd i _ := alone_unwatchTurns fd i.split (.done ()) rfl
  wait b _ h := .last (Strand.alone_system_last (deliver b.clear) h)
  close := alone_close

end Kqueue

/-! ### `poll` -/

namespace Poll

/-- Put a changed table in place. -/
def setTable (table : List PollEntry) (h : Host Poll) : Host Poll :=
  { h with facility := { h.facility with table } }

/-- Wake the wait in progress. -/
def wakeUp (h : Host Poll) : Host Poll := { h with facility := h.facility.wake }

/-- Watch a descriptor: check it, look whether the facility was closed, change the table, and wake
the wait in progress. -/
def watchTurns (fd : Int32) (i : Interests) (t : Tag) :
    Strand (Host Poll) (Outcome SystemError Unit) :=
  if fd < 0 then .returned (.failed .badDescriptor)
  else .act (Host.system (·.getFlags fd)) fun
    | .halted cause => .returned (.halted cause)
    | .failed _ => .returned (.failed .badDescriptor)
    | .done () => .look (·.facility.closed) fun
      | true => .returned (.failed .badDescriptor)
      | false => .act (fun h => match enlist fd i t h.facility.table with
          | .error cause => (some cause, h)
          | .ok table => (none, setTable table h)) fun
        | some cause => .returned (.failed cause)
        | none => .act (fun h => ((), wakeUp h)) fun _ => .returned (.done ())

/-- Take interests from a descriptor: change the table, and wake the wait in progress. -/
def unwatchTurns (fd : Int32) (i : Interests) : Strand (Host Poll) (Outcome SystemError Unit) :=
  .act (fun h => match entry? h.facility.table fd with
      | none => (none, h)
      | some (n, entry) =>
        (some entry, setTable (lessen h.facility.table n entry (.ofInterests i)) h)) fun
    | none => .returned (.failed .noEntry)
    | some entry => .act (fun h => ((), wakeUp h)) fun _ =>
      .returned (if ((Conditions.ofInterests i).diff entry.interests).isEmpty then .done ()
        else .failed .noEntry)

/-- A round that found `b` ends, and the wait with it unless it goes on. -/
def ended (woken : Bool) (b : NativeBuffer) (timeout : Option Duration) :
    Option (Outcome SystemError Unit) × NativeBuffer :=
  (if goesOn woken b timeout then none else some (.done ()), b)

/-- The end of a round, after the call: drain the waker if it was readable. -/
def concludeTurns (snapshot : List PollEntry) (b : NativeBuffer) (timeout : Option Duration) :
    Outcome SystemError (List UInt16) → Bool →
      Strand (Host Poll) (Option (Outcome SystemError Unit) × NativeBuffer)
  | .halted cause, _ => .returned (some (.halted cause), b)
  | .failed cause, _ => .returned (some (.failed cause), b)
  | .done results, woken =>
    let b := b.extend ((found snapshot results).take b.capacity)
    if woken then
      .act (fun h => ((), { h with facility := h.facility.drain })) fun _ =>
        .returned (ended woken b timeout)
    else .returned (ended woken b timeout)

/-- One round of a wait on a facility that is not closed: take a snapshot of the table, ask the
kernel, and drain the waker. -/
def roundTurns (b : NativeBuffer) (timeout : Option Duration) :
    Strand (Host Poll) (Option (Outcome SystemError Unit) × NativeBuffer) :=
  .look (·.facility.table) fun snapshot =>
    .system (Kernel.poll (shown snapshot) (timeoutMillis timeout)) (·.facility.woken)
      (concludeTurns snapshot b timeout)

/-- Refuse all further calls, and then empty the table. -/
def closeTurns : Strand (Host Poll) (Outcome SystemError Unit) :=
  .act (fun h => (h.facility.closed, { h with facility := { h.facility with closed := true } })) fun
    | true => .returned (.done ())
    | false => .act (fun h => ((), setTable [] h)) fun _ => .returned (.done ())

instance : Turns Poll where
  watch fd i t _ := watchTurns fd i t
  unwatch fd i h := if h.facility.closed then .returned (.failed .badDescriptor) else unwatchTurns fd i
  wait b timeout h :=
    if h.facility.closed then .returned (some (.failed .badDescriptor), b.clear)
    else roundTurns b.clear timeout
  close := closeTurns

theorem alone_watchTurns (fd : Int32) (i : Interests) (t : Tag) (h : Host Poll) :
    (watchTurns fd i t).alone h = watch fd i t h := by
  unfold watchTurns watch
  by_cases hneg : fd < 0
  · simp only [if_pos hneg]
    rfl
  · simp only [if_neg hneg, Strand.alone_act]
    cases h.system (·.getFlags fd) with
    | mk valid g =>
        cases valid with
        | halted _ | failed _ => rfl
        | done _ =>
            dsimp only
            rw [Strand.alone_look]
            cases g.facility.closed with
            | true => rfl
            | false =>
                simp only [Strand.alone_act]
                cases enlist fd i t g.facility.table <;> rfl

theorem alone_unwatchTurns (fd : Int32) (i : Interests) {h : Host Poll}
    (hopen : h.facility.closed = false) : (unwatchTurns fd i).alone h = unwatch fd i h := by
  unfold unwatchTurns unwatch
  rw [if_neg (by simp [hopen]), Strand.alone_act]
  cases entry? h.facility.table fd with
  | none => rfl
  | some found =>
      dsimp only
      rw [Strand.alone_act]
      split <;> rfl

/-- How the turns of a round end. -/
def roundEnd : Round × NativeBuffer → Option (Outcome SystemError Unit) × NativeBuffer
  | (.over outcome, b) => (some outcome, b)
  | (.again, b) => (none, b)

theorem alone_concludeTurns (snapshot : List PollEntry) (b : NativeBuffer)
    (timeout : Option Duration) (outcome : Outcome SystemError (List UInt16)) (h : Host Poll) :
    (concludeTurns snapshot b timeout outcome h.facility.woken).alone h =
      (roundEnd (conclude snapshot b timeout outcome h).1,
        (conclude snapshot b timeout outcome h).2) := by
  cases outcome with
  | halted cause | failed cause => rfl
  | done results =>
      simp only [concludeTurns, conclude, ended]
      cases hwoken : h.facility.woken with
      | true =>
          rw [if_pos rfl, Strand.alone_act]
          split <;> rfl
      | false =>
          rw [if_neg Bool.false_ne_true, drain_of_quiet hwoken]
          split <;> rfl

theorem alone_round_eq (b : NativeBuffer) (timeout : Option Duration) (h : Host Poll) :
    (Turns.wait b timeout h).alone h =
      (roundEnd (Progress.alone (round b timeout h)).1, (Progress.alone (round b timeout h)).2) := by
  have hturns : Turns.wait b timeout h =
      if h.facility.closed then .returned (some (.failed .badDescriptor), b.clear)
      else roundTurns b.clear timeout := rfl
  rw [hturns]
  cases hopen : h.facility.closed with
  | true =>
      rw [round_of_closed b timeout hopen]
      rfl
  | false =>
      rw [if_neg Bool.false_ne_true, roundTurns, Strand.alone_look, alone_round b timeout hopen]
      have hasked : Kernel.poll (shown h.facility.table) (timeoutMillis timeout) h.kernel =
        (.inside (Kernel.obey .poll _), _) := rfl
      refine (Strand.alone_system hasked).trans ?_
      exact alone_concludeTurns h.facility.table b.clear timeout (ask timeout h).1 (ask timeout h).2

theorem alone_close (h : Host Poll) : closeTurns.alone h = close h := by
  rw [closeTurns, Strand.alone_act, close]
  obtain ⟨⟨table, wakeups, closed⟩, kernel, log⟩ := h
  cases closed <;> rfl

/-- The rounds that follow one in which the waker was drained. -/
theorem waits_settle {b : NativeBuffer} (timeout : Option Duration) {h : Host Poll}
    (hdrained : h.facility.wakeups = 0) :
    Turns.Waits timeout b h (settle timeout (h.facility.wakeups + 1) b h) := by
  have hround := alone_round_eq b timeout h
  cases hopen : h.facility.closed with
  | false =>
      obtain ⟨outcome, b', h', hc, hs⟩ := settle_of_drained b timeout hopen hdrained
      rw [alone_round b timeout hopen, hc] at hround
      exact hs ▸ .last hround
  | true =>
      rw [round_of_closed b timeout hopen] at hround
      have hs : settle timeout (h.facility.wakeups + 1) b h =
          ((.failed .badDescriptor, b.clear), h) := by
        rw [settle, round_of_closed b timeout hopen]
        rfl
      exact hs ▸ .last hround

instance : FaithfulTurns Poll where
  watch fd i t h := alone_watchTurns fd i t h
  unwatch fd i h := by
    have hturns : Turns.unwatch fd i h =
        if h.facility.closed then .returned (.failed .badDescriptor) else unwatchTurns fd i := rfl
    rw [hturns]
    cases hopen : h.facility.closed with
    | true => exact (congrArg (·, h) rfl).trans (if_pos hopen).symm
    | false =>
        rw [if_neg Bool.false_ne_true]
        exact alone_unwatchTurns fd i hopen
  wait b timeout h := by
    have hround := alone_round_eq b timeout h
    have hwait : Progress.alone (Facility.wait b timeout h) =
        next timeout (Progress.alone (round b timeout h)).1
          (Progress.alone (round b timeout h)).2 := Progress.alone_andThen _ _
    rw [hwait]
    cases hp : Progress.alone (round b timeout h) with
    | mk result g =>
        rw [hp] at hround
        obtain ⟨outcome | _, b₁⟩ := result
        · exact .last hround
        · have hends : Progress.Ends Eq (round b timeout h) (round b timeout h).2
              (Progress.alone (round b timeout h)).1 (Progress.alone (round b timeout h)).2 :=
            .alone _ rfl
          rw [hp] at hends
          exact .again hround (waits_settle timeout (round_again hends).1)
  close := alone_close

end Poll

end Readiness
