import Readiness.Proofs.Additions
import Readiness.Proofs.RosterRuns
import Readiness.WatchSet

/-! # Sets shared by threads

The calls of several threads on one watch set, cut into the parts between which another thread may
get its turn.

* **Moments** (`Moment`).  The set, together with the change and the poll that are in progress.  A
  *change* is an adding or a removing (`Change`).  Only the locks in the set keep a second change
  and a second poll away.
* **Parts of a call.**  A call takes its lock and finds out what it needs; it calls the facility;
  if the facility lets others run inside, it goes on later; and the call ends.  Each part is a step
  (`Moment.Step`), and each step is one of the functions that `WatchSet.add`, `WatchSet.remove` and
  `WatchSet.poll` are made of.
* **The world.**  At any time the host may change in a way that `W` allows: descriptors become
  ready, the kernel gets new verdicts, events arrive.
* **Labels** (`Label`).  A step is labelled with what it means for the records and for the facility,
  and a run (`Moment.Run`) with the labels of its steps.  Polls are numbered in the order in which
  they begin. -/

namespace Readiness

variable {β : Type} [Facility β]

/-- Adding or removing, once its record is known. -/
inductive Change where
  | adding (x : Addition)
  | removing (d : Descriptor) (i : Interests) (found : Option UInt32)
deriving DecidableEq, Repr

namespace Change

/-- What a change asks of the facility. -/
def call : Change → Host β → Progress (Host β) (Outcome SystemError Unit) × Host β
  | adding x => Facility.watch x.descriptor.fd x.interests x.tag
  | removing d i _ => Facility.unwatch d.fd i

/-- The end of a change, once the facility has answered. -/
def finish : Change → Outcome SystemError Unit → WatchSet β → WatchSet β
  | adding x, outcome, s => (s.finishAdd x.descriptor x.tag outcome).2
  | removing d _ found, outcome, s => (s.finishRemove d found outcome).2

end Change

/-- How far a call has come that calls the facility once. -/
inductive Stage (β ρ : Type) where
  /-- The facility is still to be called. -/
  | ready
  /-- The facility was called. -/
  | made (p : Progress (Host β) ρ)

/-- A poll in progress. -/
structure Polling (β : Type) where
  serial : Nat
  marker : Nat
  timeout : Option Duration
  stage : Stage β (Outcome SystemError Unit × NativeBuffer)

/-- A set with the calls in progress on it. -/
structure Moment (β : Type) where
  set : WatchSet β
  change : Option (Change × Stage β (Outcome SystemError Unit)) := none
  poll : Option (Polling β) := none
  /-- How many polls have begun. -/
  polls : Nat := 0

/-- What a step means. -/
inductive Label (β : Type) where
  | silent
  | began (c : Change)
  /-- The facility worked on a change, between two states of the host. -/
  | worked (c : Change) (before after : Host β)
  | ended (c : Change) (outcome : Outcome SystemError Unit)
  | marked (serial marker : Nat)
  | polled (serial marker : Nat) (result : Outcome SystemError Unit × NativeBuffer)
    (answer : Outcome Error Nat × List Event)
  | destroyed

namespace Label

/-- What a step does to the rings. -/
def operation? : Label β → Option RosterOperation
  | began (.adding x) => some (.allocate x.descriptor x.interests x.id)
  | ended (.adding x) (.done ()) => some (.activate x.tag)
  | ended (.adding x) (.failed _) => some (.release x.tag)
  | ended (.removing _ _ (some i)) (.done ()) => some (.retire i)
  | ended (.removing _ _ (some i)) (.failed _) => some (.retire i)
  | polled _ marker _ (.done _, _) => some (.reclaim marker)
  | polled _ marker _ (.failed _, _) => some (.reclaim marker)
  | _ => none

end Label

namespace Moment

/-- A moment follows another by one part of a call, or by a change of the host. -/
inductive Step (W : Host β → Host β → Prop) : Moment β → Label β → Moment β → Prop
  | world {m : Moment β} {host : Host β} : W m.set.host host →
      Step W m .silent { m with set := { m.set with host } }
  | refuseAdd {m : Moment β} (d : Descriptor) (i : Interests) (id : EventId)
      {outcome : Outcome Error Unit} :
      (m.set.note (.adding d i id)).beginAdd d i id = .error outcome →
      Step W m .silent { m with set := m.set.note (.adding d i id) }
  | beginAdd {m : Moment β} (d : Descriptor) (i : Interests) (id : EventId) {t : Tag}
      {s : WatchSet β} :
      (m.set.note (.adding d i id)).beginAdd d i id = .ok (t, s) →
      Step W m (.began (.adding ⟨t, d, i, id⟩))
        { m with set := s, change := some (.adding ⟨t, d, i, id⟩, .ready) }
  | refuseRemove {m : Moment β} (d : Descriptor) {cause : Halt} :
      (m.set.note (.removing d)).beginRemove d = .error cause →
      Step W m .silent { m with set := m.set.note (.removing d) }
  | beginRemove {m : Moment β} (d : Descriptor) {found : Option UInt32} {i : Interests}
      {s : WatchSet β} :
      (m.set.note (.removing d)).beginRemove d = .ok ((found, i), s) →
      Step W m (.began (.removing d i found))
        { m with set := s, change := some (.removing d i found, .ready) }
  | callChange {m : Moment β} {c : Change} {p : Progress (Host β) (Outcome SystemError Unit)}
      {host : Host β} :
      m.change = some (c, .ready) → c.call m.set.host = (p, host) →
      Step W m (.worked c m.set.host host)
        { m with set := { m.set with host }, change := some (c, .made p) }
  | resumeChange {m : Moment β} {c : Change}
      {resume : Host β → Outcome SystemError Unit × Host β} {outcome : Outcome SystemError Unit}
      {host : Host β} :
      m.change = some (c, .made (.inside resume)) → resume m.set.host = (outcome, host) →
      Step W m (.worked c m.set.host host)
        { m with set := { m.set with host }, change := some (c, .made (.returned outcome)) }
  | endChange {m : Moment β} {c : Change} {outcome : Outcome SystemError Unit} :
      m.change = some (c, .made (.returned outcome)) →
      Step W m (.ended c outcome) { m with set := c.finish outcome m.set, change := none }
  | refusePoll {m : Moment β} (timeout : Option Duration) {cause : Halt} :
      (m.set.note (.polling timeout)).beginPoll = .error cause →
      Step W m .silent { m with set := m.set.note (.polling timeout) }
  | beginPoll {m : Moment β} (timeout : Option Duration) {marker : Nat} {s : WatchSet β} :
      (m.set.note (.polling timeout)).beginPoll = .ok (marker, s) →
      Step W m (.marked m.polls marker)
        { m with set := s, poll := some ⟨m.polls, marker, timeout, .ready⟩, polls := m.polls + 1 }
  | callWait {m : Moment β} {serial marker : Nat} {timeout : Option Duration}
      {p : Progress (Host β) (Outcome SystemError Unit × NativeBuffer)} {host : Host β} :
      m.poll = some ⟨serial, marker, timeout, .ready⟩ →
      Facility.wait m.set.buffer.value timeout m.set.host = (p, host) →
      Step W m .silent
        { m with set := { m.set with host }, poll := some ⟨serial, marker, timeout, .made p⟩ }
  | resumeWait {m : Moment β} {serial marker : Nat} {timeout : Option Duration}
      {resume : Host β → (Outcome SystemError Unit × NativeBuffer) × Host β}
      {result : Outcome SystemError Unit × NativeBuffer} {host : Host β} :
      m.poll = some ⟨serial, marker, timeout, .made (.inside resume)⟩ →
      resume m.set.host = (result, host) →
      Step W m .silent
        { m with
          set := { m.set with host }
          poll := some ⟨serial, marker, timeout, .made (.returned result)⟩ }
  | endPoll {m : Moment β} {serial marker : Nat} {timeout : Option Duration}
      {result : Outcome SystemError Unit × NativeBuffer} {answer : Outcome Error Nat × List Event}
      {s : WatchSet β} :
      m.poll = some ⟨serial, marker, timeout, .made (.returned result)⟩ →
      m.set.finishPoll marker [] result = (answer, s) →
      Step W m (.polled serial marker result answer) { m with set := s, poll := none }
  | destroy {m : Moment β} : Step W m .destroyed { m with set := m.set.destroy.2 }

/-- Some steps, with their labels. -/
inductive Run (W : Host β → Host β → Prop) : Moment β → List (Label β) → Moment β → Prop
  | refl (m : Moment β) : Run W m [] m
  | step {m m₁ m₂ : Moment β} {a : Label β} {L : List (Label β)} :
      Step W m a m₁ → Run W m₁ L m₂ → Run W m (a :: L) m₂

variable {W : Host β → Host β → Prop}

theorem Run.trans {m₁ m₂ m₃ : Moment β} {L L' : List (Label β)} (h : Run W m₁ L m₂)
    (h' : Run W m₂ L' m₃) : Run W m₁ (L ++ L') m₃ := by
  induction h with
  | refl m => exact h'
  | step hs _ ih => exact .step hs (ih h')

theorem Run.single {m m' : Moment β} {a : Label β} (h : Step W m a m') : Run W m [a] m' :=
  .step h (.refl m')

/-- A run stays one if more may happen to the host. -/
theorem Run.mono {W' : Host β → Host β → Prop} (hW : ∀ h h', W h h' → W' h h') {m m' : Moment β}
    {L : List (Label β)} (h : Run W m L m') : Run W' m L m' := by
  induction h with
  | refl m => exact .refl m
  | step hs _ ih =>
      refine .step ?_ ih
      cases hs with
      | world hw => exact .world (hW _ _ hw)
      | refuseAdd d i id hr => exact .refuseAdd d i id hr
      | beginAdd d i id hb => exact .beginAdd d i id hb
      | refuseRemove d hr => exact .refuseRemove d hr
      | beginRemove d hb => exact .beginRemove d hb
      | callChange hc hp => exact .callChange hc hp
      | resumeChange hc hp => exact .resumeChange hc hp
      | endChange hc => exact .endChange hc
      | refusePoll timeout hr => exact .refusePoll timeout hr
      | beginPoll timeout hb => exact .beginPoll timeout hb
      | callWait hp hw => exact .callWait hp hw
      | resumeWait hp hw => exact .resumeWait hp hw
      | endPoll hp he => exact .endPoll hp he
      | destroy => exact .destroy

/-- The first moment of a new set. -/
def start (host : Host β) (capacity : Nat) (threadSafe : Bool) : Moment β where
  set := WatchSet.ofHost host capacity threadSafe

end Moment

end Readiness
