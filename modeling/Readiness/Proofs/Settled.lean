import Readiness.Proofs.LonePolls
import Readiness.Proofs.Room
import Readiness.Proofs.ScenarioRuns

/-! # Sets at rest

* **At rest** (`WatchSet.Settled`).  No call is in progress on the set.  New sets are at rest, and
  every step of a scenario ends at rest, because it is a run.
* **Whole calls** (`WatchSet.add_of_error`, `WatchSet.add_of_ok`, `WatchSet.remove_of_free`).  A call
  that finds the lock on the rings free is refused at once, or it is one call of the facility and
  the end of the change.
* **Calls alone** (`WatchSet.alone_add`, `WatchSet.alone_remove`).  With nobody else around, such a
  call ends with the answer.
* **Steps alone.**  On a set at rest no step waits for a lock (`WatchSet.Settled.blocks`). -/

namespace Readiness

open Moment

variable {β : Type}

namespace WatchSet

/-- The moment at which no call is in progress on a set. -/
def atRest (s : WatchSet β) : Moment β where
  set := s

/-- The set while a change holds the lock on the rings. -/
def locked (s : WatchSet β) (roster : Roster) : WatchSet β :=
  { s with roster := { s.roster with value := roster, held := true } }

/-- A set is as a run leaves it, and no call is in progress. -/
structure Settled (s : WatchSet β) : Prop where
  shows : ∃ l, s.atRest.Shows l
  roomy : s.atRest.Roomy s.capacity

variable {s s' : WatchSet β} {d : Descriptor} {i : Interests} {id : EventId}

theorem settled_ofHost (host : Host β) (capacity : Nat) (threadSafe : Bool) :
    (ofHost host capacity threadSafe).Settled :=
  ⟨⟨{}, shows_start host capacity threadSafe⟩, roomy_start host capacity threadSafe⟩

theorem Settled.roster_held (hs : s.Settled) : s.roster.held = false := by
  obtain ⟨l, hm⟩ := hs.shows
  exact hm.roster_held

theorem Settled.buffer_held (hs : s.Settled) : s.buffer.held = false := by
  obtain ⟨l, hm⟩ := hs.shows
  exact hm.buffer_held

theorem Settled.distinct (hs : s.Settled) :
    (s.roster.value.added.map (·.descriptor.fd)).Nodup := by
  obtain ⟨l, hm⟩ := hs.shows
  exact hm.distinct

theorem Settled.record (hs : s.Settled) :
    ∀ x ∈ s.roster.value.added, s.roster.value.addition? x.tag.index = some x := by
  obtain ⟨l, hm⟩ := hs.shows
  exact fun x hx => (hm.refines.mem_added_iff.mp hx).2

/-- On a set at rest no step waits for a lock. -/
theorem Settled.blocks (hs : s.Settled) (kind : StepKind) : kind.blocks s = false := by
  cases kind <;> simp [StepKind.blocks, hs.roster_held, hs.buffer_held]

theorem destroyed_foldl_note {α : Type} (entry : α → LogEntry) (l : List α) (s : WatchSet β) :
    (l.foldl (fun s a => s.note (entry a)) s).destroyed = s.destroyed := by
  induction l generalizing s with
  | nil => rfl
  | cons a rest ih => exact ih (s.note (entry a))

theorem destroyed_finishPoll (marker : Nat) (events : List Event)
    (result : Outcome SystemError Unit × NativeBuffer) (s : WatchSet β) :
    (s.finishPoll marker events result).2.destroyed = s.destroyed := by
  obtain ⟨outcome, b⟩ := result
  unfold WatchSet.finishPoll
  dsimp only
  split
  · rfl
  · rfl
  · exact destroyed_foldl_note ..

/-! ### Starts -/

theorem beginAdd_of_accept (hfree : s.roster.held = false) {t : Tag} {roster : Roster}
    (h : s.roster.value.accept s.capacity d i id = .ok (t, roster)) :
    (s.note (.adding d i id)).beginAdd d i id =
      .ok (t, (s.note (.adding d i id)).locked roster) := by
  simp [beginAdd, note, locked, Lock.acquire, hfree, h]

theorem beginRemove_of_free (hfree : s.roster.held = false) :
    (s.note (.removing d)).beginRemove d = .ok ((s.roster.value.find? d,
      interestsOf s.roster.value (s.roster.value.find? d)),
      (s.note (.removing d)).locked s.roster.value) := by
  simp [beginRemove, note, locked, Lock.acquire, hfree]

/-! ### Answers -/

/-- Adding answers what the facility answered, and its error is wrapped. -/
theorem finishAdd_fst (d : Descriptor) (t : Tag) (outcome : Outcome SystemError Unit)
    (s : WatchSet β) : (finishAdd d t outcome s).1 = outcome.mapError .rejected := by
  cases outcome <;> rfl

/-- Unless the facility gives up, removing answers whether there was a record, whatever the facility
answered. -/
theorem finishRemove_fst {outcome : Outcome SystemError Unit} (hgoes : outcome.isHalted = false)
    (d : Descriptor) (found : Option UInt32) (s : WatchSet β) :
    (finishRemove d found outcome s).1 = .done found.isSome := by
  cases outcome with
  | done _ | failed _ => cases found <;> rfl
  | halted cause => cases hgoes

variable [Facility β]

/-! ### Runs -/

theorem Settled.of_run {W : Host β → Host β → Prop} (hroom : KeepsRoom β) (hs : s.Settled)
    {L : List (Label β)} {m : Moment β} (hr : Run W s.atRest L m) (hchange : m.change = none)
    (hpoll : m.poll = none) : m.set.Settled ∧ m.set.capacity = s.capacity := by
  obtain ⟨l, hm⟩ := hs.shows
  obtain ⟨l', hm', -⟩ := hm.run hr
  have hroomy := hs.roomy.run hroom hm hr
  refine ⟨⟨⟨l', hm'.refines, ?_, ?_, nofun, hm'.distinct, nofun⟩, rfl, ?_, ?_, nofun, nofun⟩,
    hroomy.set⟩
  · rw [show m.set.atRest.set.roster.held = m.set.roster.held from rfl, hm'.roster_held, hchange]
    rfl
  · rw [show m.set.atRest.set.buffer.held = m.set.buffer.held from rfl, hm'.buffer_held, hpoll]
    rfl
  · exact hroomy.buffer.trans hroomy.set.symm
  · exact Nat.le_trans hroomy.added (Nat.le_of_eq hroomy.set.symm)

/-- Every step of a scenario ends at rest, with the same capacity. -/
theorem Settled.step {γ : Type} [Stimulated β γ] (hroom : KeepsRoom β) (hs : s.Settled)
    (step : SetStep γ) : (step.run s).2.Settled ∧ (step.run s).2.capacity = s.capacity := by
  obtain ⟨l, hm⟩ := hs.shows
  obtain ⟨L, m, hr, hset, hchange, hpoll⟩ := realized_run step s.atRest l hm
  rw [show (step.run s).2 = m.set from hset.symm]
  exact hs.of_run hroom hr hchange hpoll

/-! ### Whole calls -/

/-- Adding is refused before the facility is called. -/
theorem add_of_error (hfree : s.roster.held = false) {cause : SystemError}
    (h : s.roster.value.accept s.capacity d i id = .error cause) :
    s.add d i id = (.returned (.failed (.rejected cause)), s.note (.adding d i id)) := by
  have hbegin : (s.note (.adding d i id)).beginAdd d i id =
      .error (.failed (.rejected cause)) := by
    simp [beginAdd, note, Lock.acquire, hfree, h]
  simp only [add, hbegin]

/-- Adding with a record is one call of the facility and the end of the change. -/
theorem add_of_ok (hfree : s.roster.held = false) {t : Tag} {roster : Roster}
    (h : s.roster.value.accept s.capacity d i id = .ok (t, roster)) :
    s.add d i id =
      ((s.note (.adding d i id)).locked roster).within (Facility.watch d.fd i t)
        (finishAdd d t) := by
  simp only [add, beginAdd_of_accept hfree h]

/-- Removing is one call of the facility and the end of the change. -/
theorem remove_of_free (hfree : s.roster.held = false) :
    s.remove d =
      ((s.note (.removing d)).locked s.roster.value).within
        (Facility.unwatch d.fd (interestsOf s.roster.value (s.roster.value.find? d)))
        (finishRemove d (s.roster.value.find? d)) := by
  simp only [remove, beginRemove_of_free hfree]

/-! ### Calls alone -/

/-- Adding is refused before the facility is called. -/
theorem alone_add_of_error (hfree : s.roster.held = false) {cause : SystemError}
    (h : s.roster.value.accept s.capacity d i id = .error cause) :
    Progress.alone (s.add d i id) = (.failed (.rejected cause), s.note (.adding d i id)) := by
  rw [add_of_error hfree h]
  rfl

/-- Adding with a record calls the facility and ends with what it answers. -/
theorem alone_add (hfree : s.roster.held = false) {t : Tag} {roster : Roster}
    (h : s.roster.value.accept s.capacity d i id = .ok (t, roster))
    {outcome : Outcome SystemError Unit} {host : Host β}
    (hcall : Facility.watch d.fd i t (s.host.note (.adding d i id)) = (.returned outcome, host)) :
    Progress.alone (s.add d i id) = finishAdd d t outcome { s.locked roster with host } := by
  rw [add_of_ok hfree h, within, Progress.within]
  rw [show ((s.note (.adding d i id)).locked roster).host = s.host.note (.adding d i id) from rfl,
    hcall]
  rfl

/-- Removing calls the facility and ends with what it answers. -/
theorem alone_remove {found : Option UInt32}
    (hbegin : (s.note (.removing d)).beginRemove d =
      .ok ((found, i), (s.note (.removing d)).locked s.roster.value))
    {outcome : Outcome SystemError Unit} {host : Host β}
    (hcall : Facility.unwatch d.fd i (s.host.note (.removing d)) = (.returned outcome, host)) :
    Progress.alone (s.remove d) =
      finishRemove d found outcome { s.locked s.roster.value with host } := by
  simp only [remove, hbegin, within, Progress.within]
  rw [show ((s.note (.removing d)).locked s.roster.value).host = s.host.note (.removing d) from rfl,
    hcall]
  rfl

end WatchSet

theorem Change.destroyed_finish (c : Change) (outcome : Outcome SystemError Unit)
    (s : WatchSet β) : (c.finish outcome s).destroyed = s.destroyed := by
  cases c with
  | adding x => cases outcome <;> rfl
  | removing d i found => cases outcome <;> cases found <;> rfl

end Readiness
