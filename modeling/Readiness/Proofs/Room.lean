import Readiness.Proofs.RecordsInUse

/-! # Room for all descriptors

A set takes no more descriptors than it has room for, and the buffer it waits with has the same room.

* **Records.**  The active records fit into the set, and the one that is about to be active still
  fits, whatever the facility does (`Moment.Fitting`).
* **Buffers.**  A wait fills the buffer it is given, and does not make it smaller or larger
  (`KeepsRoom`).
* **Runs** (`Moment.Roomy.run`).  The additions fit into the buffer, and the one that is in progress
  still fits. -/

namespace Readiness

/-! ### Results of calls -/

namespace Progress

variable {σ ρ γ : Type} {S : γ → Prop}

/-- What a call returns, now or later, has a property. -/
def Yields (R : ρ → Prop) : Progress σ ρ → Prop
  | returned r => R r
  | inside resume => ∀ t, R (resume t).1

theorem Yields.alone {R : ρ → Prop} {p : Progress σ ρ × σ} (h : p.1.Yields R) :
    R (Progress.alone p).1 := by
  obtain ⟨r | resume, s⟩ := p
  · exact h
  · exact h s

theorem Yields.andThen {R : ρ → Prop} {p : Progress σ ρ × σ} (h : p.1.Yields R)
    {k : ρ → σ → γ × σ} (hk : ∀ r s, R r → S (k r s).1) : (Progress.andThen k p).1.Yields S := by
  obtain ⟨r | resume, s⟩ := p
  · exact hk r s h
  · exact fun t => hk _ _ (h t)

/-- A system call yields what its continuation yields. -/
theorem yields_systemWithin {β : Type} {call : Kernel → Progress Kernel ρ × Kernel}
    {k : ρ → Host β → γ × Host β} (hk : ∀ r g, S (k r g).1) (h : Host β) :
    (Host.systemWithin call k h).1.Yields S := by
  unfold Host.systemWithin Progress.within
  cases call h.kernel with
  | mk p t =>
      cases p with
      | returned r => exact hk r _
      | inside resume => exact fun u => hk _ _

end Progress

/-- A wait returns the buffer with the room it had. -/
def KeepsRoom (β : Type) [Facility β] : Prop :=
  ∀ (b : NativeBuffer) (timeout : Option Duration) (h : Host β),
    (Facility.wait b timeout h).1.Yields fun r => r.2.capacity = b.capacity

/-! ### Rings -/

theorem Roster.Refines.length_added {roster : Roster} {l : RosterLists} (h : roster.Refines l) :
    roster.added.length = roster.active.len := by
  rw [h.added_eq, h.active.len, List.length_filterMap_eq_countP, List.countP_eq_length]
  intro i hi
  obtain ⟨x, hx⟩ := h.isSome_addition? (i := i) (by simp [RosterLists.all, hi])
  rw [hx]
  rfl

/-! ### Parts of calls -/

namespace WatchSet

variable {β : Type}

@[simp] theorem capacity_destroy [Facility β] (s : WatchSet β) :
    s.destroy.2.capacity = s.capacity := by
  rw [WatchSet.destroy]
  split
  · rfl
  · dsimp only
    split <;> rfl

theorem capacity_foldl_note {α : Type} (entry : α → LogEntry) (l : List α) (s : WatchSet β) :
    (l.foldl (fun s a => s.note (entry a)) s).capacity = s.capacity := by
  induction l generalizing s with
  | nil => rfl
  | cons a rest ih => exact ih (s.note (entry a))

theorem capacity_finishPoll (marker : Nat) (events : List Event)
    (result : Outcome SystemError Unit × NativeBuffer) (s : WatchSet β) :
    (s.finishPoll marker events result).2.capacity = s.capacity := by
  obtain ⟨outcome, b⟩ := result
  unfold WatchSet.finishPoll
  dsimp only
  split
  · rfl
  · rfl
  · exact capacity_foldl_note ..

end WatchSet

theorem Change.capacity_finish {β : Type} (c : Change) (outcome : Outcome SystemError Unit)
    (s : WatchSet β) : (c.finish outcome s).capacity = s.capacity := by
  cases c with
  | adding x => cases outcome <;> rfl
  | removing d i found => cases outcome <;> cases found <;> rfl

/-! ### Runs -/

namespace Moment

variable {β : Type} {capacity : Nat} {m m' : Moment β} {a : Label β} {l : RosterLists}

/-- The active records and the one that is about to be active fit into the set. -/
def Fitting (capacity : Nat) (m : Moment β) : Prop :=
  m.set.capacity = capacity ∧ m.roster.stats.active + m.taken.toList.length ≤ capacity

/-- A set with room for the active records has room for the additions, and for the one in
progress. -/
theorem Shows.fitting_iff (hm : m.Shows l) : m.Fitting capacity ↔
    m.set.capacity = capacity ∧ m.roster.added.length ≤ capacity ∧
      ∀ x stage, m.change = some (.adding x, stage) → m.roster.added.length < capacity := by
  have hactive : m.roster.stats.active = m.roster.added.length := hm.refines.length_added.symm
  rw [Fitting, hactive, taken]
  refine and_congr_right fun _ => ?_
  cases m.change with
  | none =>
      refine ⟨fun h => ⟨h, ?_⟩, And.left⟩
      rintro x stage ⟨⟩
  | some change =>
      obtain ⟨c, stage⟩ := change
      cases c with
      | adding x => exact ⟨fun h => ⟨Nat.le_of_lt h, fun _ _ _ => h⟩, fun h => h.2 x stage rfl⟩
      | removing d i found =>
          refine ⟨fun h => ⟨h, ?_⟩, And.left⟩
          rintro x stage ⟨⟩

/-- The additions fit, and so does the one in progress. -/
structure Roomy (capacity : Nat) (m : Moment β) : Prop where
  set : m.set.capacity = capacity
  buffer : m.set.buffer.value.capacity = capacity
  added : m.roster.added.length ≤ capacity
  adding : ∀ x stage, m.change = some (.adding x, stage) → m.roster.added.length < capacity
  poll : ∀ p r, m.poll = some p → p.stage = .made r → r.Yields fun r => r.2.capacity = capacity

theorem roomy_start (host : Host β) (capacity : Nat) (threadSafe : Bool) :
    (start host capacity threadSafe).Roomy capacity :=
  ⟨rfl, rfl, Nat.zero_le _, nofun, nofun⟩

variable [Facility β] {W : Host β → Host β → Prop} {L : List (Label β)}

/-- The capacity of a set never changes. -/
theorem Step.capacity_eq (hs : Step W m a m') : m'.set.capacity = m.set.capacity := by
  cases hs with
  | beginAdd d i id hb =>
      obtain ⟨-, -, -, roster, -, rfl⟩ := WatchSet.beginAdd_eq_ok hb
      rfl
  | beginRemove d hb =>
      obtain ⟨-, -, -, rfl⟩ := WatchSet.beginRemove_eq_ok hb
      rfl
  | beginPoll timeout hb =>
      obtain ⟨-, -, -, rfl⟩ := WatchSet.beginPoll_eq_ok hb
      rfl
  | endChange hc => exact Change.capacity_finish ..
  | endPoll hp he =>
      exact (congrArg (·.2.capacity) he).symm.trans (WatchSet.capacity_finishPoll ..)
  | destroy => exact WatchSet.capacity_destroy _
  | _ => rfl

theorem Fitting.step (hm : m.Shows l) (h : m.Fitting capacity) (hs : Step W m a m') :
    m'.Fitting capacity := by
  obtain ⟨l', hstep, hhandles⟩ := hm.handles hs.moves
  obtain ⟨hset, hfits⟩ := h
  refine ⟨hs.capacity_eq.trans hset, ?_⟩
  have hactive : m.roster.stats.active = l.active.length := hm.refines.active.len
  have hactive' : m'.roster.stats.active = l'.active.length := hstep.shows.refines.active.len
  rw [hactive] at hfits
  rw [hactive']
  cases hhandles with
  | kept htaken hlost houtside hle =>
      rw [htaken]
      omega
  | took i htaken htaken' hlost houtside hsame hroom =>
      rw [htaken', hsame]
      exact hset ▸ hroom
  | gave i htaken htaken' hlost houtside hle =>
      rw [htaken] at hfits
      rw [htaken']
      exact Nat.le_trans hle hfits
  | gaveUp i htaken htaken' hlost houtside hsame =>
      rw [htaken', hsame]
      exact Nat.le_trans (Nat.le_add_right ..) hfits

theorem Fitting.run (hm : m.Shows l) (h : m.Fitting capacity) (hr : Run W m L m') :
    m'.Fitting capacity := by
  induction hr generalizing l with
  | refl m => exact h
  | step hs _ ih =>
      obtain ⟨l', hstep⟩ := hm.step hs
      exact ih hstep.shows (h.step hm hs)

theorem Roomy.step (hwait : KeepsRoom β) (hm : m.Shows l) (h : m.Roomy capacity)
    (hs : Step W m a m') : m'.Roomy capacity := by
  obtain ⟨l', hstep⟩ := hm.step hs
  have hfits : m.Fitting capacity := hm.fitting_iff.mpr ⟨h.set, h.added, h.adding⟩
  obtain ⟨hset, hadded, hadding⟩ := hstep.shows.fitting_iff.mp (hfits.step hm hs)
  -- what is left to say is about the buffer, and about the wait that will return it
  suffices hrest : m'.set.buffer.value.capacity = capacity ∧ ∀ p r, m'.poll = some p →
      p.stage = .made r → r.Yields fun r => r.2.capacity = capacity from
    ⟨hset, hrest.1, hadded, hadding, hrest.2⟩
  clear hset hadded hadding hfits hstep
  cases hs with
  | world | refuseAdd | refuseRemove | refusePoll | callChange | resumeChange =>
      exact ⟨h.buffer, h.poll⟩
  | beginAdd d i id hb =>
      obtain ⟨-, -, -, roster, -, rfl⟩ := WatchSet.beginAdd_eq_ok hb
      exact ⟨h.buffer, h.poll⟩
  | beginRemove d hb =>
      obtain ⟨-, -, -, rfl⟩ := WatchSet.beginRemove_eq_ok hb
      exact ⟨h.buffer, h.poll⟩
  | endChange hc =>
      refine ⟨?_, h.poll⟩
      dsimp only
      rw [Change.buffer_finish]
      exact h.buffer
  | beginPoll timeout hb =>
      obtain ⟨-, -, -, rfl⟩ := WatchSet.beginPoll_eq_ok hb
      refine ⟨h.buffer, ?_⟩
      rintro p r ⟨⟩ ⟨⟩
  | @callWait serial marker timeout p host hp hw =>
      refine ⟨h.buffer, ?_⟩
      rintro p' r ⟨⟩ ⟨⟩
      have := hwait m.set.buffer.value timeout m.set.host
      rwa [hw, h.buffer] at this
  | resumeWait hp hw =>
      refine ⟨h.buffer, ?_⟩
      rintro p' r ⟨⟩ ⟨⟩
      have := h.poll _ _ hp rfl m.set.host
      rwa [hw] at this
  | endPoll hp he =>
      refine ⟨?_, nofun⟩
      dsimp only
      rw [(WatchSet.finishPoll_eq he).2.1]
      exact h.poll _ _ hp rfl
  | destroy =>
      refine ⟨?_, h.poll⟩
      dsimp only
      rw [WatchSet.buffer_destroy]
      exact h.buffer

theorem Roomy.run (hwait : KeepsRoom β) (hm : m.Shows l) (h : m.Roomy capacity)
    (hr : Run W m L m') : m'.Roomy capacity := by
  induction hr generalizing l with
  | refl m => exact h
  | step hs _ ih =>
      obtain ⟨l', hstep⟩ := hm.step hs
      exact ih hstep.shows (h.step hwait hm hs)

end Moment

end Readiness
