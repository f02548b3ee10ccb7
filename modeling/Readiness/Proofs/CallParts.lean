import Readiness.Proofs.Moments

/-! # What the parts of a call do to a set

One lemma for each part: when it is possible at all, and what the locks, the rings, the kernel and
the facility are afterwards.  Nothing else is used of the parts later on. -/

namespace Readiness

variable {β : Type}

/-- The call was given up. -/
def Outcome.isHalted {ε α : Type} : Outcome ε α → Bool
  | halted _ => true
  | _ => false

namespace Lock

/-- What becomes of a caller who needs a lock that is held. -/
def conflict {α : Type} (l : Lock α) : Halt := if l.threadSafe then .deadlock else .concurrentUse

theorem acquire_of_held {α : Type} {l : Lock α} (h : l.held = true) :
    l.acquire = .error l.conflict := if_pos h

/-- The lock is held, and nobody waits for it. -/
structure Refusing {α : Type} (l : Lock α) : Prop where
  held : l.held = true
  single : l.threadSafe = false

theorem Refusing.conflict {α : Type} {l : Lock α} (h : l.Refusing) :
    l.conflict = .concurrentUse := by
  simp [Lock.conflict, h.single]

end Lock

namespace WatchSet

variable {s s' : WatchSet β} {d : Descriptor} {i : Interests} {id : EventId} {t : Tag}

/-- What the facility and the kernel are, apart from the log. -/
def native (s : WatchSet β) : β × Kernel := (s.host.facility, s.host.kernel)

theorem host_of_native (h : s'.native = s.native) :
    s'.host.facility = s.host.facility ∧ s'.host.kernel = s.host.kernel := Prod.mk.inj h

/-- A call that calls the facility once, with nobody else around. -/
theorem alone_within {ρ γ : Type} (call : Host β → Progress (Host β) ρ × Host β)
    (k : ρ → WatchSet β → γ × WatchSet β) (s : WatchSet β) :
    Progress.alone (s.within call k) =
      k (Progress.alone (call s.host)).1 { s with host := (Progress.alone (call s.host)).2 } :=
  Progress.alone_within (fun s : WatchSet β => s.host) (fun host s => { s with host })
    (fun _ _ => rfl) (fun _ _ _ => rfl) call k s

/-! ### Starts -/

theorem accept_eq_ok {roster roster' : Roster} {capacity : Nat}
    (h : roster.accept capacity d i id = .ok (t, roster')) :
    roster.find? d = none ∧ roster.active.len < capacity ∧
      roster.allocate d i id = some (t, roster') := by
  unfold Roster.accept at h
  split at h
  · cases h
  · rename_i hnew
    split at h
    · cases h
    · rename_i hroom
      split at h
      · cases h
      · rename_i accepted ha
        obtain rfl := Except.ok.inj h
        exact ⟨by simpa using hnew, Nat.lt_of_not_le hroom, ha⟩

/-- A descriptor that is active is refused. -/
theorem accept_of_found {roster : Roster} {capacity : Nat} (h : (roster.find? d).isSome) :
    roster.accept capacity d i id = .error .alreadyExists := if_pos h

/-- A descriptor that would be one too many is refused. -/
theorem accept_of_full {roster : Roster} {capacity : Nat} (hnew : roster.find? d = none)
    (hfull : capacity ≤ roster.active.len) :
    roster.accept capacity d i id = .error .noSpace := by
  simp [Roster.accept, hnew, hfull]

/-- A descriptor for which no record is left is refused. -/
theorem accept_of_none {roster : Roster} {capacity : Nat} (hnew : roster.find? d = none)
    (hnone : roster.allocate d i id = none) : roster.accept capacity d i id = .error .noSpace := by
  simp [Roster.accept, hnew, hnone]

/-- Any other descriptor is accepted, with the record that allocating takes. -/
theorem accept_of_some {roster roster' : Roster} {capacity : Nat} (hnew : roster.find? d = none)
    (hroom : roster.active.len < capacity) (ha : roster.allocate d i id = some (t, roster')) :
    roster.accept capacity d i id = .ok (t, roster') := by
  simp [Roster.accept, hnew, Nat.not_le.mpr hroom, ha]

theorem beginAdd_eq_ok (h : s.beginAdd d i id = .ok (t, s')) :
    s.roster.held = false ∧ s.roster.value.find? d = none ∧
      s.roster.value.active.len < s.capacity ∧
      ∃ roster, s.roster.value.allocate d i id = some (t, roster) ∧
        s' = { s with roster := { s.roster with value := roster, held := true } } := by
  unfold WatchSet.beginAdd at h
  split at h
  · cases h
  · rename_i lock hlock
    obtain ⟨hfree, rfl⟩ := Lock.acquire_eq_ok_iff.mp hlock
    split at h
    · cases h
    · rename_i t' roster haccept
      obtain ⟨rfl, rfl⟩ := Prod.mk.inj (Except.ok.inj h)
      obtain ⟨hnew, hroom, ha⟩ := accept_eq_ok haccept
      exact ⟨hfree, hnew, hroom, roster, ha, rfl⟩

theorem beginRemove_eq_ok {found : Option UInt32}
    (h : s.beginRemove d = .ok ((found, i), s')) :
    s.roster.held = false ∧ s.roster.value.find? d = found ∧
      interestsOf s.roster.value found = i ∧
      s' = { s with roster := { s.roster with held := true } } := by
  unfold WatchSet.beginRemove at h
  split at h
  · cases h
  · rename_i lock hlock
    obtain ⟨hfree, rfl⟩ := Lock.acquire_eq_ok_iff.mp hlock
    obtain ⟨hfound, rfl⟩ := Prod.mk.inj (Except.ok.inj h)
    obtain ⟨rfl, rfl⟩ := Prod.mk.inj hfound
    exact ⟨hfree, rfl, rfl, rfl⟩

theorem beginPoll_eq_ok {marker : Nat} (h : s.beginPoll = .ok (marker, s')) :
    s.buffer.held = false ∧ s.roster.held = false ∧ s.roster.value.retired = marker ∧
      s' = { s with buffer := { s.buffer with held := true } } := by
  unfold WatchSet.beginPoll at h
  split at h
  · cases h
  · rename_i buffer hbuffer
    obtain ⟨hfree, rfl⟩ := Lock.acquire_eq_ok_iff.mp hbuffer
    split at h
    · cases h
    · rename_i roster hread
      obtain ⟨lock, hlock, rfl⟩ : ∃ lock, s.roster.acquire = .ok lock ∧ lock.value = roster := by
        unfold Lock.read at hread
        cases hlock : s.roster.acquire with
        | error cause => rw [hlock] at hread; cases hread
        | ok lock => rw [hlock] at hread; exact ⟨lock, rfl, Except.ok.inj hread⟩
      obtain ⟨hroster, rfl⟩ := Lock.acquire_eq_ok_iff.mp hlock
      obtain ⟨rfl, rfl⟩ := Prod.mk.inj (Except.ok.inj h)
      exact ⟨hfree, hroster, rfl, rfl⟩

/-! ### Ends -/

@[simp] theorem roster_destroy [Facility β] (s : WatchSet β) :
    s.destroy.2.roster = s.roster := by
  rw [WatchSet.destroy]
  split
  · rfl
  · dsimp only
    split <;> rfl

@[simp] theorem buffer_destroy [Facility β] (s : WatchSet β) :
    s.destroy.2.buffer = s.buffer := by
  rw [WatchSet.destroy]
  split
  · rfl
  · dsimp only
    split <;> rfl

/-- Writing some lines to the log changes nothing else. -/
theorem foldl_note {α : Type} (entry : α → LogEntry) (l : List α) (s : WatchSet β) :
    (l.foldl (fun s a => s.note (entry a)) s).native = s.native ∧
      (l.foldl (fun s a => s.note (entry a)) s).roster = s.roster ∧
      (l.foldl (fun s a => s.note (entry a)) s).buffer = s.buffer := by
  induction l generalizing s with
  | nil => exact ⟨rfl, rfl, rfl⟩
  | cons a rest ih => exact ih (s.note (entry a))

end WatchSet

/-- What a change does to the rings when it ends. -/
def Change.settle : Change → Outcome SystemError Unit → Roster → Roster
  | _, .halted _, roster => roster
  | .adding x, .done (), roster => roster.activate x.tag
  | .adding x, .failed _, roster => roster.release x.tag
  | .removing _ _ (some i), _, roster => roster.retire i
  | .removing _ _ none, _, roster => roster

namespace Change

theorem roster_finish (c : Change) (outcome : Outcome SystemError Unit) (s : WatchSet β) :
    (c.finish outcome s).roster = s.roster.release (c.settle outcome s.roster.value) := by
  cases c with
  | adding x => cases outcome <;> rfl
  | removing d i found => cases outcome <;> cases found <;> rfl

theorem buffer_finish (c : Change) (outcome : Outcome SystemError Unit) (s : WatchSet β) :
    (c.finish outcome s).buffer = s.buffer := by
  cases c with
  | adding x => cases outcome <;> rfl
  | removing d i found => cases outcome <;> cases found <;> rfl

theorem native_finish (c : Change) (outcome : Outcome SystemError Unit) (s : WatchSet β) :
    (c.finish outcome s).native = s.native := by
  cases c with
  | adding x => cases outcome <;> rfl
  | removing d i found => cases outcome <;> cases found <;> rfl

end Change

namespace WatchSet

/-- The end of a poll frees the buffer.  If the poll is given up it leaves the rings alone, and
otherwise it notes the readiness of the events it looked at and reclaims. -/
theorem finishPoll_eq {s s' : WatchSet β} {marker : Nat} {events : List Event}
    {result : Outcome SystemError Unit × NativeBuffer} {answer : Outcome Error Nat × List Event}
    (h : s.finishPoll marker events result = (answer, s')) :
    s'.native = s.native ∧ s'.buffer = s.buffer.release result.2 ∧
      (answer.1.isHalted = true ∧ s'.roster = s.roster ∧ answer.2 = events ∨
        answer.1.isHalted = false ∧ s.roster.held = false ∧
          s'.roster = s.roster.release
            (((considered result.2 result.1).foldl Roster.noteReadiness s.roster.value).reclaim
              marker) ∧
          answer.2 = events ++ (WatchSet.answer s.roster.value result.2 result.1).2) := by
  obtain ⟨outcome, b⟩ := result
  cases hlock : s.roster.acquire with
  | error cause =>
      cases outcome <;>
        · simp only [WatchSet.finishPoll, hlock] at h
          obtain ⟨rfl, rfl⟩ := Prod.mk.inj h
          exact ⟨rfl, rfl, .inl ⟨rfl, rfl, rfl⟩⟩
  | ok lock =>
      obtain ⟨hfree, rfl⟩ := Lock.acquire_eq_ok_iff.mp hlock
      have hnotes := foldl_note (fun e : NativeEvent => .staleTag e.tag)
        ((considered b outcome).filter s.roster.value.isStale)
        { s with buffer := s.buffer.release b }
      cases outcome with
      | halted cause =>
          simp only [WatchSet.finishPoll] at h
          obtain ⟨rfl, rfl⟩ := Prod.mk.inj h
          exact ⟨rfl, rfl, .inl ⟨rfl, rfl, rfl⟩⟩
      | failed cause =>
          simp only [WatchSet.finishPoll, hlock] at h
          obtain ⟨rfl, rfl⟩ := Prod.mk.inj h
          exact ⟨rfl, rfl, .inr ⟨rfl, hfree, rfl, rfl⟩⟩
      | done value =>
          simp only [WatchSet.finishPoll, hlock] at h
          obtain ⟨rfl, rfl⟩ := Prod.mk.inj h
          refine ⟨hnotes.1, hnotes.2.2, .inr ⟨?_, hfree, ?_, rfl⟩⟩
          · simp only [WatchSet.answer]
            split <;> rfl
          · simp only [WatchSet.releaseRoster, hnotes.2.1]

/-- A poll that is not given up reports the events for what it looked at. -/
theorem finishPoll_events {s s' : WatchSet β} {marker : Nat}
    {result : Outcome SystemError Unit × NativeBuffer} {answer : Outcome Error Nat × List Event}
    (h : s.finishPoll marker [] result = (answer, s')) (hanswer : answer.1.isHalted = false) :
    answer.2 = (considered result.2 result.1).filterMap s.roster.value.event? := by
  obtain ⟨-, -, hrest⟩ := finishPoll_eq h
  rcases hrest with ⟨hhalt, -⟩ | ⟨-, -, -, hevents⟩
  · cases hhalt.symm.trans hanswer
  · obtain ⟨outcome, b⟩ := result
    rw [hevents, List.nil_append]
    cases outcome with
    | failed _ | halted _ => rfl
    | done value =>
        by_cases hempty : b.isEmpty = true
        · have hlen : b.len = 0 := by simpa [NativeBuffer.isEmpty] using hempty
          simp [WatchSet.answer, WatchSet.considered, NativeBuffer.reported, NativeBuffer.leading,
            hempty, hlen]
        · simp [WatchSet.answer, WatchSet.considered, hempty]

/-- A poll reports what its buffer held, and nothing without the lock on the rings. -/
theorem mem_finishPoll {s s' : WatchSet β} {marker : Nat}
    {result : Outcome SystemError Unit × NativeBuffer} {answer : Outcome Error Nat × List Event}
    (h : s.finishPoll marker [] result = (answer, s')) {event : Event} (he : event ∈ answer.2) :
    s.roster.held = false ∧
      ∃ e ∈ result.2.reported, s.roster.value.event? e = some event := by
  obtain ⟨-, -, ⟨-, -, hnone⟩ | ⟨hanswer, hfree, -⟩⟩ := finishPoll_eq h
  · rw [hnone] at he
    cases he
  · rw [finishPoll_events h hanswer] at he
    obtain ⟨e, hmem, hevent⟩ := List.mem_filterMap.mp he
    refine ⟨hfree, e, ?_, hevent⟩
    obtain ⟨outcome, b⟩ := result
    cases outcome with
    | done value => exact hmem
    | failed _ | halted _ => cases hmem

end WatchSet

end Readiness
