import Readiness.Proofs.LogBlind
import Readiness.Proofs.Settled

/-! # Sets that differ in the log

The calls of a set do not read the log, and those that add or remove do not read the buffer.

* **Alike** (`WatchSet.Alike`).  Two sets are alike if they differ in the log at most.
* **Parts.**  Each part of a call does the same to sets that are alike, if the facility does not
  read the log (`WatchSet.blind_within`, `WatchSet.blind_finishPoll`).
* **Changes** (`WatchSet.IsChange`).  Adding and removing are of one form, and how far they get is
  decided by the rings.
* **Polls** (`WatchSet.blind_poll`) go by both locks. -/

namespace Readiness

variable {β ρ γ : Type}

/-! ### Sets that are alike -/

namespace WatchSet

/-- Two sets differ in the log at most. -/
def Alike (s s' : WatchSet β) : Prop := ∃ log, s' = { s with host := { s.host with log } }

theorem Alike.refl (s : WatchSet β) : s.Alike s := ⟨s.host.log, rfl⟩

theorem Alike.trans {s s' s'' : WatchSet β} (hl : s.Alike s') (hl' : s'.Alike s'') :
    s.Alike s'' := by
  obtain ⟨log, rfl⟩ := hl
  obtain ⟨log', rfl⟩ := hl'
  exact ⟨log', rfl⟩

theorem alike_note (s : WatchSet β) (entry : LogEntry) : s.Alike (s.note entry) := ⟨_, rfl⟩

/-- Whatever is written to either log, sets that are alike stay so. -/
theorem Alike.note {s s' : WatchSet β} (hl : s.Alike s') (entry : LogEntry) :
    (s.note entry).Alike (s'.note entry) := by
  obtain ⟨log, rfl⟩ := hl
  exact ⟨_, rfl⟩

/-- Write some lines to the log. -/
def notes (entries : List LogEntry) (s : WatchSet β) : WatchSet β := entries.foldl note s

theorem notes_append (entries entries' : List LogEntry) (s : WatchSet β) :
    s.notes (entries ++ entries') = (s.notes entries).notes entries' := List.foldl_append

theorem alike_notes (entries : List LogEntry) (s : WatchSet β) : s.Alike (s.notes entries) := by
  induction entries generalizing s with
  | nil => exact .refl s
  | cons entry rest ih => exact (alike_note s entry).trans (ih (s.note entry))

theorem Alike.foldl_note {α : Type} (entry : α → LogEntry) (l : List α) {s s' : WatchSet β}
    (hl : s.Alike s') :
    (l.foldl (fun s a => s.note (entry a)) s).Alike (l.foldl (fun s a => s.note (entry a)) s') := by
  induction l generalizing s s' with
  | nil => exact hl
  | cons a rest ih => exact ih (hl.note (entry a))

/-- A function of sets that does not read the log. -/
abbrev Blind (f : WatchSet β → ρ × WatchSet β) : Prop := Progress.Respects Alike f

/-- A call of a set that does not read the log, neither before others run inside nor after that. -/
abbrev BlindWithin (call : WatchSet β → Progress (WatchSet β) ρ × WatchSet β) : Prop :=
  Progress.RespectsWithin Alike call

theorem blind_within {call : Host β → Progress (Host β) ρ × Host β}
    {k : ρ → WatchSet β → γ × WatchSet β} (hcall : Host.BlindWithin call)
    (hk : ∀ r, Blind (k r)) : BlindWithin (within call k) := by
  rintro s - ⟨log, rfl⟩
  have hmatches := hcall s.host { s.host with log } ⟨log, rfl⟩
  unfold within Progress.within
  dsimp only
  generalize call s.host = p, call { s.host with log } = q at hmatches
  obtain ⟨r | resume, h⟩ := p <;> obtain ⟨r' | resume', h'⟩ := q
  · obtain ⟨rfl, log', rfl⟩ := hmatches
    exact hk r _ _ ⟨log', rfl⟩
  · exact hmatches.elim
  · exact hmatches.elim
  · obtain ⟨⟨log', rfl⟩, hresume⟩ := hmatches
    refine ⟨⟨log', rfl⟩, ?_⟩
    rintro t - ⟨log'', rfl⟩
    obtain ⟨r, g, g', hd, hd', log₁, rfl⟩ := (hresume t.host _ ⟨log'', rfl⟩).exists
    dsimp only
    rw [hd, hd']
    exact hk r _ _ ⟨log₁, rfl⟩

/-- Others that run inside find the set as the call began, up to the host. -/
theorem within_inside {call : Host β → Progress (Host β) ρ × Host β}
    {k : ρ → WatchSet β → γ × WatchSet β} {s s' : WatchSet β}
    {resume : WatchSet β → γ × WatchSet β} (h : s.within call k = (.inside resume, s')) :
    ∃ host, s' = { s with host } := by
  unfold within Progress.within at h
  split at h
  · cases h
  · obtain ⟨-, rfl⟩ := Prod.mk.inj h
    exact ⟨_, rfl⟩

/-! ### The parts of a call -/

theorem blind_finishAdd (d : Descriptor) (t : Tag) (outcome : Outcome SystemError Unit) :
    Blind (β := β) (finishAdd d t outcome) := by
  rintro s - ⟨log, rfl⟩
  cases outcome <;> exact ⟨rfl, _, rfl⟩

theorem blind_finishRemove (d : Descriptor) (found : Option UInt32)
    (outcome : Outcome SystemError Unit) : Blind (β := β) (finishRemove d found outcome) := by
  rintro s - ⟨log, rfl⟩
  cases outcome <;> cases found <;> exact ⟨rfl, _, rfl⟩

theorem blind_finishPoll (marker : Nat) (events : List Event)
    (result : Outcome SystemError Unit × NativeBuffer) :
    Blind (β := β) (finishPoll marker events result) := by
  rintro s - ⟨log, rfl⟩
  obtain ⟨outcome, b⟩ := result
  unfold finishPoll
  dsimp only
  cases hlock : s.roster.acquire with
  | error cause => cases outcome <;> exact ⟨rfl, log, rfl⟩
  | ok lock =>
      have hbuffer : Alike { s with buffer := s.buffer.release b }
          { s with host := { s.host with log }, buffer := s.buffer.release b } := ⟨log, rfl⟩
      obtain ⟨log', hnotes⟩ := hbuffer.foldl_note (fun e : NativeEvent => .staleTag e.tag)
        ((considered b outcome).filter lock.value.isStale)
      cases outcome with
      | halted cause => exact ⟨rfl, log, rfl⟩
      | done _ | failed _ =>
          dsimp only at hnotes ⊢
          rw [hnotes]
          exact ⟨rfl, log', rfl⟩

/-! ### Changes -/

/-- The set with another buffer. -/
def withBuffer (b : Lock NativeBuffer) (s : WatchSet β) : WatchSet β := { s with buffer := b }

theorem finishAdd_withBuffer (d : Descriptor) (t : Tag) (outcome : Outcome SystemError Unit)
    (b : Lock NativeBuffer) (s : WatchSet β) :
    finishAdd d t outcome (s.withBuffer b) =
      Prod.map id (withBuffer b) (finishAdd d t outcome s) := by
  cases outcome <;> rfl

theorem finishRemove_withBuffer (d : Descriptor) (found : Option UInt32)
    (outcome : Outcome SystemError Unit) (b : Lock NativeBuffer) (s : WatchSet β) :
    finishRemove d found outcome (s.withBuffer b) =
      Prod.map id (withBuffer b) (finishRemove d found outcome s) := by
  cases outcome <;> cases found <;> rfl

/-- A call that adds or removes: it is refused at once, or it is a call of the facility with the
lock on the rings held, and the end of the change.  What it does is decided by the rings, and not by
the log or the buffer. -/
inductive IsChange (s : WatchSet β) (call : WatchSet β → Progress (WatchSet β) ρ × WatchSet β) :
    Prop
  | refused (entry : LogEntry) (outcome : ρ) :
      (∀ host buffer, call { s with host, buffer } =
        (.returned outcome, note { s with host, buffer } entry)) → IsChange s call
  | made (entry : LogEntry) (roster : Roster)
      (work : Host β → Progress (Host β) (Outcome SystemError Unit) × Host β)
      (finish : Outcome SystemError Unit → WatchSet β → ρ × WatchSet β) :
      Host.BlindWithin work → (∀ r, Blind (finish r)) →
      (∀ r b s, finish r (withBuffer b s) = Prod.map id (withBuffer b) (finish r s)) →
      (∀ host buffer, call { s with host, buffer } =
        ((note { s with host, buffer } entry).locked roster).within work finish) →
      IsChange s call

variable {s s' : WatchSet β} {call : WatchSet β → Progress (WatchSet β) ρ × WatchSet β}

/-- A change does not read the log. -/
theorem IsChange.matches (h : s.IsChange call) (hl : s.Alike s') :
    Progress.Matches Alike (call s) (call s') := by
  obtain ⟨log, rfl⟩ := hl
  cases h with
  | refused entry outcome hcall =>
      rw [show call s = _ from hcall s.host s.buffer, hcall { s.host with log } s.buffer]
      exact ⟨rfl, Alike.note ⟨log, rfl⟩ entry⟩
  | made entry roster work finish hwork hfinish _ hcall =>
      rw [show call s = _ from hcall s.host s.buffer, hcall { s.host with log } s.buffer]
      exact blind_within hwork hfinish _ _ ⟨_, rfl⟩

/-- Made alone, a change neither reads nor changes the buffer. -/
theorem IsChange.alone_withBuffer (h : s.IsChange call) (b : Lock NativeBuffer) :
    Progress.alone (call (s.withBuffer b)) =
      Prod.map id (withBuffer b) (Progress.alone (call s)) := by
  cases h with
  | refused entry outcome hcall =>
      rw [show call s = _ from hcall s.host s.buffer, withBuffer, hcall s.host b]
      rfl
  | made entry roster work finish _ _ hfinish hcall =>
      rw [show call s = _ from hcall s.host s.buffer, withBuffer, hcall s.host b, alone_within,
        alone_within]
      exact hfinish _ b
        { (s.note entry).locked roster with
          host := (Progress.alone (work (s.host.note entry))).2 }

/-- Inside a change the lock on the rings is held. -/
theorem IsChange.held (h : s.IsChange call) {resume : WatchSet β → ρ × WatchSet β}
    (hinside : call s = (.inside resume, s')) :
    s'.roster.held = true ∧ s'.roster.threadSafe = s.roster.threadSafe ∧ s'.buffer = s.buffer := by
  cases h with
  | refused entry outcome hcall => cases hinside.symm.trans (hcall s.host s.buffer)
  | made entry roster work finish _ _ _ hcall =>
      obtain ⟨host, rfl⟩ := within_inside ((hcall s.host s.buffer).symm.trans hinside)
      exact ⟨rfl, rfl, rfl⟩

variable [Facility β]

theorem add_of_held (hheld : s.roster.held = true) (d : Descriptor) (i : Interests)
    (id : EventId) :
    s.add d i id = (.returned (.halted s.roster.conflict), s.note (.adding d i id)) := by
  simp only [add, beginAdd, note, Lock.acquire_of_held hheld]

theorem remove_of_held (hheld : s.roster.held = true) (d : Descriptor) :
    s.remove d = (.returned (.halted s.roster.conflict), s.note (.removing d)) := by
  simp only [remove, beginRemove, note, Lock.acquire_of_held hheld]

/-- A poll that finds the lock on the buffer held is refused. -/
theorem poll_of_buffer_held (hbuffer : s.buffer.held = true) (events : List Event)
    (timeout : Option Duration) :
    s.poll events timeout =
      (.returned (.halted s.buffer.conflict, []), s.note (.polling timeout)) := by
  simp only [poll, cleared, beginPoll, note, Lock.acquire_of_held hbuffer]

/-- A poll that takes the lock on the buffer and finds the one on the rings held is refused, and the
buffer is free again. -/
theorem poll_of_roster_held (hbuffer : s.buffer.held = false) (hroster : s.roster.held = true)
    (events : List Event) (timeout : Option Duration) :
    s.poll events timeout =
      (.returned (.halted s.roster.conflict, []), s.note (.polling timeout)) := by
  have hfree : s.buffer.acquire = .ok { s.buffer with held := true } := by
    rw [Lock.acquire_eq_ok_iff]
    exact ⟨hbuffer, rfl⟩
  simp only [poll, cleared, beginPoll, note, hfree, Lock.read, Lock.acquire_of_held hroster,
    Except.map]

/-- Inside a poll the lock on the buffer is held. -/
theorem poll_held {events : List Event} {timeout : Option Duration}
    {resume : WatchSet β → (Outcome Error Nat × List Event) × WatchSet β}
    (hinside : s.poll events timeout = (.inside resume, s')) :
    s'.buffer = { s.buffer with held := true } := by
  cases hbuffer : s.buffer.held with
  | true => cases hinside.symm.trans (poll_of_buffer_held hbuffer events timeout)
  | false =>
      cases hroster : s.roster.held with
      | true => cases hinside.symm.trans (poll_of_roster_held hbuffer hroster events timeout)
      | false =>
          obtain ⟨host, rfl⟩ :=
            within_inside ((poll_of_free hbuffer hroster events timeout).symm.trans hinside)
          rfl

variable [LogBlind β]

theorem isChange_add (s : WatchSet β) (d : Descriptor) (i : Interests) (id : EventId) :
    s.IsChange (add d i id) := by
  cases hheld : s.roster.held with
  | true =>
      exact .refused _ (.halted s.roster.conflict) fun host buffer =>
        add_of_held (s := { s with host, buffer }) hheld d i id
  | false =>
      cases haccept : s.roster.value.accept s.capacity d i id with
      | error cause =>
          exact .refused _ _ fun host buffer =>
            add_of_error (s := { s with host, buffer }) hheld haccept
      | ok accepted =>
          obtain ⟨t, roster⟩ := accepted
          exact .made _ roster _ _ (LogBlind.watch d.fd i t) (blind_finishAdd d t)
            (finishAdd_withBuffer d t) fun host buffer =>
              add_of_ok (s := { s with host, buffer }) hheld haccept

theorem isChange_remove (s : WatchSet β) (d : Descriptor) : s.IsChange (remove d) := by
  cases hheld : s.roster.held with
  | true =>
      exact .refused _ (.halted s.roster.conflict) fun host buffer =>
        remove_of_held (s := { s with host, buffer }) hheld d
  | false =>
      let found := s.roster.value.find? d
      exact .made _ s.roster.value (Facility.unwatch d.fd (interestsOf s.roster.value found))
        (finishRemove d found) (LogBlind.unwatch d.fd _) (blind_finishRemove d found)
        (finishRemove_withBuffer d found) fun host buffer =>
          remove_of_free (s := { s with host, buffer }) hheld

theorem blind_poll (events : List Event) (timeout : Option Duration) :
    BlindWithin (β := β) (poll events timeout) := by
  rintro s - ⟨log, rfl⟩
  cases hbuffer : s.buffer.held with
  | true =>
      rw [poll_of_buffer_held hbuffer,
        poll_of_buffer_held (s := { s with host := { s.host with log } }) hbuffer]
      exact ⟨rfl, Alike.note ⟨log, rfl⟩ _⟩
  | false =>
      cases hroster : s.roster.held with
      | true =>
          rw [poll_of_roster_held hbuffer hroster,
            poll_of_roster_held (s := { s with host := { s.host with log } }) hbuffer hroster]
          exact ⟨rfl, Alike.note ⟨log, rfl⟩ _⟩
      | false =>
          rw [poll_of_free hbuffer hroster,
            poll_of_free (s := { s with host := { s.host with log } }) hbuffer hroster]
          exact blind_within (LogBlind.wait s.buffer.value timeout) (blind_finishPoll _ _) _ _
            ⟨_, rfl⟩

end WatchSet

end Readiness
