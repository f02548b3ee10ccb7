import Readiness.Proofs.KqueueEvents
import Readiness.Proofs.PollRounds

/-! # Buffers hold the events of the last wait

A buffer is used for one wait after the other, and `Poll` fills it round after round.  Nothing that
was in it before survives, whatever others do meanwhile and whatever the system calls answer.

* **Native calls.**  A wait with `epoll` or `kqueue` is one native call, and `Brought` says which
  events such a call brought.  For `poll` it is the call of the last round.
* **Room.**  The kernel gives as many events as it is asked for at most
  (`Kernel.length_epollWait_le`, `Kernel.length_keventWait_le`); `poll` gives one result for each
  entry, of which as many are taken as there is room for.
* **Last events** (`NativeBuffer.HoldsOnly`).  A wait that fails leaves an empty buffer, and one that
  succeeds leaves the events that its last native call brought (`buffers_hold_last_events`). -/

namespace Readiness

/-- Others may do anything. -/
def Progress.anything {σ : Type} (_ _ : σ) : Prop := True

/-- A wait ends where its system call ends, and both are resumed on what the others have left. -/
theorem Progress.Ends.of_systemWithin {β ρ γ : Type} {may : Host β → Host β → Prop}
    {call : Kernel → Progress Kernel ρ × Kernel} {f : ρ → γ} {h left h' : Host β} {r : γ}
    (he : Progress.Ends may (Host.systemWithin call (fun a h => (f a, h)) h) left r h') :
    ∃ (a : ρ) (kernel : Kernel), Progress.Ends Progress.anything (call h.kernel) left.kernel a kernel ∧
      f a = r ∧ h' = { left with kernel := kernel } := by
  unfold Host.systemWithin Progress.within at he
  cases hcall : call h.kernel with
  | mk p kernel =>
      rw [hcall] at he
      obtain a | resume := p
      · cases he
        exact ⟨a, kernel, .returned a kernel, rfl, rfl⟩
      · cases he with
        | resumed _ hr =>
            obtain ⟨hf, rfl⟩ := Prod.mk.inj hr
            exact ⟨_, _, .resumed trivial rfl, hf, rfl⟩

namespace NativeBuffer

/-- What a wait leaves in the buffer `b` it was given: nothing if it fails, and else events that its
last native call brought, as many as there is room for at most. -/
structure HoldsOnly (b' b : NativeBuffer) (outcome : Outcome SystemError Unit)
    (brought : List NativeEvent → Prop) : Prop where
  failed : outcome ≠ .done () → b' = b.clear
  done : outcome = .done () →
    ∃ events, brought events ∧ events.length ≤ b.capacity ∧ b' = b.clear.extend events

variable {b b₁ b' : NativeBuffer} {outcome : Outcome SystemError Unit}
  {brought : List NativeEvent → Prop}

theorem HoldsOnly.of_ne_done (h : outcome ≠ .done ()) : HoldsOnly b.clear b outcome brought :=
  ⟨fun _ => rfl, fun hdone => absurd hdone h⟩

theorem HoldsOnly.of_events {events : List NativeEvent} (h : brought events)
    (hroom : events.length ≤ b.capacity) :
    HoldsOnly (b.clear.extend events) b (.done ()) brought :=
  ⟨fun hne => absurd rfl hne, fun _ => ⟨events, h, hroom, rfl⟩⟩

/-- Of the buffer that a wait is given only the room counts. -/
theorem HoldsOnly.congr (h : HoldsOnly b' b₁ outcome brought) (hclear : b₁.clear = b.clear) :
    HoldsOnly b' b outcome brought := by
  have hcapacity : b₁.capacity = b.capacity := (NativeBuffer.mk.inj hclear).1
  exact ⟨hclear ▸ h.failed, hclear ▸ hcapacity ▸ h.done⟩

end NativeBuffer

/-! ### Native calls -/

namespace Kernel

variable {k left k' : Kernel} {handle size : Int32}

/-- The kernel gives as many events as there is room for at most. -/
theorem length_epollWait_le {timeout : Int32} {events : List EpollEvent}
    (h : Progress.Ends Progress.anything (k.epollWait handle size timeout) left (.done events) k') :
    events.length ≤ size.toInt.toNat := by
  cases hp : k.epollWait handle size timeout with
  | mk p k₁ =>
      rw [hp] at h
      cases h with
      | returned => exact absurd rfl (epollWait_returned (congrArg Prod.fst hp) events)
      | resumed _ hr =>
          rw [epollWait_resumed (congrArg Prod.fst hp) (congrArg Prod.fst hr)]
          exact List.length_take_le ..

theorem length_keventWait_le {timeout : Option Timespec} {events : List KqueueEvent}
    (h : Progress.Ends Progress.anything (k.keventWait handle size timeout) left (.done events) k') :
    events.length ≤ size.toInt.toNat := by
  unfold keventWait at h
  dsimp only at h
  split at h
  · cases h
  · cases h with
    | resumed _ hr =>
        obtain ⟨verdicts, hact | ⟨-, hnot⟩⟩ := obey_eq hr
        · obtain rfl := Outcome.done.inj (congrArg Prod.fst hact)
          exact List.length_take_le ..
        · exact absurd rfl (hnot events)

end Kernel

theorem length_le_of_room {capacity n : Nat} (h : n ≤ (room capacity).toInt.toNat) :
    n ≤ capacity := by
  rw [toNat_room_eq_min] at h
  omega

namespace Epoll

variable {b b' : NativeBuffer} {timeout : Option Duration} {h left h' : Host Epoll}
  {outcome : Outcome SystemError Unit}

/-- The native call of a wait, resumed on what the others have left, brought these events. -/
def Brought (b : NativeBuffer) (timeout : Option Duration) (h left : Host Epoll)
    (events : List NativeEvent) : Prop :=
  ∃ answers kernel, Progress.Ends Progress.anything (h.kernel.epollWait h.facility.handle.fd
    (room b.capacity) (timeoutMillis timeout)) left.kernel (.done answers) kernel ∧
      events = answers.map native

theorem wait_holdsOnly {may : Host Epoll → Host Epoll → Prop}
    (hw : Progress.Ends may (wait b timeout h) left (outcome, b') h') :
    b'.HoldsOnly b outcome (Brought b timeout h left) := by
  obtain ⟨answer, kernel, hcall, hdeliver, -⟩ := hw.of_systemWithin
  cases answer with
  | done answers =>
      obtain ⟨rfl, rfl⟩ := Prod.mk.inj hdeliver
      refine .of_events ⟨answers, kernel, hcall, rfl⟩ ?_
      rw [List.length_map]
      exact length_le_of_room (Kernel.length_epollWait_le hcall)
  | failed cause | halted cause =>
      obtain ⟨rfl, rfl⟩ := Prod.mk.inj hdeliver
      exact .of_ne_done nofun

end Epoll

namespace Kqueue

variable {b b' : NativeBuffer} {timeout : Option Duration} {h left h' : Host Kqueue}
  {outcome : Outcome SystemError Unit}

/-- The native call of a wait, resumed on what the others have left, brought these events. -/
def Brought (b : NativeBuffer) (timeout : Option Duration) (h left : Host Kqueue)
    (events : List NativeEvent) : Prop :=
  ∃ answers kernel, Progress.Ends Progress.anything (h.kernel.keventWait h.facility.handle.fd
    (room b.capacity) (timeout.map Duration.timespec)) left.kernel (.done answers) kernel ∧
      events = answers.map native

theorem wait_holdsOnly {may : Host Kqueue → Host Kqueue → Prop}
    (hw : Progress.Ends may (wait b timeout h) left (outcome, b') h') :
    b'.HoldsOnly b outcome (Brought b timeout h left) := by
  obtain ⟨answer, kernel, hcall, hdeliver, -⟩ := hw.of_systemWithin
  cases answer with
  | done answers =>
      obtain ⟨rfl, rfl⟩ := Prod.mk.inj hdeliver
      refine .of_events ⟨answers, kernel, hcall, rfl⟩ ?_
      rw [List.length_map]
      exact length_le_of_room (Kernel.length_keventWait_le hcall)
  | failed cause | halted cause =>
      obtain ⟨rfl, rfl⟩ := Prod.mk.inj hdeliver
      exact .of_ne_done nofun

end Kqueue

namespace Poll

variable {may : Host Poll → Host Poll → Prop} {b b' : NativeBuffer} {remaining : Option Duration}
  {h begun left h' : Host Poll} {outcome : Outcome SystemError Unit}

/-- The native call of a round that began in `begun`, resumed on what the others have left, brought
results for the table that it was shown, and these are the first events of them. -/
def Brought (b : NativeBuffer) (begun left : Host Poll) (events : List NativeEvent) : Prop :=
  ∃ (remaining : Option Duration) (results : List UInt16) (kernel : Kernel),
    Progress.Ends Progress.anything
      (begun.kernel.poll (shown begun.facility.table) (timeoutMillis remaining)) left.kernel
      (.done results) kernel ∧
      events = (found begun.facility.table results).take b.capacity

/-- The last round empties the buffer before anything is collected. -/
theorem round_holdsOnly (hr : Progress.Ends may (round b remaining h) left (.over outcome, b') h') :
    b'.HoldsOnly b outcome (Brought b h left) := by
  rcases round_ends hr with ⟨rfl, _, hover, hne⟩ | ⟨results, hanswer, rfl, -, hover⟩
  · obtain rfl := Round.over.inj hover
    exact .of_ne_done hne
  · split at hover
    · cases hover
    · obtain rfl := Round.over.inj hover
      have hcall : Progress.Ends Progress.anything
          (h.kernel.poll (shown h.facility.table) (timeoutMillis remaining)) left.kernel
          (.done results) h'.kernel := .resumed trivial hanswer
      exact .of_events ⟨remaining, results, _, hcall, rfl⟩ (List.length_take_le ..)

theorem Rounds.holdsOnly (hr : Rounds may b h begun left outcome b' h') :
    b'.HoldsOnly b outcome (Brought b begun left) := by
  induction hr with
  | last remaining hround => exact round_holdsOnly hround
  | @again b b₁ b' h g h₁ h₂ begun left h' outcome remaining hround _ _ ih =>
      have hclear := (round_again hround).2
      have hcapacity : b₁.capacity = b.capacity := (NativeBuffer.mk.inj hclear).1
      refine NativeBuffer.HoldsOnly.congr ?_ hclear
      unfold Brought at ih ⊢
      rwa [hcapacity] at ih
  | undrained remaining cause => exact .of_ne_done nofun

end Poll

/-- **Buffers hold the last events.**  Whatever the buffer held, whatever others do during the wait
and whatever the system calls answer: if the wait fails the buffer is empty, and if it succeeds the
buffer holds no more events than it has room for, all of which the last native call of this wait
brought.  With `poll` this is so after any number of rounds, of which any may find the facility closed
or fail. -/
theorem buffers_hold_last_events (b b' : NativeBuffer) (timeout : Option Duration)
    (outcome : Outcome SystemError Unit) :
    (∀ h left h' : Host Epoll,
      Progress.Ends Progress.anything (Facility.wait b timeout h) left (outcome, b') h' →
        b'.HoldsOnly b outcome (Epoll.Brought b timeout h left)) ∧
    (∀ h left h' : Host Kqueue,
      Progress.Ends Progress.anything (Facility.wait b timeout h) left (outcome, b') h' →
        b'.HoldsOnly b outcome (Kqueue.Brought b timeout h left)) ∧
    (∀ h begun left h' : Host Poll, Poll.Rounds Progress.anything b h begun left outcome b' h' →
      b'.HoldsOnly b outcome (Poll.Brought b begun left)) ∧
    ∀ may : Host Poll → Host Poll → Prop, (∀ h, may h h) → ∀ h left h' : Host Poll,
      Progress.Ends may (Facility.wait b timeout h) left (outcome, b') h' →
        ∃ begun left, Poll.Rounds may b h begun left outcome b' h' ∧
          b'.HoldsOnly b outcome (Poll.Brought b begun left) := by
  refine ⟨fun _ _ _ hw => Epoll.wait_holdsOnly hw, fun _ _ _ hw => Kqueue.wait_holdsOnly hw,
    fun _ _ _ _ hr => hr.holdsOnly, fun may hrefl h left h' hw => ?_⟩
  obtain ⟨begun, left, hr⟩ := Poll.Rounds.of_wait hrefl hw
  exact ⟨begun, left, hr, hr.holdsOnly⟩

/-- A buffer with room for one event, which holds one from an earlier wait. -/
def usedBuffer : NativeBuffer := { capacity := 1, entries := [some ⟨.pack 9 0, .writable⟩], len := 1 }

/-- A facility that watches a descriptor which is not ready; another descriptor is. -/
def quietPoll : Host Poll where
  facility := { table := [⟨5, .readable, .pack 0 0⟩] }
  kernel := { levels := [(6, 1)] }

/-- What is left of the facility when the other descriptor is watched during a wait. -/
def watchedPoll : Host Poll := (Poll.watch 6 .readable (.pack 1 0)
  (Facility.wait usedBuffer none quietPoll).2).2

/-- A wait goes round again when the other descriptor is watched meanwhile: it finds that one, or it
fails if the facility is closed before the second round. -/
theorem buffers_hold_last_events_woken :
    (∃ begun left h' : Host Poll, Poll.Rounds Progress.anything usedBuffer quietPoll begun left
        (.done ()) (usedBuffer.clear.extend [⟨.pack 1 0, .readable⟩]) h' ∧
      begun.facility = watchedPoll.facility.drain ∧ left = begun ∧
      (usedBuffer.clear.extend [⟨.pack 1 0, .readable⟩]).HoldsOnly usedBuffer (.done ())
        (Poll.Brought usedBuffer begun left)) ∧
    ∃ h' : Host Poll, Progress.Ends Progress.anything (Facility.wait usedBuffer none quietPoll)
        (Poll.close watchedPoll).2 (.failed .badDescriptor, usedBuffer.clear) h' ∧
      ∃ begun left, usedBuffer.clear.HoldsOnly usedBuffer (.failed .badDescriptor)
        (Poll.Brought usedBuffer begun left) := by
  constructor
  · obtain ⟨begun, left, h', hr, hdrained, hleft⟩ : ∃ begun left h' : Host Poll,
        Poll.Rounds Progress.anything usedBuffer quietPoll begun left
          (.done ()) (usedBuffer.clear.extend [⟨.pack 1 0, .readable⟩]) h' ∧
        begun.facility = watchedPoll.facility.drain ∧ left = begun :=
      ⟨{ watchedPoll with facility := watchedPoll.facility.drain },
        { watchedPoll with facility := watchedPoll.facility.drain }, _,
        .again none (.resumed (t := watchedPoll) trivial rfl) trivial
          (.last none (.resumed trivial rfl)), rfl, rfl⟩
    exact ⟨begun, left, h', hr, hdrained, hleft,
      (buffers_hold_last_events _ _ none _).2.2.1 quietPoll begun left h' hr⟩
  · obtain ⟨h', hw⟩ : ∃ h' : Host Poll,
        Progress.Ends Progress.anything (Facility.wait usedBuffer none quietPoll)
          (Poll.close watchedPoll).2 (.failed .badDescriptor, usedBuffer.clear) h' :=
      ⟨_, .resumed trivial rfl⟩
    obtain ⟨begun, left, -, hholds⟩ := (buffers_hold_last_events _ _ none _).2.2.2
      Progress.anything (fun _ => trivial) quietPoll _ h' hw
    exact ⟨h', hw, begun, left, hholds⟩

end Readiness
