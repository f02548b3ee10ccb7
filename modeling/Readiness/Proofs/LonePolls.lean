import Readiness.Proofs.CallParts
import Readiness.Proofs.Levels

/-! # Polls with nobody else around

* **The whole call** (`WatchSet.alone_poll`).  A poll that finds the locks free waits, and ends with
  what the wait returned.
* **The answer** (`WatchSet.finishPoll_done`) counts the events of a wait that succeeded, or says that
  there were none.
* **Levels** (`Roster.Reports`).  If what the facility returns for an addition is the readiness of
  its level, then what is reported are the events of the levels. -/

namespace Readiness

namespace WatchSet

variable {β : Type} {s : WatchSet β}

/-- What a poll answers when it has these events to report. -/
def reply (events : List Event) : Outcome Error Nat × List Event :=
  if events = [] then (.failed .timedOut, []) else (.done events.length, events)

/-- A poll that finds the locks free takes the one on the buffer, and waits. -/
theorem poll_of_free [Facility β] (hbuffer : s.buffer.held = false)
    (hroster : s.roster.held = false) (events : List Event) (timeout : Option Duration) :
    s.poll events timeout =
      { s with
        host := s.host.note (.polling timeout)
        buffer := { s.buffer with held := true } }.within (Facility.wait s.buffer.value timeout)
        (finishPoll s.roster.value.retired []) := by
  simp [poll, cleared, beginPoll, note, Lock.acquire, Lock.read, hbuffer, hroster, Except.map]

theorem alone_poll [Facility β] (hbuffer : s.buffer.held = false) (hroster : s.roster.held = false)
    (events : List Event) (timeout : Option Duration) :
    Progress.alone (s.poll events timeout) =
      finishPoll s.roster.value.retired []
        (Progress.alone
          (Facility.wait s.buffer.value timeout (s.host.note (.polling timeout)))).1
        { s with
          host := (Progress.alone
            (Facility.wait s.buffer.value timeout (s.host.note (.polling timeout)))).2
          buffer := { s.buffer with held := true } } := by
  rw [poll_of_free hbuffer hroster, alone_within]

/-- A poll whose wait failed reports nothing, and reclaims. -/
theorem finishPoll_failed (hroster : s.roster.held = false) (marker : Nat) (cause : SystemError)
    (b : NativeBuffer) :
    s.finishPoll marker [] (.failed cause, b) = ((.failed (.waitFailed cause), []),
      { s with
        buffer := s.buffer.release b
        roster := s.roster.release (s.roster.value.reclaim marker) }) := by
  simp only [finishPoll, Lock.acquire, hroster, Bool.false_eq_true, if_false]
  rfl

/-- The answer of a poll whose wait succeeded, by what is in the buffer. -/
theorem finishPoll_succeeded (hroster : s.roster.held = false) (marker : Nat) (b : NativeBuffer) :
    (s.finishPoll marker [] (.done (), b)).1 =
      if b.isEmpty then (.failed .timedOut, [])
      else (.done (b.reported.filterMap s.roster.value.event?).length,
        b.reported.filterMap s.roster.value.event?) := by
  simp only [finishPoll, Lock.acquire, hroster, Bool.false_eq_true, if_false, answer,
    List.nil_append]
  split <;> rfl

/-- The answer of a poll whose wait put some events into the buffer. -/
theorem finishPoll_done (hroster : s.roster.held = false) (marker : Nat) (b : NativeBuffer)
    (native : List NativeEvent) :
    (s.finishPoll marker [] (.done (), b.clear.extend native)).1 =
      if native = [] then (.failed .timedOut, [])
      else (.done (native.filterMap s.roster.value.event?).length,
        native.filterMap s.roster.value.event?) := by
  have hempty : (b.clear.extend native).isEmpty = decide (native = []) := by
    rw [Bool.eq_iff_iff]
    simp [NativeBuffer.isEmpty, NativeBuffer.extend, NativeBuffer.clear]
  simp only [finishPoll_succeeded hroster, hempty, NativeBuffer.reported_extend_clear,
    decide_eq_true_eq]

/-- The answer of a poll for which some native events come to `events`. -/
theorem finishPoll_reply (hroster : s.roster.held = false) {native : List NativeEvent}
    {events : List Event} (hevents : native.filterMap s.roster.value.event? = events)
    (hnil : native = [] ↔ events = []) (marker : Nat) (b : NativeBuffer) :
    (s.finishPoll marker [] (.done (), b.clear.extend native)).1 = reply events := by
  rw [finishPoll_done hroster, hevents, reply]
  simp only [hnil]

end WatchSet

namespace Roster

/-- What a facility returns for some additions is reported as the events of their levels. -/
structure Reports (roster : Roster) (level : Int32 → UInt32) (added : List Addition)
    (native? : Addition → Option NativeEvent) : Prop where
  record : ∀ x ∈ added, roster.addition? x.tag.index = some x
  tag : ∀ x ∈ added, ∀ e, native? x = some e → e.tag = x.tag
  mask : ∀ x ∈ added, ∀ e, native? x = some e →
    e.readiness.mask x.interests = levelReadiness x.interests (level x.descriptor.fd)
  none : ∀ x ∈ added, native? x = none ↔
    (levelReadiness x.interests (level x.descriptor.fd)).isEmpty = true

variable {roster : Roster} {level : Int32 → UInt32} {added : List Addition}
  {native? : Addition → Option NativeEvent}

theorem Reports.bind_event? (h : roster.Reports level added native?) {x : Addition}
    (hx : x ∈ added) : (native? x).bind roster.event? = x.levelEvent? level := by
  cases hn : native? x with
  | none => rw [Addition.levelEvent?, if_pos ((h.none x hx).mp hn)]; rfl
  | some e =>
      rw [Option.bind_some, event?_eq (h.record x hx) (h.tag x hx e hn)]
      exact Addition.event?_eq_levelEvent? (h.mask x hx e hn)

theorem Reports.filterMap_event? (h : roster.Reports level added native?) :
    (added.filterMap native?).filterMap roster.event? =
      added.filterMap (Addition.levelEvent? level) := by
  rw [List.filterMap_filterMap]
  exact List.filterMap_congr fun x hx => h.bind_event? hx

/-- The facility returns nothing exactly if there is nothing to report. -/
theorem Reports.eq_nil_iff (h : roster.Reports level added native?) :
    added.filterMap native? = [] ↔ added.filterMap (Addition.levelEvent? level) = [] := by
  rw [List.filterMap_eq_nil_iff, List.filterMap_eq_nil_iff]
  refine forall₂_congr fun x hx => ?_
  rw [h.none x hx, Addition.levelEvent?_eq_none_iff]

/-- **The answer** of a poll whose wait returned what the levels call for. -/
theorem Reports.finishPoll {β : Type} {s : WatchSet β} (hroster : s.roster.held = false)
    (h : s.roster.value.Reports level added native?) (marker : Nat) (b : NativeBuffer) :
    (s.finishPoll marker [] (.done (), b.clear.extend (added.filterMap native?))).1 =
      WatchSet.reply (added.filterMap (Addition.levelEvent? level)) :=
  WatchSet.finishPoll_reply hroster h.filterMap_event? h.eq_nil_iff marker b

end Roster

end Readiness
