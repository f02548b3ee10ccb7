import Readiness.Proofs.TracedFacilities

/-! # From adding to reporting with `kqueue`

A descriptor that is watched for both directions has two filters, and each of them that has a state
is an event of its own.

* **Filters.**  The registrations are the filters of the additions, in some order
  (`Kqueue.perm_registrations`).  A filter that has a state is a `Kqueue.ReadyFilter`.
* **Room.**  A wait returns at most as many events as there is room for descriptors, so some of the
  filters that have a state may have to wait for a later poll (`Kqueue.alone_wait`).
* **Result.**  `Moment.kqueue_reports_filters` says which events a poll reports in every state of
  every run, and that all filters are among them as long as there are no more of them than there is
  room for.  `Moment.kqueue_reports_one_of_two` shows that this condition is needed. -/

namespace Readiness

open Registry

/-! ### The kernel -/

/-- The state of a filter, if it has one. -/
def Kernel.state? (k : Kernel) (fd : Int32) (filter : Int16) : Option FilterState :=
  k.filters.find? fun s => s.fd == fd && s.filter == filter

theorem Kernel.filter_of_state? {k : Kernel} {fd : Int32} {filter : Int16} {s : FilterState}
    (h : k.state? fd filter = some s) : s.filter = filter := by
  have hs := List.find?_some h
  simp only [Bool.and_eq_true, beq_iff_eq] at hs
  exact hs.2

/-- A wait that succeeds returns as many events as there is room for. -/
theorem Kernel.keventWait_done {k : Kernel} {handle size : Int32} {timeout : Option Timespec}
    {events : List KqueueEvent}
    (h : (Progress.alone (k.keventWait handle size timeout)).1 = .done events) :
    events = (k.kqueueInjected ++ k.kqueueRegistrations.filterMap k.kqueueReport?).take
      size.toInt.toNat := by
  unfold Kernel.keventWait at h
  dsimp only at h
  split at h
  · cases h
  · obtain ⟨verdicts, hact | ⟨-, hnot⟩⟩ := Kernel.obey_eq (Prod.ext h rfl)
    · exact (Outcome.done.inj (congrArg Prod.fst hact)).symm
    · exact absurd rfl (hnot events)

/-- The room for descriptors as a number again. -/
theorem toNat_room_eq_min (capacity : Nat) :
    (room capacity).toInt.toNat = min capacity 2147483647 := by
  have hsame : room capacity = room (min capacity 2147483647) := by
    rw [room, room, Nat.min_assoc, Nat.min_self]
  rw [hsame, toNat_room (Nat.min_le_right ..)]

/-- A single direction is among the interests it was split from. -/
theorem Interests.mem_split {i j : Interests} (h : j ∈ i.split) :
    (j = readable ∧ i.isReadable = true) ∨ j = writable ∧ i.isWritable = true := by
  revert h
  cases i <;> cases j <;> decide

namespace Conditions

theorem contains_ofFlags_readable (r w e h : Bool) : (ofFlags r w e h).contains .readable = r := by
  revert r w e h
  decide

theorem contains_ofFlags_writable (r w e h : Bool) : (ofFlags r w e h).contains .writable = w := by
  revert r w e h
  decide

end Conditions

namespace Kqueue

variable {h : Host Kqueue} {added : List Addition} {x : Addition} {i : Interests} {k : Kernel}

/-! ### Filters -/

/-- The filters of some additions. -/
def filters (added : List Addition) : List (Addition × Interests) :=
  added.flatMap fun x => x.interests.split.map (x, ·)

theorem mem_filters : (x, i) ∈ filters added ↔ x ∈ added ∧ i ∈ x.interests.split := by
  simp [filters]

/-- The registration of a filter. -/
def filterRegistration (p : Addition × Interests) : KqueueRegistration :=
  registration p.1.descriptor.fd p.1.tag p.2

theorem nodup_wanted (x : Addition) : (wanted (β := Kqueue) x).Nodup := by
  have hfilters : (wanted (β := Kqueue) x).map KqueueRegistration.filter =
      x.interests.split.map filterFor := List.map_map
  refine List.Nodup.of_map KqueueRegistration.filter ?_
  rw [hfilters]
  cases x.interests <;> decide

theorem map_filterRegistration (added : List Addition) :
    (filters added).map filterRegistration = added.flatMap (wanted (β := Kqueue)) := by
  rw [filters, List.map_flatMap]
  refine List.flatMap_congr fun x _ => ?_
  rw [List.map_map]
  rfl

/-- If all registrations are those for the additions, they are their filters in some order. -/
theorem perm_registrations (hr : RegistersOnly h added)
    (hdistinct : (added.map (·.descriptor.fd)).Nodup) :
    h.entries.Perm ((filters added).map filterRegistration) := by
  rw [map_filterRegistration]
  have hnodup : (added.flatMap (wanted (β := Kqueue))).Nodup := by
    refine List.nodup_flatMap.mpr ⟨fun x _ => nodup_wanted x, ?_⟩
    refine (List.pairwise_map.mp hdistinct).imp fun hne => ?_
    intro e hx hy
    exact hne ((LawfulRegistry.fd_wanted _ e hx).symm.trans (LawfulRegistry.fd_wanted _ e hy))
  refine (List.perm_ext_iff_of_nodup (List.Nodup.of_map _ hr.1.1) hnodup).mpr fun e => ?_
  rw [List.mem_flatMap]
  exact ⟨hr.2 e, fun ⟨x, hx, hex⟩ => hr.1.2 x hx e hex⟩

/-- A filter of an addition that has a state. -/
structure ReadyFilter where
  addition : Addition
  interest : Interests
  state : FilterState
deriving DecidableEq, Repr

namespace ReadyFilter

/-- What the kernel returns for a filter. -/
def kernelEvent (r : ReadyFilter) : KqueueEvent :=
  ⟨r.state.filter, r.state.flags, r.state.fflags, r.addition.tag⟩

/-- What is reported for a filter. -/
def event (r : ReadyFilter) : Event :=
  ⟨r.addition.descriptor, r.addition.id, (readiness r.kernelEvent).mask r.addition.interests⟩

/-- The filter, if it has a state. -/
def of? (k : Kernel) (p : Addition × Interests) : Option ReadyFilter :=
  (k.state? p.1.descriptor.fd (filterFor p.2)).map fun s => ⟨p.1, p.2, s⟩

end ReadyFilter

/-- The filters of some additions that have a state. -/
def ready (k : Kernel) (added : List Addition) : List ReadyFilter :=
  (filters added).filterMap (ReadyFilter.of? k)

variable {r : ReadyFilter}

theorem mem_ready : r ∈ ready k added ↔ r.addition ∈ added ∧
    r.interest ∈ r.addition.interests.split ∧
      k.state? r.addition.descriptor.fd (filterFor r.interest) = some r.state := by
  rw [ready, List.mem_filterMap]
  constructor
  · rintro ⟨⟨x, i⟩, hp, hr⟩
    obtain ⟨s, hs, rfl⟩ := Option.map_eq_some_iff.mp hr
    obtain ⟨hx, hi⟩ := mem_filters.mp hp
    exact ⟨hx, hi, hs⟩
  · rintro ⟨hx, hi, hs⟩
    exact ⟨(r.addition, r.interest), mem_filters.mpr ⟨hx, hi⟩, Option.map_eq_some_iff.mpr
      ⟨r.state, hs, rfl⟩⟩

/-- What the kernel reports for the registrations of some filters. -/
theorem filterMap_kqueueReport? (k : Kernel) (l : List (Addition × Interests)) :
    (l.map filterRegistration).filterMap k.kqueueReport? =
      (l.filterMap (ReadyFilter.of? k)).map ReadyFilter.kernelEvent := by
  rw [List.filterMap_map, List.map_filterMap]
  refine List.filterMap_congr fun p _ => ?_
  rw [ReadyFilter.of?, Option.map_map]
  rfl

/-! ### Events -/

/-- The conditions of an event, as flags. -/
theorem readiness_eq (e : KqueueEvent) :
    readiness e = .ofFlags (e.filter = readFilter) (e.filter = writeFilter)
      ((hasFlag e.flags eofFlag ∧ e.fflags ≠ 0) ∨ hasFlag e.flags errorFlag)
      (hasFlag e.flags eofFlag) := by
  unfold readiness Conditions.ofFlags
  cases hasFlag e.flags eofFlag <;> cases hasFlag e.flags errorFlag <;>
    by_cases hr : e.filter = readFilter <;> by_cases hw : e.filter = writeFilter <;>
    by_cases hf : e.fflags = 0 <;> simp [hr, hw, hf] <;> decide

theorem ReadyFilter.readiness_event (r : ReadyFilter) : r.event.readiness =
    .ofFlags (r.addition.interests.isReadable && r.state.filter = readFilter)
      (r.addition.interests.isWritable && r.state.filter = writeFilter)
      ((hasFlag r.state.flags eofFlag ∧ r.state.fflags ≠ 0) ∨ hasFlag r.state.flags errorFlag)
      (hasFlag r.state.flags eofFlag) := by
  rw [event, readiness_eq, Conditions.mask_ofFlags]
  rfl

/-- The event of a filter has the bit of its interest. -/
theorem contains_of_mem_ready (hr : r ∈ ready k added) :
    r.event.readiness.contains (.ofInterests r.interest) = true ∧
      r.event.readiness.isEmpty = false := by
  obtain ⟨-, hi, hs⟩ := mem_ready.mp hr
  have hfilter := Kernel.filter_of_state? hs
  rw [r.readiness_event, Conditions.isEmpty_ofFlags, hfilter]
  obtain ⟨hinterest, hasked⟩ | ⟨hinterest, hasked⟩ := Interests.mem_split hi
  · rw [hinterest, hasked]
    exact ⟨Conditions.contains_ofFlags_readable .., rfl⟩
  · rw [hinterest, hasked]
    refine ⟨Conditions.contains_ofFlags_writable .., ?_⟩
    simp [filterFor, Interests.isReadable]

/-- The events report each filter that has a state, to the descriptor it is for. -/
def ReportsReady (k : Kernel) (added : List Addition) (events : List Event) : Prop :=
  ∀ x ∈ added, ∀ i ∈ x.interests.split, (k.state? x.descriptor.fd (filterFor i)).isSome →
    ∃ e ∈ events, e.descriptor = x.descriptor ∧ e.id = x.id ∧
      e.readiness.contains (.ofInterests i) = true

/-- The events report no direction that their descriptor was not added with. -/
def ReportsOnlyAsked (added : List Addition) (events : List Event) : Prop :=
  ∀ e ∈ events, ∃ x ∈ added, e.descriptor = x.descriptor ∧ e.id = x.id ∧
    (e.readiness.contains .readable = true → x.interests.isReadable = true) ∧
    (e.readiness.contains .writable = true → x.interests.isWritable = true)

theorem reportsReady_of_perm {order : List ReadyFilter} (ho : order.Perm (ready k added)) :
    ReportsReady k added (order.map ReadyFilter.event) := by
  intro x hx i hi hready
  obtain ⟨s, hs⟩ := Option.isSome_iff_exists.mp hready
  have hmem : ⟨x, i, s⟩ ∈ ready k added := mem_ready.mpr ⟨hx, hi, hs⟩
  refine ⟨_, List.mem_map_of_mem (ho.mem_iff.mpr hmem), rfl, rfl, ?_⟩
  exact (contains_of_mem_ready hmem).1

theorem reportsOnlyAsked_of_subset {l : List ReadyFilter} (hl : ∀ r ∈ l, r ∈ ready k added) :
    ReportsOnlyAsked added (l.map ReadyFilter.event) := by
  intro e he
  obtain ⟨r, hr, rfl⟩ := List.mem_map.mp he
  refine ⟨r.addition, (mem_ready.mp (hl r hr)).1, rfl, rfl, ?_⟩
  rw [r.readiness_event, Conditions.contains_ofFlags_readable,
    Conditions.contains_ofFlags_writable, Bool.and_eq_true, Bool.and_eq_true]
  exact ⟨And.left, And.left⟩

/-- Native events of filters are reported as the events of the filters. -/
theorem filterMap_event? {roster : Roster} {l : List ReadyFilter}
    (hrecord : ∀ x ∈ added, roster.addition? x.tag.index = some x)
    (hl : ∀ r ∈ l, r ∈ ready k added) :
    (l.map fun r => native r.kernelEvent).filterMap roster.event? = l.map ReadyFilter.event := by
  rw [List.filterMap_map, ← List.filterMap_eq_map]
  refine List.filterMap_congr fun r hr => ?_
  have hadded := (mem_ready.mp (hl r hr)).1
  rw [Function.comp_apply, Roster.event?_eq (hrecord _ hadded) rfl, Addition.event?, if_neg]
  · rfl
  · exact Bool.eq_false_iff.mp (contains_of_mem_ready (hl r hr)).2

/-! ### Waiting -/

theorem keepsRoom : KeepsRoom Kqueue := fun b timeout h =>
  Progress.yields_systemWithin (fun outcome _ => by cases outcome <;> rfl) h

/-- A wait alone is the system call, and what it returns is put into the buffer. -/
theorem alone_wait_eq (b : NativeBuffer) (timeout : Option Duration) (h : Host Kqueue) :
    (Progress.alone (wait b timeout h)).1 =
      deliver b.clear (Progress.alone (h.kernel.keventWait h.facility.handle.fd (room b.capacity)
        (timeout.map Duration.timespec))).1 :=
  congrArg Prod.fst (Progress.alone_within (fun h : Host Kqueue => h.kernel)
    (fun kernel h => { h with kernel }) (fun _ _ => rfl) (fun _ _ _ => rfl) ..)

/-- A wait that succeeds returns the events of the filters that have a state, in some order and as
many as there is room for. -/
theorem alone_wait {b : NativeBuffer} {timeout : Option Duration} {events : List KqueueEvent}
    (hr : RegistersOnly h added) (hdistinct : (added.map (·.descriptor.fd)).Nodup)
    (hinjected : Uninjected h)
    (hwait : (Progress.alone (h.kernel.keventWait h.facility.handle.fd (room b.capacity)
      (timeout.map Duration.timespec))).1 = .done events) :
    ∃ order : List ReadyFilter, order.Perm (ready h.kernel added) ∧
      (Progress.alone (wait b timeout h)).1 = (.done (), b.clear.extend
        ((order.take (min b.capacity 2147483647)).map fun r => native r.kernelEvent)) := by
  obtain ⟨seen, hseen, hperm⟩ := (congrFun₂ (List.eq_map_comp_perm filterRegistration) _ _).mpr
    (perm_registrations hr hdistinct)
  refine ⟨seen.filterMap (ReadyFilter.of? h.kernel), hperm.filterMap _, ?_⟩
  have hregistrations : h.kernel.kqueueRegistrations = seen.map filterRegistration := hseen
  have hevents : events = ((seen.filterMap (ReadyFilter.of? h.kernel)).take
      (min b.capacity 2147483647)).map ReadyFilter.kernelEvent := by
    rw [Kernel.keventWait_done hwait, hinjected, List.nil_append, toNat_room_eq_min,
      hregistrations, filterMap_kqueueReport?, List.map_take]
  rw [alone_wait_eq, hwait, deliver, hevents, List.map_map]
  rfl

/-- The world may change as it likes, as long as it leaves the registrations alone and injects
nothing. -/
def Undisturbed (h h' : Host Kqueue) : Prop :=
  h'.entries = h.entries ∧ (Uninjected h → Uninjected h')

end Kqueue

namespace Moment

open Kqueue

/-- **Filters are reported.**  After any run that begins with a new set, in which every active
descriptor that was removed was unwatched, every rollback succeeded, nothing was injected and the
set was not destroyed: a poll that nothing comes between and whose wait succeeds reports the filters
of the descriptors that are added and have a state, one event each, in some order and as many as the
set has room for descriptors.  If they all fit, no filter that has a state is left out.  No event has
a direction that its descriptor was not added with. -/
theorem kqueue_reports_filters {host : Host Kqueue} {capacity : Nat} {threadSafe : Bool}
    {L : List (Label Kqueue)} {m : Moment Kqueue} {events : List KqueueEvent}
    (hempty : host.entries = []) (hinjected : Uninjected host)
    (hr : Run Undisturbed (start host capacity threadSafe) L m)
    (hL : ∀ a ∈ L, a.Fine ∧ a.Clean) (hchange : m.change = none) (hpoll : m.poll = none)
    (timeout : Option Duration)
    (hwait : (Progress.alone (m.set.host.kernel.keventWait m.set.host.facility.handle.fd
      (room capacity) (timeout.map Duration.timespec))).1 = .done events) (before : List Event) :
    ∃ order : List ReadyFilter,
      order.Perm (ready m.set.host.kernel (L.foldl (fun added a => a.tell added) [])) ∧
      (Progress.alone (m.set.poll before timeout)).1 =
        WatchSet.reply ((order.take (min capacity 2147483647)).map ReadyFilter.event) ∧
      (order.length ≤ min capacity 2147483647 →
        ReportsReady m.set.host.kernel (L.foldl (fun added a => a.tell added) [])
          ((order.take (min capacity 2147483647)).map ReadyFilter.event)) ∧
      ReportsOnlyAsked (L.foldl (fun added a => a.tell added) [])
        ((order.take (min capacity 2147483647)).map ReadyFilter.event) := by
  obtain ⟨l, hm, -, hadded⟩ := (shows_start host capacity threadSafe).run hr
  have hroomy := (roomy_start host capacity threadSafe).run keepsRoom
    (shows_start host capacity threadSafe) hr
  have hquiet := ((maintains_start hinjected capacity threadSafe).run preserved_uninjected
    (fun _ _ hw => hw.2) hr).host
  have hentries : RegistersOnly m.set.host m.roster.added :=
    Upholds.of_run upholds_registersOnly (registersOnly_nil hempty)
      (hr.mono fun _ _ hw => hw.1) hL hchange
  have hbuffer : m.set.buffer.held = false := by rw [hm.buffer_held, hpoll]; rfl
  have hroster : m.set.roster.held = false := by rw [hm.roster_held, hchange]; rfl
  have hrecord : ∀ x ∈ m.roster.added, m.roster.addition? x.tag.index = some x :=
    fun x hx => (hm.refines.mem_added_iff.mp hx).2
  have hstart : (start host capacity threadSafe).roster.added = [] := rfl
  rw [hstart] at hadded
  rw [← hadded]
  obtain ⟨order, hperm, halone⟩ := alone_wait (h := m.set.host.note (.polling timeout))
    (b := m.set.buffer.value) hentries hm.distinct hquiet (by rw [hroomy.buffer]; exact hwait)
  rw [hroomy.buffer] at halone
  have hsome : ∀ r ∈ order.take (min capacity 2147483647),
      r ∈ ready m.set.host.kernel m.roster.added :=
    fun r hr => hperm.mem_iff.mp (List.mem_of_mem_take hr)
  refine ⟨order, hperm, ?_, ?_, reportsOnlyAsked_of_subset hsome⟩
  · rw [WatchSet.alone_poll hbuffer hroster, show Facility.wait (β := Kqueue) = wait from rfl,
      halone]
    refine WatchSet.finishPoll_reply ?_ ?_ ?_ _ _
    · exact hroster
    · exact filterMap_event? hrecord hsome
    · rw [List.map_eq_nil_iff, List.map_eq_nil_iff]
  · intro hfits
    rw [List.take_of_length_le hfits]
    exact reportsReady_of_perm hperm

/-- In a set for two descriptors, one is watched for both directions and the other one for writing.
The first has something to read and room to write, the second neither. -/
theorem kqueue_reports_filters_both :
    ∃ (host : Host Kqueue) (L : List (Label Kqueue)) (m : Moment Kqueue)
      (events : List KqueueEvent) (added : List Addition) (reported : List Event),
      host.entries = [] ∧ Uninjected host ∧ Run Undisturbed (start host 2 true) L m ∧
      (∀ a ∈ L, a.Fine ∧ a.Clean) ∧ m.change = none ∧ m.poll = none ∧
      (Progress.alone (m.set.host.kernel.keventWait m.set.host.facility.handle.fd (room 2)
        none)).1 = .done events ∧
      added = [⟨.pack 0 0, .socket 50, .both, ⟨7⟩⟩, ⟨.pack 1 0, .file 51, .writable, ⟨8⟩⟩] ∧
      (Progress.alone (m.set.poll [] none)).1 = WatchSet.reply reported ∧
      ReportsReady m.set.host.kernel added reported ∧ ReportsOnlyAsked added reported := by
  obtain ⟨host, L, m, events, hempty, hinjected, hr, hchange, hpoll, hwait, hL, hadded, hready⟩ :
      ∃ (host : Host Kqueue) (L : List (Label Kqueue)) (m : Moment Kqueue)
        (events : List KqueueEvent), host.entries = [] ∧ Uninjected host ∧
        Run Undisturbed (start host 2 true) L m ∧ m.change = none ∧ m.poll = none ∧
        (Progress.alone (m.set.host.kernel.keventWait m.set.host.facility.handle.fd (room 2)
          none)).1 = .done events ∧
        (∀ a ∈ L, a.Fine ∧ a.Clean) ∧
        L.foldl (fun added a => a.tell added) [] =
          [⟨.pack 0 0, .socket 50, .both, ⟨7⟩⟩, ⟨.pack 1 0, .file 51, .writable, ⟨8⟩⟩] ∧
        (ready m.set.host.kernel (L.foldl (fun added a => a.tell added) [])).length = 2 := by
    refine ⟨⟨⟨⟨1000⟩⟩, { live := [1000] }, #[]⟩, _, _, _, rfl, rfl,
      .step (.beginAdd (.socket 50) .both ⟨7⟩ rfl) <| .step (.callChange rfl rfl) <|
      .step (.endChange rfl) <|
      .step (.beginAdd (.file 51) .writable ⟨8⟩ rfl) <| .step (.callChange rfl rfl) <|
      .step (.endChange rfl) <|
      .step (.world (show Undisturbed _ ⟨⟨⟨1000⟩⟩,
        { live := [1000]
          filters := [⟨50, -1, 0, 0⟩, ⟨50, -2, 0, 0⟩]
          kqueueRegistrations := [⟨50, -1, .pack 0 0⟩, ⟨50, -2, .pack 0 0⟩,
            ⟨51, -2, .pack 1 0⟩] }, #[]⟩
        from ⟨rfl, fun _ => rfl⟩)) <| .refl _, rfl, rfl, rfl, ?_, rfl, rfl⟩
    simp only [List.forall_mem_cons]
    refine ⟨⟨trivial, trivial⟩, ⟨⟨fun h => ?_, fun h => ?_, trivial⟩, rfl⟩, ⟨rfl, trivial⟩,
      ⟨trivial, trivial⟩, ⟨⟨fun h => ?_, trivial⟩, rfl⟩, ⟨rfl, trivial⟩, ⟨trivial, trivial⟩,
      by rintro a ⟨⟩⟩
    · cases h
    · cases h
    · cases h
  obtain ⟨order, hperm, hreply, hall, hasked⟩ :=
    kqueue_reports_filters hempty hinjected hr hL hchange hpoll none hwait []
  have hfits : order.length ≤ min 2 2147483647 := by
    rw [hperm.length_eq, hready]
    decide
  rw [hadded] at hall hasked
  exact ⟨host, L, m, events, _, _, hempty, hinjected, hr, hL, hchange, hpoll, hwait, rfl, hreply,
    hall hfits, hasked⟩

/-- **One of two filters.**  A set for one descriptor that is watched for both directions: both
filters have a state, every call succeeds, and the poll reports one of them. -/
theorem kqueue_reports_one_of_two :
    ∃ (host : Host Kqueue) (L : List (Label Kqueue)) (m : Moment Kqueue)
      (events : List KqueueEvent) (reported : List Event),
      host.entries = [] ∧ Uninjected host ∧ Run Undisturbed (start host 1 true) L m ∧
      (∀ a ∈ L, a.Fine ∧ a.Clean) ∧ m.change = none ∧ m.poll = none ∧
      (Progress.alone (m.set.host.kernel.keventWait m.set.host.facility.handle.fd (room 1)
        none)).1 = .done events ∧
      (Progress.alone (m.set.poll [] none)).1 = (.done reported.length, reported) ∧
      ¬ ReportsReady m.set.host.kernel (L.foldl (fun added a => a.tell added) []) reported := by
  refine ⟨⟨⟨⟨1000⟩⟩, { live := [1000] }, #[]⟩, _, _, _, [⟨.socket 50, ⟨7⟩, .readable⟩], rfl, rfl,
    .step (.beginAdd (.socket 50) .both ⟨7⟩ rfl) <| .step (.callChange rfl rfl) <|
    .step (.endChange rfl) <|
    .step (.world (show Undisturbed _ ⟨⟨⟨1000⟩⟩,
      { live := [1000]
        filters := [⟨50, -1, 0, 0⟩, ⟨50, -2, 0, 0⟩]
        kqueueRegistrations := [⟨50, -1, .pack 0 0⟩, ⟨50, -2, .pack 0 0⟩] }, #[]⟩
      from ⟨rfl, fun _ => rfl⟩)) <| .refl _, ?_, rfl, rfl, rfl, rfl, ?_⟩
  · simp only [List.forall_mem_cons]
    refine ⟨⟨trivial, trivial⟩, ⟨⟨fun h => ?_, fun h => ?_, trivial⟩, rfl⟩, ⟨rfl, trivial⟩,
      ⟨trivial, trivial⟩, by rintro a ⟨⟩⟩
    · cases h
    · cases h
  · intro hall
    obtain ⟨e, he, -, -, hbit⟩ := hall ⟨.pack 0 0, .socket 50, .both, ⟨7⟩⟩ List.mem_cons_self
      .writable (by decide) rfl
    obtain rfl := List.mem_singleton.mp he
    cases hbit

end Moment

end Readiness
