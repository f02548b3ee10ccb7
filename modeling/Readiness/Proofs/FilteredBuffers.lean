import Readiness.Facility.Scripted
import Readiness.Proofs.LonePolls
import Readiness.Proofs.TagHolders

/-! # What a poll makes of its buffer

Whatever a wait leaves in the buffer, the answer of the poll is the buffer with some entries left
out and the others masked.

* **Reading** (`NativeBuffer.read`).  The length that a buffer claims and the entries that it gives
  are any number and any entries at all; only those before the first missing one are read.
* **The loop** (`Roster.goThrough`).  A poll resolves, masks, notes and reports entry by entry.
  Noting the readiness of one entry does not matter to the entries after it
  (`Roster.goThrough_eq`), so the loop filters the list of entries (`Roster.filtered`).
* **Nothing is left over** (`Moment.poll_filters_buffer`).  What the caller's events were before is
  gone on every path. -/

namespace Readiness

/-! ### Reading -/

/-- The entries from 0 on, `n` of them or up to the first missing one. -/
def readThrough (get? : Nat → Option NativeEvent) (n : Nat) : List NativeEvent :=
  (((List.range n).map get?).takeWhile Option.isSome).filterMap id

theorem readThrough_succ (get? : Nat → Option NativeEvent) (n : Nat) :
    readThrough get? (n + 1) =
      (get? 0).elim [] fun e => e :: readThrough (fun i => get? (i + 1)) n := by
  rw [readThrough, List.range_succ_eq_map, List.map_cons, List.map_map]
  cases get? 0 with
  | none => rfl
  | some e => rfl

namespace NativeBuffer

/-- What a reader gets who asks for one entry after the other, up to the length that is claimed or
the first missing entry. -/
def read (b : NativeBuffer) : List NativeEvent := readThrough b.get? b.len

theorem leading_eq_readThrough (n : Nat) (entries : List (Option NativeEvent)) :
    leading n entries = readThrough (fun i => entries[i]?.join) n := by
  induction n generalizing entries with
  | zero => rfl
  | succ n ih =>
      rw [readThrough_succ]
      cases entries with
      | nil => rfl
      | cons entry rest =>
          cases entry with
          | none => rfl
          | some e => exact congrArg (e :: ·) (ih rest)

theorem reported_eq_read (b : NativeBuffer) : b.reported = b.read :=
  leading_eq_readThrough b.len b.entries

theorem isEmpty_iff (b : NativeBuffer) : b.isEmpty = true ↔ b.len = 0 := beq_iff_eq

/-- Every length and all entries below it are those of some buffer. -/
theorem exists_buffer (capacity len : Nat) (get : Nat → Option NativeEvent) :
    ∃ b : NativeBuffer, b.capacity = capacity ∧ b.len = len ∧ ∀ i < len, b.get? i = get i := by
  refine ⟨⟨capacity, (List.range len).map get, len⟩, rfl, rfl, fun i hi => ?_⟩
  simp [get?, hi]

end NativeBuffer

/-! ### The loop -/

namespace Roster

/-- The loop of a poll: of at most `n` entries from the one at `i` on, those whose tag resolves are
masked, noted, and added to the events unless nothing is left of them. -/
def goThrough (get? : Nat → Option NativeEvent) : Nat → Nat → List Event × Roster →
    List Event × Roster
  | 0, _, seen => seen
  | n + 1, i, (events, roster) =>
    match get? i with
    | none => (events, roster)
    | some e =>
      match roster.resolve? e.tag with
      | none => goThrough get? n (i + 1) (events, roster)
      | some r =>
        let readiness := reportable r e
        let events :=
          if readiness.isEmpty then events else events ++ [⟨r.descriptor, r.id, readiness⟩]
        goThrough get? n (i + 1) (events, roster.setReadiness e.tag readiness)

/-- The events for native events: without those whose tag does not resolve, with the readiness that
the interests of the record leave, and error and hang-up, and without those of which nothing is
left. -/
def filtered (roster : Roster) (native : List NativeEvent) : List Event :=
  (native.filterMap fun e => (roster.resolve? e.tag).map fun r =>
    (⟨r.descriptor, r.id, e.readiness &&& (.ofInterests r.interests ||| .error ||| .hup)⟩ :
      Event)).filter (!·.readiness.isEmpty)

theorem filterMap_event?_eq (roster : Roster) (native : List NativeEvent) :
    native.filterMap roster.event? = roster.filtered native := by
  rw [filtered, List.filter_filterMap]
  refine List.filterMap_congr fun e _ => ?_
  unfold event?
  cases hr : roster.resolve? e.tag with
  | none => rfl
  | some r =>
      dsimp only [Option.map_some]
      have hsame : e.readiness &&& (.ofInterests r.interests ||| .error ||| .hup) =
          reportable r e := rfl
      rw [hsame]
      by_cases hempty : (reportable r e).isEmpty = true
      · simp [hempty, Option.filter]
      · simp [hempty, Option.filter]

/-- What an event is reported as does not depend on the readiness that was noted before. -/
theorem event?_noteReadiness (roster : Roster) (noted e : NativeEvent) :
    (roster.noteReadiness noted).event? e = roster.event? e := by
  rw [event?_eq_bind, event?_eq_bind, named?, named?, addition?_noteReadiness]

theorem goThrough_succ (get? : Nat → Option NativeEvent) (n i : Nat) (events : List Event)
    (roster : Roster) :
    goThrough get? (n + 1) i (events, roster) = (get? i).elim (events, roster) fun e =>
      goThrough get? n (i + 1) (events ++ (roster.event? e).toList, roster.noteReadiness e) := by
  rw [goThrough]
  cases get? i with
  | none => rfl
  | some e =>
      dsimp only [Option.elim_some]
      rw [event?, noteReadiness]
      cases roster.resolve? e.tag with
      | none => simp only [Option.toList_none, List.append_nil]
      | some r =>
          dsimp only
          split
          · rw [Option.toList_none, List.append_nil]
          · rw [Option.toList_some]

/-- The loop filters the entries it reads, and notes the readiness of all of them. -/
theorem goThrough_eq (get? : Nat → Option NativeEvent) (n i : Nat) (events : List Event)
    (roster : Roster) :
    goThrough get? n i (events, roster) =
      (events ++ roster.filtered (readThrough (fun j => get? (i + j)) n),
        (readThrough (fun j => get? (i + j)) n).foldl noteReadiness roster) := by
  simp only [← filterMap_event?_eq]
  induction n generalizing i events roster with
  | zero => simp [goThrough, readThrough]
  | succ n ih =>
      rw [goThrough_succ, readThrough_succ, Nat.add_zero]
      cases h : get? i with
      | none => simp
      | some e =>
          have hshift : (fun j => get? (i + 1 + j)) = fun j => get? (i + (j + 1)) := by
            funext j
            rw [Nat.add_right_comm, Nat.add_assoc]
          have hevent : ((roster.noteReadiness e).event? : NativeEvent → Option Event) =
              roster.event? := funext (event?_noteReadiness roster e)
          simp only [Option.elim_some, ih, hshift, hevent, List.foldl_cons]
          cases he : roster.event? e with
          | none => simp [he]
          | some event => simp [he]

end Roster

/-! ### Polls -/

/-- The readiness of an event has no bits without a meaning. -/
theorem Conditions.truncate_mask (r : Conditions) (i : Interests) :
    (r.mask i).truncate = r.mask i := by
  refine congrArg Conditions.mk ((UInt8.and_assoc ..).trans (congrArg (r.bits &&& ·) ?_))
  cases i <;> rfl

/-- What a poll answers for what its wait returned, and what becomes of the rings. -/
structure FiltersBuffer (roster : Roster) (marker : Nat) (outcome : Outcome SystemError Unit)
    (b : NativeBuffer) (answer : Outcome Error Nat × List Event) (roster' : Roster) : Prop where
  failed : ∀ cause, outcome = .failed cause →
    answer = (.failed (.waitFailed cause), []) ∧ roster' = roster.reclaim marker
  timedOut : outcome = .done () → b.len = 0 → answer = (.failed .timedOut, [])
  done : outcome = .done () → b.len ≠ 0 →
    answer = (.done (roster.filtered b.read).length, roster.filtered b.read)
  loop : outcome = .done () → ∃ noted,
    Roster.goThrough b.get? b.len 0 ([], roster) = (answer.2, noted) ∧
      roster' = noted.reclaim marker
  known : ∀ event ∈ answer.2, event.readiness.truncate = event.readiness

/-- No record is for anything else, or in another generation, and the active ring is the same. -/
structure Roster.KeepsRecords (roster roster' : Roster) : Prop where
  additions : ∀ i, roster'.addition? i = roster.addition? i
  active : roster'.active.forward roster'.records = roster.active.forward roster.records

/-- The events that are filtered have no bits without a meaning. -/
theorem Roster.truncate_of_mem_filtered {roster : Roster} {native : List NativeEvent}
    {event : Event} (h : event ∈ roster.filtered native) :
    event.readiness.truncate = event.readiness := by
  obtain ⟨e, -, he⟩ := List.mem_filterMap.mp (List.mem_filter.mp h).1
  obtain ⟨r, -, rfl⟩ := Option.map_eq_some_iff.mp he
  exact Conditions.truncate_mask ..

namespace WatchSet

variable {β : Type} {s s' : WatchSet β}

/-- The end of a poll that finds the lock on the rings free. -/
theorem finishPoll_filters {marker : Nat} {outcome : Outcome SystemError Unit} {b : NativeBuffer}
    {answer : Outcome Error Nat × List Event}
    (h : s.finishPoll marker [] (outcome, b) = (answer, s')) (hroster : s.roster.held = false) :
    FiltersBuffer s.roster.value marker outcome b answer s'.roster.value := by
  have hanswer : (s.finishPoll marker [] (outcome, b)).1 = answer := congrArg Prod.fst h
  have hloop := Roster.goThrough_eq b.get? b.len 0 [] s.roster.value
  simp only [Nat.zero_add, List.nil_append] at hloop
  cases outcome with
  | halted cause =>
      obtain ⟨rfl, -⟩ := Prod.mk.inj h
      exact ⟨nofun, nofun, nofun, nofun, nofun⟩
  | failed cause =>
      rw [finishPoll_failed hroster] at h
      obtain ⟨rfl, rfl⟩ := Prod.mk.inj h
      exact ⟨by rintro other ⟨⟩; exact ⟨rfl, rfl⟩, nofun, nofun, nofun, nofun⟩
  | done value =>
      rw [finishPoll_succeeded hroster, NativeBuffer.reported_eq_read,
        Roster.filterMap_event?_eq] at hanswer
      obtain ⟨hgoes, hreported⟩ :
          answer.1.isHalted = false ∧ answer.2 = s.roster.value.filtered b.read := by
        rw [← hanswer]
        split
        · rename_i hempty
          rw [NativeBuffer.read, b.isEmpty_iff.mp hempty]
          exact ⟨rfl, rfl⟩
        · exact ⟨rfl, rfl⟩
      refine ⟨nofun, fun _ hempty => ?_, fun _ hfull => ?_, fun _ => ?_, ?_⟩
      · rw [← hanswer, if_pos (b.isEmpty_iff.mpr hempty)]
      · rw [← hanswer, if_neg (mt b.isEmpty_iff.mp hfull)]
      · obtain ⟨-, -, ⟨hhalt, -⟩ | ⟨-, -, hrings, -⟩⟩ := finishPoll_eq h
        · cases hhalt.symm.trans hgoes
        · refine ⟨_, hloop.trans (by rw [hreported]; rfl), ?_⟩
          rw [hrings, Lock.value_release, considered, NativeBuffer.reported_eq_read]
          rfl
      · rw [hreported]
        exact fun event he => Roster.truncate_of_mem_filtered he

/-- The end of a poll keeps the records and the active ring. -/
theorem finishPoll_keepsRecords {l : RosterLists} {marker : Nat}
    {result : Outcome SystemError Unit × NativeBuffer} {answer : Outcome Error Nat × List Event}
    (h : s.finishPoll marker [] result = (answer, s')) (hl : s.roster.value.Refines l) :
    s.roster.value.KeepsRecords s'.roster.value := by
  obtain ⟨-, -, ⟨-, hrings, -⟩ | ⟨-, -, hrings, -⟩⟩ := finishPoll_eq h
  · rw [hrings]
    exact ⟨fun _ => rfl, rfl⟩
  · obtain ⟨hnoted, hsame⟩ := hl.noteAll (considered result.2 result.1)
    rw [hrings, Lock.value_release]
    refine ⟨fun i => (Roster.addition?_reclaim ..).trans (hsame i), ?_⟩
    rw [hl.forward_active, (hnoted.reclaim marker).forward_active]
    rfl

end WatchSet

namespace Moment

variable {β : Type} {m : Moment β} {L : List (Label β)}

variable [Facility β] {W : Host β → Host β → Prop}

/-- **A poll filters its buffer.**  Take any moment of any run from a new set.

* What the caller's events were before a poll does not matter.
* A poll that ends then, with whatever its wait returned, filters the buffer if the lock on the
  rings is free, and keeps the records and the active ring in any case.
* A poll that is called then, with nobody else around, does so too. -/
theorem poll_filters_buffer {host : Host β} {capacity : Nat} {threadSafe : Bool}
    (hr : Run W (start host capacity threadSafe) L m) :
    (∀ events timeout, m.set.poll events timeout = m.set.poll [] timeout) ∧
    (∀ n marker outcome b answer m', Step W m (.polled n marker (outcome, b) answer) m' →
      (m.set.roster.held = false → FiltersBuffer m.roster marker outcome b answer m'.roster) ∧
        m.roster.KeepsRecords m'.roster) ∧
    (m.set.roster.held = false → m.set.buffer.held = false →
      ∀ events timeout outcome b host' answer s,
        Progress.alone (Facility.wait m.set.buffer.value timeout
          (m.set.host.note (.polling timeout))) = ((outcome, b), host') →
        Progress.alone (m.set.poll events timeout) = (answer, s) →
          FiltersBuffer m.roster m.roster.retired outcome b answer s.roster.value ∧
            m.roster.KeepsRecords s.roster.value) := by
  obtain ⟨l, hm, -⟩ := (shows_start host capacity threadSafe).run hr
  refine ⟨fun _ _ => rfl, ?_, ?_⟩
  · intro n marker outcome b answer m' hs
    obtain ⟨s, hfinish, rfl⟩ := hs.eq_of_polled
    exact ⟨WatchSet.finishPoll_filters hfinish, WatchSet.finishPoll_keepsRecords hfinish hm.refines⟩
  · intro hroster hbuffer events timeout outcome b host' answer s hwait hpoll
    rw [WatchSet.alone_poll hbuffer hroster, hwait] at hpoll
    have hfilters := WatchSet.finishPoll_filters hpoll hroster
    have hkeeps := WatchSet.finishPoll_keepsRecords hpoll hm.refines
    exact ⟨hfilters, hkeeps⟩

/-- A wait claims nine entries and gives six, the fifth of which is missing: one with all bits, one
with a tag that nobody got, one with nothing that was asked for, one of the first record again, and
one behind the gap.  The caller has an event from an earlier poll. -/
theorem poll_filters_buffer_gap :
    ∃ (host : Host Scripted) (L : List (Label Scripted)) (m : Moment Scripted) (b : NativeBuffer)
      (host' : Host Scripted) (answer : Outcome Error Nat × List Event) (s : WatchSet Scripted),
      Run (fun _ _ => False) (start host 8 false) L m ∧
      m.set.roster.held = false ∧ m.set.buffer.held = false ∧
      Progress.alone (Facility.wait m.set.buffer.value none (m.set.host.note (.polling none))) =
        ((.done (), b), host') ∧
      Progress.alone (m.set.poll [⟨.socket 9, ⟨9⟩, .readable⟩] none) = (answer, s) ∧
      b.len = 9 ∧ b.get? 4 = none ∧ b.get? 5 = some ⟨.pack 0 0, .hup⟩ ∧
      answer = (.done 2, [⟨.socket 1, ⟨7⟩, ⟨13⟩⟩, ⟨.socket 1, ⟨7⟩, .readable⟩]) ∧
      m.roster.KeepsRecords s.roster.value := by
  obtain ⟨host, L, m, b, host', answer, s, hr, hroster, hbuffer, hwait, hpoll, hlen, hgap, hlast,
      hfiltered⟩ :
      ∃ (host : Host Scripted) (L : List (Label Scripted)) (m : Moment Scripted)
        (b : NativeBuffer) (host' : Host Scripted) (answer : Outcome Error Nat × List Event)
        (s : WatchSet Scripted),
        Run (fun _ _ => False) (start host 8 false) L m ∧
        m.set.roster.held = false ∧ m.set.buffer.held = false ∧
        Progress.alone (Facility.wait m.set.buffer.value none
          (m.set.host.note (.polling none))) = ((.done (), b), host') ∧
        Progress.alone (m.set.poll [⟨.socket 9, ⟨9⟩, .readable⟩] none) = (answer, s) ∧
        b.len = 9 ∧ b.get? 4 = none ∧ b.get? 5 = some ⟨.pack 0 0, .hup⟩ ∧
        m.roster.filtered b.read = [⟨.socket 1, ⟨7⟩, ⟨13⟩⟩, ⟨.socket 1, ⟨7⟩, .readable⟩] := by
    exact ⟨⟨{
        pending := [⟨.pack 0 0, ⟨255⟩⟩, ⟨.pack 3 3, .readable⟩, ⟨.pack 0 0, .writable⟩,
          ⟨.pack 0 0, .readable⟩, ⟨.pack 0 0, .error⟩, ⟨.pack 0 0, .hup⟩]
        claimed := some 9
        hole := some 4 }, {}, #[]⟩,
      _, _, _, _, _, _,
      .step (.beginAdd (.socket 1) .readable ⟨7⟩ rfl) <| .step (.callChange rfl rfl) <|
      .step (.resumeChange rfl rfl) <| .step (.endChange rfl) <| .refl _,
      rfl, rfl, rfl, rfl, rfl, rfl, rfl, rfl⟩
  obtain ⟨-, -, halone⟩ := poll_filters_buffer hr
  obtain ⟨hfilters, hkeeps⟩ := halone hroster hbuffer _ _ _ _ _ _ _ hwait hpoll
  have hanswer := hfilters.done rfl (by rw [hlen]; decide)
  rw [hfiltered] at hanswer
  exact ⟨host, L, m, b, host', answer, s, hr, hroster, hbuffer, hwait, hpoll, hlen, hgap, hlast,
    hanswer, hkeeps⟩

end Moment

end Readiness
