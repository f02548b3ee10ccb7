import Readiness.Proofs.CallParts

/-! # Moments as lists

What holds at every moment of every run (`Moment.Shows`), whatever the facility does.

* **Rings.**  They are lists, and the labels say which operations happen to these lists
  (`Label.operation?`).
* **Locks.**  The lock on the rings is held exactly while a change is in progress, and the one on
  the buffer exactly while a poll is.
* **The change in progress** knows the truth (`Change.Fits`): the record it took stands for its
  addition and is in no ring, or the record it found is active and stands for an addition of the
  descriptor with those interests, or there is none.
* **Descriptors** that are added are different.

`Moment.Shows.step` is the step lemma and `Moment.Shows.run` the run lemma; `Label.tell` keeps
account of the additions.  Neither depends on how the facility is called, so both are said of
`Moment.Moves` first, which leaves that open. -/

namespace Readiness

variable {β : Type}

/-- A change in progress fits the rings. -/
def Change.Fits (roster : Roster) (l : RosterLists) : Change → Prop
  | adding x => x.tag.index ∈ l.outside ∧ roster.addition? x.tag.index = some x ∧
      ∀ y ∈ roster.added, y.descriptor.fd ≠ x.descriptor.fd
  | removing d i none => i = .both ∧ ∀ y ∈ roster.added, y.descriptor.fd ≠ d.fd
  | removing d i (some j) =>
      ∃ y ∈ roster.added, y.tag.index = j ∧ y.descriptor.fd = d.fd ∧ y.interests = i

/-- What is added when a change has ended. -/
def Change.tell : Change → Outcome SystemError Unit → List Addition → List Addition
  | _, .halted _, added => added
  | adding x, .done (), added => added ++ [x]
  | adding _, .failed _, added => added
  | removing _ _ (some i), _, added => added.filter (·.tag.index ≠ i)
  | removing _ _ none, _, added => added

/-- What is added when a change has ended was added before, or it is the addition itself. -/
theorem Change.of_mem_tell {c : Change} {outcome : Outcome SystemError Unit}
    {added : List Addition} {y : Addition} (h : y ∈ c.tell outcome added) :
    y ∈ added ∨ (c = adding y ∧ outcome = .done ()) := by
  cases c with
  | adding x =>
      cases outcome with
      | done value =>
          rcases List.mem_append.mp h with hy | hy
          · exact .inl hy
          · obtain rfl := List.mem_singleton.mp hy
            exact .inr ⟨rfl, rfl⟩
      | failed _ | halted _ => exact .inl h
  | removing d i found =>
      cases found with
      | none => cases outcome <;> exact .inl h
      | some j =>
          cases outcome with
          | done _ | failed _ => exact .inl (List.mem_of_mem_filter h)
          | halted cause => exact .inl h

namespace Label

/-- What is added after a step. -/
def tell : Label β → List Addition → List Addition
  | ended c outcome, added => c.tell outcome added
  | _, added => added

/-- A step after which the rings and the calls in progress are the same. -/
def isQuiet : Label β → Bool
  | silent => true
  | worked .. => true
  | destroyed => true
  | _ => false

/-- The end of a poll. -/
def isPolled : Label β → Bool
  | polled .. => true
  | _ => false

end Label

/-- The number and the marker of a poll in progress. -/
def Polling.ticket (p : Polling β) : Nat × Nat := (p.serial, p.marker)

namespace Moment

/-- The rings at a moment. -/
def roster (m : Moment β) : Roster := m.set.roster.value

/-- The invariant of all runs. -/
structure Shows (m : Moment β) (l : RosterLists) : Prop where
  refines : m.roster.Refines l
  roster_held : m.set.roster.held = m.change.isSome
  buffer_held : m.set.buffer.held = m.poll.isSome
  change : ∀ c, m.change.map Prod.fst = some c → c.Fits m.roster l
  distinct : (m.roster.added.map (·.descriptor.fd)).Nodup
  serial : ∀ n, m.poll.map Polling.serial = some n → n < m.polls

/-- What a step does to the lists and to the additions. -/
structure Advances (m : Moment β) (l : RosterLists) (a : Label β) (m' : Moment β)
    (l' : RosterLists) : Prop where
  shows : m'.Shows l'
  lists : l.run? a.operation?.toList = some l'
  added : m'.roster.added = a.tell m.roster.added
  kept : ∀ j ∈ l.active ++ l.dead, m'.roster.addition? j = m.roster.addition? j
  fresh : ∀ x, a = .began (.adding x) → x.tag.index ∉ l.active ++ l.dead

variable {m m' : Moment β} {a : Label β} {l : RosterLists}

/-- A change in progress holds the lock on the rings. -/
theorem Shows.change_eq_none (h : m.Shows l) (hfree : m.set.roster.held = false) :
    m.change = none := by
  rw [h.roster_held] at hfree
  exact Option.not_isSome_iff_eq_none.mp (by rw [hfree]; exact Bool.false_ne_true)

/-- A poll in progress holds the lock on the buffer. -/
theorem Shows.poll_eq_none (h : m.Shows l) (hfree : m.set.buffer.held = false) :
    m.poll = none := by
  rw [h.buffer_held] at hfree
  exact Option.not_isSome_iff_eq_none.mp (by rw [hfree]; exact Bool.false_ne_true)

theorem shows_start (host : Host β) (capacity : Nat) (threadSafe : Bool) :
    (start host capacity threadSafe).Shows {} where
  refines := Roster.refines_empty
  roster_held := rfl
  buffer_held := rfl
  change := by rintro c ⟨⟩
  distinct := List.nodup_nil
  serial := by rintro n ⟨⟩

/-! ### One step -/

theorem Shows.quiet (h : m.Shows l) (ha : a.isQuiet = true) (hroster : m'.set.roster = m.set.roster)
    (hbuffer : m'.set.buffer.held = m.set.buffer.held)
    (hchange : m'.change.map Prod.fst = m.change.map Prod.fst)
    (hpoll : m'.poll.map Polling.ticket = m.poll.map Polling.ticket)
    (hpolls : m'.polls = m.polls) : m.Advances l a m' l := by
  have hsame : m'.roster = m.roster := congrArg Lock.value hroster
  have hchange' : m'.change.isSome = m.change.isSome := by
    simpa using congrArg Option.isSome hchange
  have hpoll' : m'.poll.isSome = m.poll.isSome := by
    simpa using congrArg Option.isSome hpoll
  refine { shows := ?_, lists := ?_, added := ?_, kept := ?_, fresh := ?_ }
  · refine { refines := ?_, roster_held := ?_, buffer_held := ?_, change := ?_, distinct := ?_,
             serial := ?_ }
    · rw [hsame]; exact h.refines
    · rw [hroster, h.roster_held, hchange']
    · rw [hbuffer, h.buffer_held, hpoll']
    · rw [hchange, hsame]; exact h.change
    · rw [hsame]; exact h.distinct
    · have hserial : m'.poll.map Polling.serial = m.poll.map Polling.serial := by
        have := congrArg (Option.map Prod.fst) hpoll
        rwa [Option.map_map, Option.map_map] at this
      rw [hserial, hpolls]
      exact h.serial
  · cases a <;> first | rfl | cases ha
  · rw [hsame]
    cases a <;> first | rfl | cases ha
  · intro j _
    rw [hsame]
  · rintro x rfl
    cases ha

/-- A change that begins finds the lock on the rings free. -/
theorem Shows.beginAdd (h : m.Shows l) {d : Descriptor} {i : Interests} {id : EventId} {t : Tag}
    {s : WatchSet β} (hs : (m.set.note (.adding d i id)).beginAdd d i id = .ok (t, s)) :
    ∃ l', m.Advances l (.began (.adding ⟨t, d, i, id⟩))
      { m with set := s, change := some (.adding ⟨t, d, i, id⟩, .ready) } l' := by
  obtain ⟨-, hnew, -, roster, ha, rfl⟩ := WatchSet.beginAdd_eq_ok hs
  rcases h.refines.allocate d i id with ⟨hnone, -⟩ | ⟨t', roster', l', hsome, hl, h'⟩
  · exact absurd (hnone.symm.trans ha) (by simp)
  · obtain ⟨rfl, rfl⟩ := Prod.mk.inj (Option.some.inj (hsome.symm.trans ha))
    obtain ⟨hactive, hdead, houtside, -⟩ := RosterLists.allocate_eq_some hl
    have hfill := h.refines.addition?_allocate ha
    have hout : t'.index ∈ l'.outside := houtside ▸ List.mem_cons_self
    obtain ⟨hapart, hapart', -⟩ := RosterLists.apart h'.nodup
    -- the record that is filled is neither active nor dead
    have hfresh : t'.index ∉ l.active ++ l.dead := by
      intro hj
      rw [← hactive, ← hdead] at hj
      rcases List.mem_append.mp hj with hj | hj
      · exact (hapart _ hj).2.2 hout
      · exact (hapart' _ hj).2 hout
    have hkept : ∀ j ∈ l.active ++ l.dead, roster'.addition? j = m.roster.addition? j :=
      fun j hj => (hfill j).trans (if_neg fun (he : j = t'.index) => hfresh (he ▸ hj))
    have hadded : roster'.added = m.roster.added :=
      h.refines.added_congr h' hactive fun j hj => hkept j (List.mem_append_left _ hj)
    refine ⟨l', { shows := ?_, lists := ?_, added := hadded, kept := hkept, fresh := ?_ }⟩
    · refine { refines := h', roster_held := rfl, buffer_held := h.buffer_held, change := ?_,
               distinct := ?_, serial := h.serial }
      · rintro c ⟨⟩
        refine ⟨hout, (hfill _).trans (if_pos rfl), ?_⟩
        show ∀ y ∈ roster'.added, _
        rw [hadded]
        exact h.refines.find?_eq_none hnew
      · show (roster'.added.map _).Nodup
        rw [hadded]
        exact h.distinct
    · simp [Label.operation?, RosterLists.run?, RosterLists.step?, hl]
    · rintro x ⟨⟩
      exact hfresh

theorem Shows.beginRemove (h : m.Shows l) {d : Descriptor} {i : Interests}
    {found : Option UInt32} {s : WatchSet β}
    (hs : (m.set.note (.removing d)).beginRemove d = .ok ((found, i), s)) :
    m.Advances l (.began (.removing d i found))
      { m with set := s, change := some (.removing d i found, .ready) } l := by
  obtain ⟨-, hfound, hi, rfl⟩ := WatchSet.beginRemove_eq_ok hs
  refine { shows := ?_, lists := rfl, added := rfl, kept := fun _ _ => rfl, fresh := nofun }
  refine { refines := h.refines, roster_held := rfl, buffer_held := h.buffer_held, change := ?_,
           distinct := h.distinct, serial := h.serial }
  rintro c ⟨⟩
  cases found with
  | none => exact ⟨hi.symm, h.refines.find?_eq_none hfound⟩
  | some j =>
      obtain ⟨-, y, hy, hindex, hd, hrecord⟩ := h.refines.find?_eq_some hfound
      refine ⟨y, hy, hindex, hd, ?_⟩
      obtain ⟨r, hr, rfl⟩ := Option.map_eq_some_iff.mp hrecord
      have hr' : (m.set.note (.removing d)).roster.value.record? j = some r := hr
      rw [← hi, WatchSet.interestsOf, Option.bind_some, hr']
      rfl

end Moment

/-- When a change ends, the lists and the additions follow its label. -/
theorem Change.Fits.settle {c : Change} {roster : Roster} {l : RosterLists} (h : c.Fits roster l)
    (hrefines : roster.Refines l) (hdistinct : (roster.added.map (·.descriptor.fd)).Nodup)
    (outcome : Outcome SystemError Unit) :
    ∃ l', (c.settle outcome roster).Refines l' ∧
      l.run? (Label.ended (β := β) c outcome).operation?.toList = some l' ∧
      (c.settle outcome roster).added = c.tell outcome roster.added ∧
      ((c.settle outcome roster).added.map (·.descriptor.fd)).Nodup ∧
      ∀ j, (c.settle outcome roster).addition? j = roster.addition? j := by
  cases c with
  | adding x =>
      obtain ⟨hout, hx, hnew⟩ := h
      cases outcome with
      | done value =>
          have hadded := hrefines.added_activate hout hx
          refine ⟨_, hrefines.activate hout, ?_, hadded, ?_, Roster.addition?_activate _ _⟩
          · simp [Label.operation?, RosterLists.run?, RosterLists.step?, hout]
          · rw [Change.settle, hadded, List.map_append]
            refine List.nodup_append.mpr ⟨hdistinct, List.nodup_singleton _, ?_⟩
            simpa [List.mem_map] using hnew
      | failed cause =>
          have hadded : (roster.release x.tag).added = roster.added :=
            hrefines.added_congr (hrefines.release hout) rfl
              fun _ _ => Roster.addition?_release ..
          refine ⟨_, hrefines.release hout, ?_, hadded, ?_, Roster.addition?_release _ _⟩
          · simp [Label.operation?, RosterLists.run?, RosterLists.step?, hout]
          · exact hadded ▸ hdistinct
      | halted cause => exact ⟨l, hrefines, rfl, rfl, hdistinct, fun _ => rfl⟩
  | removing d i found =>
      cases found with
      | none => cases outcome <;> exact ⟨l, hrefines, rfl, rfl, hdistinct, fun _ => rfl⟩
      | some j =>
          obtain ⟨y, hy, rfl, -, -⟩ := h
          have hactive := (hrefines.mem_added_iff.mp hy).1
          have hretired := hrefines.added_retire hactive
          cases outcome with
          | done _ | failed _ =>
              refine ⟨_, hrefines.retire hactive, ?_, hretired, ?_, Roster.addition?_retire _ _⟩
              · simp [Label.operation?, RosterLists.run?, RosterLists.step?, hactive]
              · exact hretired ▸ hdistinct.sublist (List.filter_sublist.map _)
          | halted cause => exact ⟨l, hrefines, rfl, rfl, hdistinct, fun _ => rfl⟩

namespace Moment

variable {m m' : Moment β} {a : Label β} {l : RosterLists}

theorem Shows.endChange (h : m.Shows l) {c : Change} {outcome : Outcome SystemError Unit}
    (hc : m.change.map Prod.fst = some c) :
    ∃ l', m.Advances l (.ended c outcome)
      { m with set := c.finish outcome m.set, change := none } l' := by
  have hroster : Moment.roster { m with set := c.finish outcome m.set, change := none } =
      c.settle outcome m.roster := by
    rw [Moment.roster, Change.roster_finish]
    rfl
  obtain ⟨l', hrefines, hlists, hadded, hdistinct, haddition⟩ :=
    (h.change c hc).settle (β := β) h.refines h.distinct outcome
  refine ⟨l', { shows := ?_, lists := hlists, added := ?_, kept := ?_, fresh := nofun }⟩
  · refine { refines := ?_, roster_held := ?_, buffer_held := ?_, change := ?_, distinct := ?_,
             serial := h.serial }
    · rwa [hroster]
    · rw [Change.roster_finish]; rfl
    · rw [Change.buffer_finish]; exact h.buffer_held
    · rintro c ⟨⟩
    · rwa [hroster]
  · rwa [hroster]
  · intro j _
    rw [hroster]
    exact haddition j

end Moment

namespace Roster

/-- Noting the readiness of some events leaves the lists and the additions as they are. -/
theorem Refines.noteAll {roster : Roster} {l : RosterLists} (h : roster.Refines l)
    (events : List NativeEvent) :
    (events.foldl Roster.noteReadiness roster).Refines l ∧
      ∀ j, (events.foldl Roster.noteReadiness roster).addition? j = roster.addition? j := by
  induction events generalizing roster with
  | nil => exact ⟨h, fun _ => rfl⟩
  | cons e rest ih =>
      obtain ⟨hrefines, haddition⟩ := ih (h.noteReadiness e)
      exact ⟨hrefines, fun j => (haddition j).trans (addition?_noteReadiness ..)⟩

end Roster

namespace Moment

variable {m m' : Moment β} {a : Label β} {l : RosterLists}

theorem Shows.beginPoll (h : m.Shows l) {timeout : Option Duration} {marker : Nat}
    {s : WatchSet β} (hs : (m.set.note (.polling timeout)).beginPoll = .ok (marker, s)) :
    m.Advances l (.marked m.polls marker)
      { m with set := s, poll := some ⟨m.polls, marker, timeout, .ready⟩, polls := m.polls + 1 }
      l := by
  obtain ⟨-, -, -, rfl⟩ := WatchSet.beginPoll_eq_ok hs
  refine { shows := ?_, lists := rfl, added := rfl, kept := fun _ _ => rfl, fresh := nofun }
  refine { refines := h.refines, roster_held := h.roster_held, buffer_held := rfl,
           change := h.change, distinct := h.distinct, serial := ?_ }
  rintro n ⟨⟩
  exact Nat.lt_succ_self _

theorem Shows.endPoll (h : m.Shows l) {serial marker : Nat}
    {result : Outcome SystemError Unit × NativeBuffer} {answer : Outcome Error Nat × List Event}
    {s : WatchSet β} (hs : m.set.finishPoll marker [] result = (answer, s)) :
    ∃ l', m.Advances l (.polled serial marker result answer)
      { m with set := s, poll := none } l' := by
  obtain ⟨-, hbuffer, hrest⟩ := WatchSet.finishPoll_eq hs
  rcases hrest with ⟨hhalt, hroster, -⟩ | ⟨hhalt, hfree, hroster, -⟩
  · have hsame : Moment.roster { m with set := s, poll := none } = m.roster :=
      congrArg Lock.value hroster
    refine ⟨l, { shows := ?_, lists := ?_, added := ?_, kept := ?_, fresh := nofun }⟩
    · refine { refines := ?_, roster_held := ?_, buffer_held := ?_, change := ?_, distinct := ?_,
               serial := ?_ }
      · rw [hsame]; exact h.refines
      · rw [hroster]; exact h.roster_held
      · rw [hbuffer]; rfl
      · rw [hsame]; exact h.change
      · rw [hsame]; exact h.distinct
      · rintro n ⟨⟩
    · obtain ⟨answered, events⟩ := answer
      cases answered <;> first | rfl | cases hhalt
    · rw [hsame]; rfl
    · intro j _
      rw [hsame]
  · obtain ⟨hnoted, hkept⟩ := h.refines.noteAll (WatchSet.considered result.2 result.1)
    have hsame : Moment.roster { m with set := s, poll := none } =
        ((WatchSet.considered result.2 result.1).foldl Roster.noteReadiness m.roster).reclaim
          marker := congrArg Lock.value hroster
    have haddition : ∀ j, (Moment.roster { m with set := s, poll := none }).addition? j =
        m.roster.addition? j := by
      intro j
      rw [hsame, Roster.addition?_reclaim, hkept]
    have hrefines : (Moment.roster { m with set := s, poll := none }).Refines (l.reclaim marker) :=
      hsame ▸ hnoted.reclaim marker
    have hadded : (Moment.roster { m with set := s, poll := none }).added = m.roster.added :=
      h.refines.added_congr hrefines rfl fun j _ => haddition j
    have hchange := h.change_eq_none hfree
    refine ⟨l.reclaim marker, { shows := ?_, lists := ?_, added := hadded,
                                kept := fun j _ => haddition j, fresh := nofun }⟩
    · refine { refines := hrefines, roster_held := ?_, buffer_held := ?_, change := ?_,
               distinct := ?_, serial := ?_ }
      · rw [hroster, hchange]; rfl
      · rw [hbuffer]; rfl
      · rw [hchange]; rintro c ⟨⟩
      · rw [hadded]; exact h.distinct
      · rintro n ⟨⟩
    · obtain ⟨answered, events⟩ := answer
      cases answered <;> first | rfl | cases hhalt

/-! ### Steps of any facility -/

/-- What a step does to the locks, the rings and the calls in progress, whoever calls the facility and
whatever it does. -/
inductive Moves : Moment β → Label β → Moment β → Prop
  | quiet {m m' : Moment β} {a : Label β} : a.isQuiet = true →
      m'.set.roster = m.set.roster → m'.set.buffer.held = m.set.buffer.held →
      m'.change.map Prod.fst = m.change.map Prod.fst →
      m'.poll.map Polling.ticket = m.poll.map Polling.ticket → m'.polls = m.polls → Moves m a m'
  | beginAdd {m : Moment β} (d : Descriptor) (i : Interests) (id : EventId) {t : Tag}
      {s : WatchSet β} :
      (m.set.note (.adding d i id)).beginAdd d i id = .ok (t, s) →
      Moves m (.began (.adding ⟨t, d, i, id⟩))
        { m with set := s, change := some (.adding ⟨t, d, i, id⟩, .ready) }
  | beginRemove {m : Moment β} (d : Descriptor) {found : Option UInt32} {i : Interests}
      {s : WatchSet β} :
      (m.set.note (.removing d)).beginRemove d = .ok ((found, i), s) →
      Moves m (.began (.removing d i found))
        { m with set := s, change := some (.removing d i found, .ready) }
  | endChange {m : Moment β} {c : Change} {outcome : Outcome SystemError Unit} :
      m.change.map Prod.fst = some c →
      Moves m (.ended c outcome) { m with set := c.finish outcome m.set, change := none }
  | beginPoll {m : Moment β} (timeout : Option Duration) {marker : Nat} {s : WatchSet β} :
      (m.set.note (.polling timeout)).beginPoll = .ok (marker, s) →
      Moves m (.marked m.polls marker)
        { m with set := s, poll := some ⟨m.polls, marker, timeout, .ready⟩, polls := m.polls + 1 }
  | endPoll {m : Moment β} {serial marker : Nat}
      {result : Outcome SystemError Unit × NativeBuffer} {answer : Outcome Error Nat × List Event}
      {s : WatchSet β} :
      m.poll.map Polling.ticket = some (serial, marker) →
      m.set.finishPoll marker [] result = (answer, s) →
      Moves m (.polled serial marker result answer) { m with set := s, poll := none }

/-- Some steps of any facility, with their labels. -/
inductive Moving : Moment β → List (Label β) → Moment β → Prop
  | refl (m : Moment β) : Moving m [] m
  | step {m m₁ m₂ : Moment β} {a : Label β} {L : List (Label β)} :
      Moves m a m₁ → Moving m₁ L m₂ → Moving m (a :: L) m₂

theorem Moving.trans {m₁ m₂ m₃ : Moment β} {L L' : List (Label β)} (h : Moving m₁ L m₂)
    (h' : Moving m₂ L' m₃) : Moving m₁ (L ++ L') m₃ := by
  induction h with
  | refl m => exact h'
  | step hs _ ih => exact .step hs (ih h')

theorem Moving.single (h : Moves m a m') : Moving m [a] m' := .step h (.refl m')

/-- The invariant is kept, and the lists and the additions change as the label says. -/
theorem Shows.moves (h : m.Shows l) (hs : Moves m a m') : ∃ l', m.Advances l a m' l' := by
  cases hs with
  | quiet ha hroster hbuffer hchange hpoll hpolls =>
      exact ⟨l, h.quiet ha hroster hbuffer hchange hpoll hpolls⟩
  | beginAdd d i id hb => exact h.beginAdd hb
  | beginRemove d hb => exact ⟨l, h.beginRemove hb⟩
  | endChange hc => exact h.endChange hc
  | beginPoll timeout hb => exact ⟨l, h.beginPoll hb⟩
  | endPoll hp he => exact h.endPoll he

/-- The rings are the lists that the labels lead to, and the additions of the active records are those
that the labels tell of. -/
theorem Shows.moving (h : m.Shows l) {L : List (Label β)} (hr : Moving m L m') :
    ∃ l', m'.Shows l' ∧ l.run? (L.filterMap Label.operation?) = some l' ∧
      m'.roster.added = L.foldl (fun added a => a.tell added) m.roster.added := by
  induction hr generalizing l with
  | refl m => exact ⟨l, h, rfl, rfl⟩
  | step hs _ ih =>
      obtain ⟨l₁, hstep⟩ := h.moves hs
      obtain ⟨l', hshows, hlists, hadded⟩ := ih hstep.shows
      refine ⟨l', hshows, ?_, ?_⟩
      · rwa [RosterLists.filterMap_cons_eq, RosterLists.run?_append, hstep.lists]
      · rw [List.foldl_cons, hadded, hstep.added]

variable [Facility β] {W : Host β → Host β → Prop}

/-- Calling the facility, or going on inside it, moves nothing; the other steps move what they would
move on any facility. -/
theorem Step.moves (hs : Step W m a m') : Moves m a m' := by
  cases hs with
  | world | refuseAdd | refuseRemove | refusePoll => exact .quiet rfl rfl rfl rfl rfl rfl
  | beginAdd d i id hb => exact .beginAdd d i id hb
  | beginRemove d hb => exact .beginRemove d hb
  | callChange hc hp | resumeChange hc hp =>
      exact .quiet rfl rfl rfl (by rw [hc]; rfl) rfl rfl
  | endChange hc => exact .endChange (by rw [hc]; rfl)
  | beginPoll timeout hb => exact .beginPoll timeout hb
  | callWait hp hw | resumeWait hp hw => exact .quiet rfl rfl rfl rfl (by rw [hp]; rfl) rfl
  | endPoll hp he => exact .endPoll (by rw [hp]; rfl) he
  | destroy =>
      refine .quiet rfl ?_ ?_ rfl rfl rfl
      · exact WatchSet.roster_destroy m.set
      · exact congrArg Lock.held (WatchSet.buffer_destroy m.set)

theorem Run.moving {L : List (Label β)} (hr : Run W m L m') : Moving m L m' := by
  induction hr with
  | refl m => exact .refl m
  | step hs _ ih => exact .step hs.moves ih

/-- **One step.**  The invariant is kept, and the lists and the additions change as the label
says. -/
theorem Shows.step (h : m.Shows l) (hs : Step W m a m') : ∃ l', m.Advances l a m' l' :=
  h.moves hs.moves

/-- **A run.**  The rings are the lists that the labels of the run lead to, and the additions of
the active records are those that the labels tell of. -/
theorem Shows.run (h : m.Shows l) {L : List (Label β)} (hr : Run W m L m') :
    ∃ l', m'.Shows l' ∧ l.run? (L.filterMap Label.operation?) = some l' ∧
      m'.roster.added = L.foldl (fun added a => a.tell added) m.roster.added :=
  h.moving hr.moving

end Moment

end Readiness
