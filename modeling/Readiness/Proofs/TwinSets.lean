import Readiness.Proofs.RosterTwins
import Readiness.Proofs.Served

/-! # Sets that cannot be told apart

Two sets at rest, maybe on different facilities, are *twins* if their rings are twins and both
facilities serve what is added, in the same world.

* **Questions** have the same answers on twins.
* **Calls** on twins give the same answers and leave twins: `WatchSet.Twin.add`,
  `WatchSet.Twin.remove`, `WatchSet.Twin.destroy`, and `WatchSet.Twin.poll`, which may report its
  events in another order. -/

namespace Readiness

open Levelled

variable {β β' : Type} [Facility β] [Registry β] [Levelled β] [Facility β'] [Registry β']
  [Levelled β']

namespace WatchSet

/-- Two sets that cannot be told apart. -/
structure Twin (s : WatchSet β) (s' : WatchSet β') : Prop where
  rosters : ∃ l, Roster.Twins l s.roster.value s'.roster.value
  threadSafe : s'.roster.threadSafe = s.roster.threadSafe
  held : s'.roster.held = s.roster.held
  capacity : s'.capacity = s.capacity
  destroyed : s'.destroyed = s.destroyed
  world : s'.host.kernel.world = s.host.kernel.world
  left : Served (!s.destroyed) s.host s.roster.value.added
  right : Served (!s'.destroyed) s'.host s'.roster.value.added

variable {s t : WatchSet β} {s' t' : WatchSet β'}

/-! ### Questions -/

/-- Questions about the rings have the same answer. -/
theorem Twin.read (ht : Twin s s') {α : Type} {f : Roster → α}
    (hf : f s'.roster.value = f s.roster.value) :
    s'.roster.read.map f = s.roster.read.map f := by
  unfold Lock.read Lock.acquire
  rw [ht.held, ht.threadSafe]
  split
  · rfl
  · exact congrArg Except.ok hf

theorem Twin.stats (ht : Twin s s') : s'.stats = s.stats := by
  obtain ⟨l, hl⟩ := ht.rosters
  exact ht.read hl.stats.symm

theorem Twin.len (ht : Twin s s') : s'.len = s.len := by
  obtain ⟨l, hl⟩ := ht.rosters
  exact ht.read hl.len.symm

theorem Twin.answer (ht : Twin s s') {q : Query} (hq : q ≠ .text) :
    SetStep.answer s' q = SetStep.answer s q := by
  cases q with
  | text => exact absurd rfl hq
  | len | isEmpty | capacity | isThreadSafe | stats =>
      simp only [SetStep.answer, isEmpty, isThreadSafe, ht.len, ht.stats, ht.capacity,
        ht.threadSafe]

/-! ### Changes -/

variable [LawfulLevelled β] [LawfulRegistry β] [LawfulLevelled β'] [LawfulRegistry β']

/-- The sets are twins again when only the rings and the log changed, and what is added did not. -/
theorem Twin.locked (ht : Twin s s') {l : RosterLists} {r r' : Roster} (hr : Roster.Twins l r r')
    (hadded : r.added = s.roster.value.added) (entry entry' : LogEntry) :
    Twin ((s.note entry).locked r) ((s'.note entry').locked r') := by
  obtain ⟨l₀, hl₀⟩ := ht.rosters
  refine ⟨⟨l, hr⟩, ht.threadSafe, rfl, ht.capacity, ht.destroyed, ht.world, ?_, ?_⟩
  · show Served _ (s.host.note entry) r.added
    rw [hadded]
    exact ht.left.of_native rfl rfl
  · show Served _ (s'.host.note entry') r'.added
    rw [← hr.added, hadded, hl₀.added]
    exact ht.right.of_native rfl rfl

/-- **A change** on twins. -/
theorem Twin.change {m : Moment β} {m' : Moment β'} {c : Change} {l l₁ l₁' : RosterLists}
    (hm : m.Shows l₁) (hm' : m'.Shows l₁') (hc : m.change = some (c, .ready))
    (hc' : m'.change = some (c, .ready)) (ht : Twin m.set m'.set)
    (hl : Roster.Twins l m.roster m'.roster) (hout : ∀ x, c = .adding x → x.tag.index ∈ l.outside) :
    ∃ outcome outcome' host host', c.call m.set.host = (.returned outcome, host) ∧
      c.call m'.set.host = (.returned outcome', host') ∧ outcome.isHalted = false ∧
      outcome'.isHalted = false ∧ (∀ x, c = .adding x → outcome' = outcome) ∧
      Twin (c.finish outcome { m.set with host }) (c.finish outcome' { m'.set with host := host' }) := by
  obtain ⟨outcome, host, hcall, ha, hworld, hserved⟩ := ht.left.finish hm hc
  obtain ⟨outcome', host', hcall', ha', hworld', hserved'⟩ := ht.right.finish hm' hc'
  have hsame : ∀ x, c = .adding x → outcome' = outcome := fun x hx => by
    rw [ha.adding x hx, ha'.adding x hx, ht.destroyed, Kernel.isInvalid_of_world ht.world]
  have hrosters :
      ∃ l', Roster.Twins l' (c.settle outcome m.roster) (c.settle outcome' m'.roster) := by
    refine hl.settle ha.goes ha'.goes (fun x hx => ⟨hout x hx, hsame x hx⟩) ?_
    rintro d i j rfl
    obtain ⟨y, hy, rfl, -⟩ := hm.change (.removing d i (some j)) (by rw [hc]; rfl)
    exact (hl.left.mem_added_iff.mp hy).1
  refine ⟨outcome, outcome', host, host', hcall, hcall', ha.goes, ha'.goes, hsame, ?_, ?_, ?_, ?_,
    ?_, ?_, ?_, ?_⟩
  · rw [Change.roster_finish, Change.roster_finish]
    exact hrosters
  · rw [Change.roster_finish, Change.roster_finish]
    exact ht.threadSafe
  · rw [Change.roster_finish, Change.roster_finish]
    rfl
  · rw [Change.capacity_finish, Change.capacity_finish]
    exact ht.capacity
  · rw [Change.destroyed_finish, Change.destroyed_finish]
    exact ht.destroyed
  · rw [hworld, hworld']
    exact ht.world
  · rw [Change.destroyed_finish]
    exact hserved
  · rw [Change.destroyed_finish]
    exact hserved'

theorem Twin.add (ht : Twin s s') (hs : s.Settled) (hs' : s'.Settled) (d : Descriptor)
    (i : Interests) (id : EventId) :
    ∃ outcome t t', Progress.alone (s.add d i id) = (outcome, t) ∧
      Progress.alone (s'.add d i id) = (outcome, t') ∧ Twin t t' := by
  obtain ⟨l, hl⟩ := ht.rosters
  rcases hl.accept s.capacity d i id with ⟨cause, hr, hr'⟩ | ⟨t, r, r', l', hr, hr', hl', hout, -⟩
  · rw [← ht.capacity] at hr'
    refine ⟨_, _, _, alone_add_of_error hs.roster_held hr, alone_add_of_error hs'.roster_held hr',
      ⟨l, hl⟩, ht.threadSafe, ht.held, ht.capacity, ht.destroyed, ht.world, ?_, ?_⟩
    · exact ht.left.of_native rfl rfl
    · exact ht.right.of_native rfl rfl
  · rw [← ht.capacity] at hr'
    obtain ⟨l₀, hm₀⟩ := hs.shows
    obtain ⟨l₀', hm₀'⟩ := hs'.shows
    obtain ⟨l₁, hm⟩ := hm₀.step (.beginAdd (W := fun _ _ => True) d i id
      (beginAdd_of_accept hs.roster_held hr))
    obtain ⟨l₁', hm'⟩ := hm₀'.step (.beginAdd (W := fun _ _ => True) d i id
      (beginAdd_of_accept hs'.roster_held hr'))
    have hbegun := ht.locked hl' hm.added (.adding d i id) (.adding d i id)
    obtain ⟨outcome, outcome', host, host', hcall, hcall', -, -, hsame, htwin⟩ :=
      Twin.change hm.shows hm'.shows rfl rfl hbegun hl' (by
        rintro x ⟨⟩
        exact hout)
    obtain rfl := hsame _ rfl
    refine ⟨_, _, _, alone_add hs.roster_held hr hcall, ?_, htwin⟩
    exact (alone_add hs'.roster_held hr' hcall').trans
      (Prod.ext ((finishAdd_fst ..).trans (finishAdd_fst ..).symm) rfl)

theorem Twin.remove (ht : Twin s s') (hs : s.Settled) (hs' : s'.Settled) (d : Descriptor) :
    ∃ outcome t t', Progress.alone (s.remove d) = (outcome, t) ∧
      Progress.alone (s'.remove d) = (outcome, t') ∧ Twin t t' := by
  obtain ⟨l, hl⟩ := ht.rosters
  obtain ⟨l₀, hm₀⟩ := hs.shows
  obtain ⟨l₀', hm₀'⟩ := hs'.shows
  have hbegin' := beginRemove_of_free (d := d) hs'.roster_held
  have hfound' : s'.roster.value.find? d = s.roster.value.find? d := (hl.find? d).symm
  have hinterests := hl.interestsOf (s.roster.value.find? d)
  rw [hfound', ← hinterests] at hbegin'
  obtain ⟨l₁, hm⟩ := hm₀.step (.beginRemove (W := fun _ _ => True) d
    (beginRemove_of_free hs.roster_held))
  obtain ⟨l₁', hm'⟩ := hm₀'.step (.beginRemove (W := fun _ _ => True) d hbegin')
  have hbegun := ht.locked hl rfl (.removing d) (.removing d)
  obtain ⟨outcome, outcome', host, host', hcall, hcall', hgoes, hgoes', -, htwin⟩ :=
    Twin.change hm.shows hm'.shows rfl rfl hbegun hl nofun
  refine ⟨.done (s.roster.value.find? d).isSome, _, _, ?_, ?_, htwin⟩
  · exact (alone_remove (beginRemove_of_free hs.roster_held) hcall).trans
      (Prod.ext (finishRemove_fst hgoes ..) rfl)
  · exact (alone_remove hbegin' hcall').trans (Prod.ext (finishRemove_fst hgoes' ..) rfl)

/-! ### Destroying and polling -/

theorem Twin.destroy (ht : Twin s s') :
    s'.destroy.1 = s.destroy.1 ∧ Twin s.destroy.2 s'.destroy.2 := by
  cases hgone : s.destroyed with
  | true =>
      have hgone' : s'.destroyed = true := ht.destroyed.trans hgone
      rw [WatchSet.destroy, if_pos hgone', WatchSet.destroy, if_pos hgone]
      exact ⟨rfl, ht⟩
  | false =>
      have hgone' : s'.destroyed = false := ht.destroyed.trans hgone
      have hleft := ht.left
      have hright := ht.right
      rw [hgone] at hleft
      rw [hgone'] at hright
      have hnoted : Served true (s.host.note .destroying) s.roster.value.added :=
        hleft.of_native rfl rfl
      have hnoted' : Served true (s'.host.note .destroying) s'.roster.value.added :=
        hright.of_native rfl rfl
      obtain ⟨host, hclose, hworld, hserved⟩ := hnoted.close
      obtain ⟨host', hclose', hworld', hserved'⟩ := hnoted'.close
      have hdestroy : s.destroy = (.done (), { s with destroyed := true, host }) := by
        rw [WatchSet.destroy, if_neg (by rw [hgone]; exact Bool.false_ne_true)]
        simp only [note, hclose]
      have hdestroy' : s'.destroy = (.done (), { s' with destroyed := true, host := host' }) := by
        rw [WatchSet.destroy, if_neg (by rw [hgone']; exact Bool.false_ne_true)]
        simp only [note, hclose']
      rw [hdestroy, hdestroy']
      refine ⟨rfl, ht.rosters, ht.threadSafe, ht.held, ht.capacity, rfl, ?_, hserved, hserved'⟩
      exact hworld'.trans (ht.world.trans hworld.symm)

/-- What two polls answer agrees: the result is the same, and so are the events but for their
order. -/
def AnswersAgree (answer answer' : Outcome Error Nat × List Event) : Prop :=
  answer'.1 = answer.1 ∧ answer'.2.Perm answer.2

theorem reply_agree {events events' : List Event} (h : events'.Perm events) :
    AnswersAgree (reply events) (reply events') := by
  have hempty : events' = [] ↔ events = [] := by
    rw [← List.length_eq_zero_iff, h.length_eq, List.length_eq_zero_iff]
  unfold reply
  simp only [hempty]
  split
  · exact ⟨rfl, .refl _⟩
  · exact ⟨congrArg Outcome.done h.length_eq, h⟩

theorem Twin.poll (ht : Twin s s') (hs : s.Settled) (hs' : s'.Settled) (hpos : 0 < s.capacity)
    (hmax : s.capacity ≤ 2147483647) (events : List Event) (timeout : Option Duration) :
    ∃ answer answer' t t', Progress.alone (s.poll events timeout) = (answer, t) ∧
      Progress.alone (s'.poll events timeout) = (answer', t') ∧ AnswersAgree answer answer' ∧
      Twin t t' := by
  obtain ⟨l, hl⟩ := ht.rosters
  obtain ⟨answer, t, noted, halone, hanswer, hroster, hcapacity, hdestroyed, hworld, hserved⟩ :=
    ht.left.poll hs hpos hmax events timeout
  obtain ⟨answer', t', noted', halone', hanswer', hroster', hcapacity', hdestroyed', hworld',
    hserved'⟩ := ht.right.poll hs' (ht.capacity ▸ hpos) (ht.capacity ▸ hmax) events timeout
  refine ⟨answer, answer', t, t', halone, halone', ?_, ?_, ?_, ?_, ?_, ?_, ?_, ?_, ?_⟩
  · rw [ht.destroyed, Kernel.level_of_world ht.world, ← hl.added] at hanswer'
    unfold PollAnswers at hanswer hanswer'
    cases hopen : !s.destroyed with
    | false =>
        rw [hopen, if_neg Bool.false_ne_true] at hanswer hanswer'
        rw [hanswer, hanswer']
        exact ⟨rfl, .refl _⟩
    | true =>
        rw [hopen, if_pos rfl] at hanswer hanswer'
        obtain ⟨seen, hseen, rfl⟩ := hanswer
        obtain ⟨seen', hseen', rfl⟩ := hanswer'
        exact reply_agree ((hseen'.trans hseen.symm).filterMap _)
  · rw [hroster, hroster', ← hl.retired]
    exact ⟨_, (hl.noteAll noted noted').reclaim _⟩
  · rw [hroster, hroster']
    exact ht.threadSafe
  · rw [hroster, hroster']
    rfl
  · rw [hcapacity, hcapacity']
    exact ht.capacity
  · rw [hdestroyed, hdestroyed']
    exact ht.destroyed
  · rw [hworld, hworld']
    exact ht.world
  · rw [hdestroyed]
    exact hserved
  · rw [hdestroyed']
    exact hserved'

end WatchSet

end Readiness
