import Readiness.Proofs.LevelFacilities
import Readiness.Proofs.Settled

/-! # Served additions

* **Served additions** (`Levelled.Served`).  The facility serves the additions, their descriptors
  are valid, and the levels have no bit that a facility would not know.
* **Calls** of the facility answer as the levels and the valid descriptors call for, and leave the
  additions served (`Levelled.Served.change`, `Levelled.Served.wait`, `Levelled.Served.close`). -/

namespace Readiness

open Registry

/-- Noting the readiness of some events and reclaiming leave what is added. -/
theorem Roster.Refines.added_reclaim {roster : Roster} {l : RosterLists} (h : roster.Refines l)
    (events : List NativeEvent) (marker : Nat) :
    ((events.foldl Roster.noteReadiness roster).reclaim marker).added = roster.added := by
  obtain ⟨hnoted, hkept⟩ := h.noteAll events
  refine h.added_congr (hnoted.reclaim marker) rfl fun j _ => ?_
  rw [Roster.addition?_reclaim, hkept]

variable {β : Type} [Facility β] [Registry β] [Levelled β]

namespace Levelled

/-- The facility serves the additions, whose descriptors are valid and have levels that every
facility knows. -/
structure Served (isOpen : Bool) (h : Host β) (added : List Addition) : Prop where
  serving : Serving isOpen h added
  valid : ∀ x ∈ added, h.kernel.isInvalid x.descriptor.fd = false
  dry : h.kernel.Dry

variable {isOpen : Bool} {h h' : Host β} {added : List Addition}

/-! ### Calls of the facility -/

/-- After calls that leave the world as it is. -/
theorem Leaves.served {added' : List Addition} (hl : Leaves isOpen h h')
    (hdry : h.kernel.Dry) (hregisters : isOpen = true → RegistersOnly h' added')
    (hvalid : ∀ x ∈ added', h.kernel.isInvalid x.descriptor.fd = false) :
    Served isOpen h' added' := by
  refine ⟨⟨hl.unscripted, hl.runs, hregisters⟩, ?_, hdry.of_world hl.world⟩
  rw [Kernel.isInvalid_of_world hl.world]
  exact hvalid

/-- How the facility answers a change. -/
structure Answers (isOpen : Bool) (c : Change) (k : Kernel) (outcome : Outcome SystemError Unit) :
    Prop where
  goes : outcome.isHalted = false
  adding : ∀ x, c = .adding x → outcome = watchAnswer isOpen (k.isInvalid x.descriptor.fd)
  removing : ∀ d i j, c = .removing d i (some j) → isOpen = true → outcome = .done ()

theorem isHalted_watchAnswer (isOpen isInvalid : Bool) :
    (watchAnswer isOpen isInvalid).isHalted = false := by
  cases isOpen <;> cases isInvalid <;> rfl

/-- What is added when the facility has answered is valid. -/
theorem Answers.valid {c : Change} {k : Kernel} {outcome : Outcome SystemError Unit}
    (ha : Answers isOpen c k outcome) (hvalid : ∀ x ∈ added, k.isInvalid x.descriptor.fd = false) :
    ∀ x ∈ c.tell outcome added, k.isInvalid x.descriptor.fd = false := by
  intro y hy
  rcases Change.of_mem_tell hy with hy | ⟨rfl, hdone⟩
  · exact hvalid y hy
  · have hanswer := (ha.adding y rfl).symm.trans hdone
    by_contra hinvalid
    rw [Bool.not_eq_false] at hinvalid
    rw [hinvalid] at hanswer
    cases hanswer

variable [LawfulLevelled β]

theorem Served.answer (hs : Served isOpen h added) {c : Change} (hsound : c.Sound added)
    (hdistinct : (added.map (·.descriptor.fd)).Nodup) :
    ∃ outcome h', c.call h = (.returned outcome, h') ∧ Leaves isOpen h h' ∧
      Answers isOpen c h.kernel outcome := by
  cases c with
  | adding x =>
      obtain ⟨h', hwatch, hl⟩ := LawfulLevelled.watch hs.serving hsound
      refine ⟨_, h', hwatch, hl, isHalted_watchAnswer .., ?_, nofun⟩
      rintro y ⟨⟩
      rfl
  | removing d i found =>
      obtain ⟨outcome, h', hunwatch, hl, hgoes, hdone⟩ :=
        LawfulLevelled.unwatch hs.serving hsound hdistinct hs.valid
      refine ⟨outcome, h', hunwatch, hl, hgoes, nofun, ?_⟩
      rintro d' i' j ⟨⟩ hopen
      exact hdone hopen nofun

theorem Served.close (hs : Served true h added) :
    ∃ h', Facility.close h = (.done (), h') ∧ h'.kernel.world = h.kernel.world ∧
      Served false h' added := by
  obtain ⟨h', hclose, hl⟩ := LawfulLevelled.close hs.serving
  exact ⟨h', hclose, hl.world, hl.served hs.dry nofun hs.valid⟩

variable [LawfulRegistry β]

/-- The world changed, and the facility did not. -/
theorem Served.congr (hs : Served isOpen h added) (hfacility : h'.facility = h.facility)
    (hregistrations : h'.kernel.epollRegistrations = h.kernel.epollRegistrations)
    (hlive : h'.kernel.live = h.kernel.live) (hu : h'.kernel.Unscripted)
    (hvalid : ∀ x ∈ added, h'.kernel.isInvalid x.descriptor.fd = false) (hdry : h'.kernel.Dry) :
    Served isOpen h' added := by
  obtain ⟨hruns, hentries⟩ : (Runs isOpen h → Runs isOpen h') ∧ h'.entries = h.entries :=
    LawfulLevelled.congr hfacility hregistrations hlive
  exact ⟨⟨hu, hruns hs.serving.runs, fun hopen =>
    upholds_registersOnly.host hentries (hs.serving.registers hopen)⟩, hvalid, hdry⟩

theorem Served.of_native (hs : Served isOpen h added) (hfacility : h'.facility = h.facility)
    (hkernel : h'.kernel = h.kernel) : Served isOpen h' added := by
  refine hs.congr hfacility (by rw [hkernel]) (by rw [hkernel]) ?_ ?_ ?_ <;> rw [hkernel]
  · exact hs.serving.unscripted
  · exact hs.valid
  · exact hs.dry

/-- **A change** is answered, and what is added then is served. -/
theorem Served.change (hs : Served isOpen h added) {c : Change} (hsound : c.Sound added)
    (hdistinct : (added.map (·.descriptor.fd)).Nodup) :
    ∃ outcome h', c.call h = (.returned outcome, h') ∧ h'.kernel.world = h.kernel.world ∧
      Answers isOpen c h.kernel outcome ∧ Served isOpen h' (c.tell outcome added) := by
  obtain ⟨outcome, h', hcall, hl, ha⟩ := hs.answer hsound hdistinct
  refine ⟨outcome, h', hcall, hl.world, ha, hl.served hs.dry ?_ (ha.valid hs.valid)⟩
  intro hopen
  obtain ⟨outcome', hreturned, hregisters⟩ := upholds_registersOnly.call hsound hdistinct
    (hs.serving.registers hopen) hcall ⟨LawfulLevelled.honoured .., hl.failures⟩
  obtain rfl := Progress.returned.inj hreturned
  refine hregisters ⟨ha.goes, ?_⟩
  cases c with
  | adding x => trivial
  | removing d i found =>
      cases found with
      | none => trivial
      | some j => exact ha.removing d i j rfl hopen

/-- What a poll answers that finds the additions served. -/
def PollAnswers (isOpen : Bool) (level : Int32 → UInt32) (added : List Addition)
    (answer : Outcome Error Nat × List Event) : Prop :=
  if isOpen then ∃ seen : List Addition, seen.Perm added ∧
    answer = WatchSet.reply (seen.filterMap (Addition.levelEvent? level))
  else answer = (.failed (.waitFailed .badDescriptor), [])

/-- **A wait** leads to the events of the levels, in some order. -/
theorem Served.wait (hs : Served isOpen h added) (hdistinct : (added.map (·.descriptor.fd)).Nodup)
    (b : NativeBuffer) (timeout : Option Duration) (hpos : 0 < b.capacity)
    (hroom : added.length ≤ b.capacity) (hmax : b.capacity ≤ 2147483647) :
    ∃ result h', Progress.alone (Facility.wait b timeout h) = (result, h') ∧
      h'.kernel.world = h.kernel.world ∧ Served isOpen h' added ∧
      ∀ (s : WatchSet β) (marker : Nat), s.roster.held = false →
        (∀ x ∈ added, s.roster.value.addition? x.tag.index = some x) →
        PollAnswers isOpen h.kernel.level added (s.finishPoll marker [] result).1 := by
  cases isOpen with
  | false =>
      obtain ⟨b', h', hwait, hl⟩ := LawfulLevelled.waitClosed b timeout hs.serving
      refine ⟨_, h', hwait, hl.world, hl.served hs.dry nofun hs.valid, fun s marker hfree _ => ?_⟩
      simp [PollAnswers, WatchSet.finishPoll, WatchSet.answer, WatchSet.considered, Lock.acquire,
        hfree]
  | true =>
      obtain ⟨seen, native?, h', hwait, hl, hentries, hperm, hreports⟩ :=
        LawfulLevelled.wait timeout hs.serving hdistinct hs.valid hs.dry hpos hroom hmax
      refine ⟨_, h', hwait, hl.world, hl.served hs.dry (fun _ => ?_) hs.valid,
        fun s marker hfree hrecord => ⟨seen, hperm, ?_⟩⟩
      · exact upholds_registersOnly.host hentries (hs.serving.registers rfl)
      · exact (hreports _ fun x hx => hrecord x (hperm.mem_iff.mp hx)).finishPoll hfree marker b

/-! ### Ends of calls -/

/-- A change that is about to call the facility ends with its answer, and leaves what is added
served. -/
theorem Served.finish {m : Moment β} {l : RosterLists} {c : Change} (hm : m.Shows l)
    (hc : m.change = some (c, .ready)) (hs : Served isOpen m.set.host m.roster.added) :
    ∃ outcome host, c.call m.set.host = (.returned outcome, host) ∧
      Answers isOpen c m.set.host.kernel outcome ∧
      (c.finish outcome { m.set with host }).host.kernel.world = m.set.host.kernel.world ∧
      Served isOpen (c.finish outcome { m.set with host }).host
        (c.finish outcome { m.set with host }).roster.value.added := by
  obtain ⟨outcome, host, hcall, hworld, ha, hserved⟩ :=
    hs.change (hm.sound (by rw [hc]; rfl)) hm.distinct
  obtain ⟨l', hcalled⟩ := hm.step (.callChange (W := fun _ _ => True) hc hcall)
  obtain ⟨l'', hend⟩ := hcalled.shows.step (.endChange (W := fun _ _ => True) rfl)
  obtain ⟨hfacility, hkernel⟩ := WatchSet.host_of_native
    (Change.native_finish c outcome { m.set with host })
  refine ⟨outcome, host, hcall, ha, ?_, ?_⟩
  · rw [hkernel]
    exact hworld
  · rw [show (c.finish outcome { m.set with host }).roster.value.added =
      c.tell outcome m.roster.added from hend.added]
    exact hserved.of_native hfacility hkernel

theorem PollAnswers.goes {level : Int32 → UInt32} {answer : Outcome Error Nat × List Event}
    (ha : PollAnswers isOpen level added answer) : answer.1.isHalted = false := by
  cases isOpen with
  | false =>
      obtain rfl := ha
      rfl
  | true =>
      obtain ⟨seen, -, rfl⟩ := ha
      rw [WatchSet.reply]
      split <;> rfl

/-- **A poll** of a set at rest answers with the levels, and leaves what is added served. -/
theorem Served.poll {s : WatchSet β} (hs : Served isOpen s.host s.roster.value.added)
    (hrest : s.Settled) (hpos : 0 < s.capacity) (hmax : s.capacity ≤ 2147483647)
    (events : List Event) (timeout : Option Duration) :
    ∃ answer s', ∃ noted : List NativeEvent,
      Progress.alone (s.poll events timeout) = (answer, s') ∧
      PollAnswers isOpen s.host.kernel.level s.roster.value.added answer ∧
      s'.roster = s.roster.release ((noted.foldl Roster.noteReadiness s.roster.value).reclaim
        s.roster.value.retired) ∧
      s'.capacity = s.capacity ∧ s'.destroyed = s.destroyed ∧
      s'.host.kernel.world = s.host.kernel.world ∧ Served isOpen s'.host s'.roster.value.added := by
  have hroomy := hrest.roomy
  have hnoted : Served isOpen (s.host.note (.polling timeout)) s.roster.value.added :=
    hs.of_native rfl rfl
  obtain ⟨result, host, hwait, hworld, hserved, hanswer⟩ := hnoted.wait hrest.distinct
    s.buffer.value timeout (hroomy.buffer ▸ hpos) (hroomy.buffer ▸ hroomy.added)
    (hroomy.buffer ▸ hmax)
  have halone := WatchSet.alone_poll hrest.buffer_held hrest.roster_held events timeout
  rw [hwait] at halone
  have hanswer := hanswer { s with host, buffer := { s.buffer with held := true } }
    s.roster.value.retired hrest.roster_held hrest.record
  have hcapacity := WatchSet.capacity_finishPoll s.roster.value.retired [] result
    { s with host, buffer := { s.buffer with held := true } }
  have hdestroyed := WatchSet.destroyed_finishPoll s.roster.value.retired [] result
    { s with host, buffer := { s.buffer with held := true } }
  cases hfinish : WatchSet.finishPoll s.roster.value.retired [] result
    { s with host, buffer := { s.buffer with held := true } } with
  | mk answer s' =>
      rw [hfinish] at hanswer hcapacity hdestroyed
      obtain ⟨hnative, -, ⟨hhalt, -⟩ | ⟨-, -, hroster, -⟩⟩ := WatchSet.finishPoll_eq hfinish
      · cases hhalt.symm.trans hanswer.goes
      · obtain ⟨hfacility, hkernel⟩ := WatchSet.host_of_native hnative
        refine ⟨answer, s', WatchSet.considered result.2 result.1, halone.trans hfinish, hanswer,
          hroster, hcapacity, hdestroyed, ?_, ?_⟩
        · rw [hkernel]
          exact hworld
        · obtain ⟨l, hm⟩ := hrest.shows
          have hadded : s'.roster.value.added = s.roster.value.added :=
            (congrArg (·.value.added) hroster).trans (hm.refines.added_reclaim _ _)
          rw [hadded]
          exact hserved.of_native hfacility hkernel

end Levelled

end Readiness
