import Readiness.Facility.Scripted
import Readiness.Proofs.RecordsInUse

/-! # Calls that are given up

A call of the facility may give up half-way, and then the call of the set that asked for it ends at
once.

* **Locks.**  A call that is given up leaves its lock free, in both modes.
* **Additions.**  An adding or a removing that is given up leaves what is added as it is, and so
  does a poll, apart from what others added and removed meanwhile.
* **Records.**  A removing or a poll that is given up leaves every record in its ring.  An adding
  does not: its record stays in no ring for good (`Label.lost?`), although it still counts as
  allocated.  `Moment.given_up_recovers` says that there are no other such records, and
  `Moment.given_up_loses_record` that there are such. -/

namespace Readiness

/-- The records in the rings. -/
def Roster.inRings (roster : Roster) : List UInt32 :=
  roster.active.forward roster.records ++ roster.dead.forward roster.records ++
    roster.free.forward roster.records

theorem Roster.Refines.inRings_eq {roster : Roster} {l : RosterLists} (h : roster.Refines l) :
    roster.inRings = l.active ++ l.dead ++ l.free := by
  rw [inRings, h.forward_active, h.forward_dead, h.forward_free]

/-- The end of a change. -/
def Label.isEnded {β : Type} : Label β → Bool
  | ended .. => true
  | _ => false

theorem Label.foldl_tell_eq {β : Type} {L : List (Label β)} (hL : ∀ a ∈ L, a.isEnded = false)
    (added : List Addition) : L.foldl (fun added a => a.tell added) added = added := by
  induction L generalizing added with
  | nil => rfl
  | cons a rest ih =>
      obtain ⟨ha, hrest⟩ := List.forall_mem_cons.mp hL
      have hsame : a.tell added = added := by
        cases a with
        | ended c outcome => cases ha
        | _ => rfl
      rw [List.foldl_cons, hsame]
      exact ih hrest added

namespace Moment

variable {β : Type} {m m' : Moment β} {l : RosterLists}

/-- The records in the rings, the one that is taken and those in `lost` are all records, each of
them once. -/
structure Places (m : Moment β) (lost : List UInt32) : Prop where
  nodup : (m.roster.inRings ++ m.taken.toList ++ lost).Nodup
  mem_iff : ∀ i, i ∈ m.roster.inRings ++ m.taken.toList ++ lost ↔ i.toNat < m.roster.records.size
  sizes : m.roster.stats.active + m.roster.stats.dead + m.roster.stats.free +
    m.taken.toList.length + lost.length = m.roster.stats.allocated

theorem Shows.places (h : m.Shows l) {lost : List UInt32}
    (ho : l.outside.Perm (m.taken.toList ++ lost)) : m.Places lost := by
  have hall : l.all.Perm (m.roster.inRings ++ m.taken.toList ++ lost) := by
    rw [h.refines.inRings_eq, RosterLists.all, List.append_assoc _ m.taken.toList]
    exact ho.append_left _
  refine ⟨hall.nodup_iff.mp h.refines.nodup, fun i => ?_, ?_⟩
  · rw [← hall.mem_iff, h.refines.mem_all]
  · have hlength := hall.length_eq
    simp only [h.refines.inRings_eq, h.refines.length_all, List.length_append] at hlength
    simp only [Roster.stats, h.refines.active.len, h.refines.dead.len, h.refines.free.len, hlength]

variable [Facility β] {W : Host β → Host β → Prop}

/-- A change that has ended leaves the lock on the rings free. -/
theorem Shows.acquire_of_ended (h : m.Shows l) {c : Change}
    {outcome : Outcome SystemError Unit} (hs : Step W m (.ended c outcome) m') :
    ∃ lock, m'.set.roster.acquire = .ok lock := by
  obtain ⟨l', hstep⟩ := h.step hs
  refine ⟨_, Lock.acquire_eq_ok_iff.mpr ⟨?_, rfl⟩⟩
  rw [hstep.shows.roster_held]
  cases hs
  rfl

/-- A poll that has ended leaves the lock on the buffer free. -/
theorem Shows.acquire_of_polled (h : m.Shows l) {serial marker : Nat}
    {result : Outcome SystemError Unit × NativeBuffer} {answer : Outcome Error Nat × List Event}
    (hs : Step W m (.polled serial marker result answer) m') :
    ∃ lock, m'.set.buffer.acquire = .ok lock := by
  obtain ⟨l', hstep⟩ := h.step hs
  refine ⟨_, Lock.acquire_eq_ok_iff.mpr ⟨?_, rfl⟩⟩
  rw [hstep.shows.buffer_held]
  cases hs
  rfl

/-- A poll whose wait was given up leaves the rings alone. -/
theorem roster_of_halted {serial marker : Nat} {cause : Halt} {b : NativeBuffer}
    {answer : Outcome Error Nat × List Event}
    (hs : Step W m (.polled serial marker (.halted cause, b) answer) m') :
    m'.set.roster = m.set.roster := by
  cases hs with
  | endPoll hp he => exact (congrArg (·.2.roster) he).symm

/-- What a set is like in which calls may be given up, after every run that begins with a new set:
`lost` are the records that are in no ring any more.

* An adding or a removing that is given up leaves the lock on the rings free and the additions as
  they were.
* A poll that is given up leaves the lock on the buffer free and the rings alone, so the additions
  are those of before, apart from what others added and removed meanwhile.
* Every record is in one ring, or taken by the adding in progress, or lost. -/
def Recovers (β : Type) [Facility β] (lost : List (Label β) → List UInt32) : Prop :=
  ∀ (W : Host β → Host β → Prop) (host : Host β) (capacity : Nat) (threadSafe : Bool)
    (L : List (Label β)) (m : Moment β), Run W (start host capacity threadSafe) L m →
    (∀ c cause L' m₁ m₂ m', Step W m (.began c) m₁ → Run W m₁ L' m₂ →
      (∀ a ∈ L', a.isEnded = false) → Step W m₂ (.ended c (.halted cause)) m' →
        (∃ lock, m'.set.roster.acquire = .ok lock) ∧ m'.roster.added = m.roster.added) ∧
    (∀ serial marker cause b answer L' m₁ m₂ m', Step W m (.marked serial marker) m₁ →
      Run W m₁ L' m₂ → Step W m₂ (.polled serial marker (.halted cause, b) answer) m' →
        (∃ lock, m'.set.buffer.acquire = .ok lock) ∧ m'.set.roster = m₂.set.roster ∧
          m'.roster.added = L'.foldl (fun added a => a.tell added) m.roster.added) ∧
    m.Places (lost L)

/-- **Calls that are given up** leave the locks free and the additions alone, and every record is in
one of the rings, or taken by an adding in progress, or was taken by an adding that was given up. -/
theorem given_up_recovers (β : Type) [Facility β] :
    Recovers β fun L => L.filterMap Label.lost? := by
  intro W host capacity threadSafe L m hr
  have hnone : ({} : RosterLists).outside.Perm
      ((start host capacity threadSafe).taken.toList ++ []) := .refl _
  obtain ⟨l, hm, ho⟩ := (shows_start host capacity threadSafe).outside_run hnone hr
  refine ⟨?_, ?_, hm.places ho⟩
  · intro c cause L' m₁ m₂ m' hbegan hrun hL' hended
    obtain ⟨l₁, hfirst⟩ := hm.step hbegan
    obtain ⟨l₂, hm₂, -, hadded⟩ := hfirst.shows.run hrun
    obtain ⟨l', hlast⟩ := hm₂.step hended
    refine ⟨hm₂.acquire_of_ended hended, ?_⟩
    rw [hlast.added, Label.tell, Change.tell, hadded, Label.foldl_tell_eq hL', hfirst.added]
    rfl
  · intro serial marker cause b answer L' m₁ m₂ m' hmarked hrun hpolled
    obtain ⟨l₁, hfirst⟩ := hm.step hmarked
    obtain ⟨l₂, hm₂, -, hadded⟩ := hfirst.shows.run hrun
    obtain ⟨l', hlast⟩ := hm₂.step hpolled
    refine ⟨hm₂.acquire_of_polled hpolled, roster_of_halted hpolled, hlast.added.trans ?_⟩
    show m₂.roster.added = _
    rw [hadded, hfirst.added]
    rfl

/-- An adding is given up, and so is the removing of another descriptor, which was added in between.
One record is lost; the other one is still active. -/
theorem given_up_recovers_removing :
    ∃ (host : Host Scripted) (L L' : List (Label Scripted)) (m m₁ m₂ m' : Moment Scripted)
      (c : Change) (cause : Halt), Run (fun _ _ => False) (start host 4 true) L m ∧
      Step (fun _ _ => False) m (.began c) m₁ ∧ Run (fun _ _ => False) m₁ L' m₂ ∧
      (∀ a ∈ L', a.isEnded = false) ∧
      Step (fun _ _ => False) m₂ (.ended c (.halted cause)) m' ∧
      c = .removing (.socket 2) .both (some 1) ∧
      (∃ lock, m'.set.roster.acquire = .ok lock) ∧
      m'.roster.added = [⟨.pack 1 0, .socket 2, .both, ⟨8⟩⟩] ∧ m.Places [0] := by
  obtain ⟨host, L, L', m, m₁, m₂, m', c, cause, hr, hbegan, hrun, hended, hc, hL', hlost,
      hadded⟩ :
      ∃ (host : Host Scripted) (L L' : List (Label Scripted)) (m m₁ m₂ m' : Moment Scripted)
        (c : Change) (cause : Halt), Run (fun _ _ => False) (start host 4 true) L m ∧
        Step (fun _ _ => False) m (.began c) m₁ ∧ Run (fun _ _ => False) m₁ L' m₂ ∧
        Step (fun _ _ => False) m₂ (.ended c (.halted cause)) m' ∧
        c = .removing (.socket 2) .both (some 1) ∧ (∀ a ∈ L', a.isEnded = false) ∧
        L.filterMap Label.lost? = [0] ∧
        m.roster.added = [⟨.pack 1 0, .socket 2, .both, ⟨8⟩⟩] := by
    refine ⟨⟨{}, { verdicts := [(.watch, .giveUp), (.unwatch, .giveUp)] }, #[]⟩,
      _, _, _, _, _, _, _, _,
      .step (.beginAdd (.socket 1) .readable ⟨7⟩ rfl) <| .step (.callChange rfl rfl) <|
      .step (.resumeChange rfl rfl) <| .step (.endChange rfl) <|
      .step (.beginAdd (.socket 2) .both ⟨8⟩ rfl) <| .step (.callChange rfl rfl) <|
      .step (.resumeChange rfl rfl) <| .step (.endChange rfl) <| .refl _,
      .beginRemove (.socket 2) rfl,
      .step (.callChange rfl rfl) <| .step (.resumeChange rfl rfl) <| .refl _,
      .endChange rfl, rfl, ?_, rfl, rfl⟩
    simp only [List.forall_mem_cons]
    exact ⟨rfl, rfl, by rintro a ⟨⟩⟩
  obtain ⟨hchange, -, hplaces⟩ := given_up_recovers Scripted _ host 4 true L m hr
  obtain ⟨hlock, hsame⟩ := hchange c cause L' m₁ m₂ m' hbegan hrun hL' hended
  exact ⟨host, L, L', m, m₁, m₂, m', c, cause, hr, hbegan, hrun, hL', hended, hc, hlock,
    hsame.trans hadded, hlost ▸ hplaces⟩

/-- **A record is lost** when an adding is given up: it is allocated, and in no ring. -/
theorem given_up_loses_record : ¬ Recovers Scripted fun _ => [] := by
  intro hall
  obtain ⟨host, L, m, hr, hrings, hsize⟩ :
      ∃ (host : Host Scripted) (L : List (Label Scripted)) (m : Moment Scripted),
        Run (fun _ _ => False) (start host 4 false) L m ∧
        m.roster.inRings ++ m.taken.toList ++ [] = [] ∧ m.roster.records.size = 1 := by
    exact ⟨⟨{}, { verdicts := [(.watch, .giveUp)] }, #[]⟩, _, _,
      .step (.beginAdd (.socket 1) .readable ⟨1⟩ rfl) <| .step (.callChange rfl rfl) <|
      .step (.resumeChange rfl rfl) <| .step (.endChange rfl) <| .refl _, rfl, rfl⟩
  have hmem := (hall _ host 4 false L m hr).2.2.mem_iff 0
  rw [hrings, hsize] at hmem
  exact List.not_mem_nil (hmem.mpr (by decide))

end Moment

end Readiness
