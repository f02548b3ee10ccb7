import Readiness.Proofs.MomentLists

/-! # Records in no ring

An adding holds its record in no ring until the facility has answered.

* **Taken** (`Moment.taken`) is the record of the adding in progress, if there is one.
* **Lost** (`Label.lost?`) is the record of an adding that is given up: nobody puts it into a ring
  again.
* **Steps.**  `Moment.Handles` lists the four things that a step can do to such records, and
  `Moment.Shows.handles` says that there are no others.
* **Runs.**  The records in no ring are the one that is taken and those that were lost
  (`Moment.Shows.outside_run`). -/

namespace Readiness

variable {β : Type}

/-- The record that a change holds. -/
def Change.taken? : Change → Option UInt32
  | adding x => some x.tag.index
  | removing .. => none

/-- The record of an adding that is given up. -/
def Label.lost? : Label β → Option UInt32
  | ended (.adding x) (.halted _) => some x.tag.index
  | _ => none

theorem RosterLists.run?_singleton (l : RosterLists) (op : RosterOperation) :
    l.run? [op] = l.step? op := by
  rw [run?]
  cases l.step? op <;> rfl

/-- What one operation with a condition leads to. -/
theorem RosterLists.eq_of_run?_guarded {l l₁ l' : RosterLists} {op : RosterOperation} {c : Prop}
    [Decidable c] (hop : l.step? op = if c then some l₁ else none) (h : l.run? [op] = some l') :
    l' = l₁ := by
  rw [run?_singleton, hop] at h
  exact (Option.some.inj (Option.ite_none_right_eq_some.mp h).2).symm

namespace Moment

/-- The record that the change in progress holds. -/
def taken (m : Moment β) : Option UInt32 := m.change.bind (·.1.taken?)

/-- What a step does to the records in no ring, and to the number of active records.  The step loses
the record `lost`, if there is one. -/
inductive Handles (m : Moment β) (l : RosterLists) (lost : Option UInt32) (m' : Moment β)
    (l' : RosterLists) : Prop
  | kept : m'.taken = m.taken → lost = none → l'.outside = l.outside →
      l'.active.length ≤ l.active.length → Handles m l lost m' l'
  | took (i : UInt32) : m.taken = none → m'.taken = some i → lost = none →
      l'.outside = i :: l.outside → l'.active = l.active → l.active.length < m.set.capacity →
      Handles m l lost m' l'
  | gave (i : UInt32) : m.taken = some i → m'.taken = none → lost = none →
      l'.outside = l.outside.erase i → l'.active.length ≤ l.active.length + 1 →
      Handles m l lost m' l'
  | gaveUp (i : UInt32) : m.taken = some i → m'.taken = none → lost = some i →
      l'.outside = l.outside → l'.active = l.active → Handles m l lost m' l'

variable {m m' : Moment β} {l l' : RosterLists} {a : Label β}

theorem taken_eq (m : Moment β) : m.taken = (m.change.map Prod.fst).bind Change.taken? := by
  rw [taken, Option.bind_map]
  rfl

/-- A change that has ended gave its record back, or gave it up. -/
theorem handles_ended {c : Change} {outcome : Outcome SystemError Unit}
    (hc : m.change.map Prod.fst = some c)
    (hlists : l.run? (Label.ended (β := β) c outcome).operation?.toList = some l')
    (hc' : m'.change = none) : m.Handles l (Label.ended (β := β) c outcome).lost? m' l' := by
  have htaken : m.taken = c.taken? := by rw [taken_eq, hc]; rfl
  have hnone : m'.taken = none := by rw [taken, hc']; rfl
  cases c with
  | adding x =>
      cases outcome with
      | done value =>
          obtain rfl := RosterLists.eq_of_run?_guarded rfl hlists
          exact .gave x.tag.index htaken hnone rfl rfl (Nat.le_of_eq List.length_append)
      | failed cause =>
          obtain rfl := RosterLists.eq_of_run?_guarded rfl hlists
          exact .gave x.tag.index htaken hnone rfl rfl (Nat.le_succ _)
      | halted cause =>
          obtain rfl := Option.some.inj hlists
          exact .gaveUp x.tag.index htaken hnone rfl rfl rfl
  | removing d i found =>
      have hsame : m'.taken = m.taken := hnone.trans htaken.symm
      cases found with
      | none =>
          obtain rfl : l' = l := by cases outcome <;> exact (Option.some.inj hlists).symm
          exact .kept hsame rfl rfl (Nat.le_refl _)
      | some j =>
          cases outcome with
          | done _ | failed _ =>
              obtain rfl := RosterLists.eq_of_run?_guarded rfl hlists
              exact .kept hsame rfl rfl List.length_erase_le
          | halted cause =>
              obtain rfl := Option.some.inj hlists
              exact .kept hsame rfl rfl (Nat.le_refl _)

/-- The end of a poll does not touch the records in no ring. -/
theorem handles_polled {serial marker : Nat} {result : Outcome SystemError Unit × NativeBuffer}
    {answer : Outcome Error Nat × List Event}
    (hlists : l.run? (Label.polled (β := β) serial marker result answer).operation?.toList =
      some l') (htaken : m'.taken = m.taken) :
    m.Handles l (Label.polled (β := β) serial marker result answer).lost? m' l' := by
  obtain ⟨answered, events⟩ := answer
  cases answered with
  | done _ | failed _ =>
      obtain rfl := Option.some.inj hlists
      exact .kept htaken rfl rfl (Nat.le_refl _)
  | halted cause =>
      obtain rfl := Option.some.inj hlists
      exact .kept htaken rfl rfl (Nat.le_refl _)

/-- The records in no ring are the one that is taken and those that were lost, after a step as
well. -/
theorem Handles.outside {lost : Option UInt32} (h : m.Handles l lost m' l') {before : List UInt32}
    (ho : l.outside.Perm (m.taken.toList ++ before)) :
    l'.outside.Perm (m'.taken.toList ++ (before ++ lost.toList)) := by
  cases h with
  | kept htaken hlost houtside =>
      rw [houtside, htaken, hlost, Option.toList_none, List.append_nil]
      exact ho
  | took i htaken htaken' hlost houtside =>
      rw [htaken] at ho
      rw [houtside, htaken', hlost, Option.toList_none, List.append_nil]
      exact ho.cons i
  | gave i htaken htaken' hlost houtside =>
      rw [htaken] at ho
      rw [houtside, htaken', hlost, Option.toList_none, List.nil_append, List.append_nil]
      simpa using ho.erase i
  | gaveUp i htaken htaken' hlost houtside =>
      rw [htaken] at ho
      rw [houtside, htaken', hlost, Option.toList_none, List.nil_append]
      exact ho.trans List.perm_append_comm

/-- **One step.**  There is nothing else that a step does to the records in no ring. -/
theorem Shows.handles (h : m.Shows l) (hs : Moves m a m') :
    ∃ l', m.Advances l a m' l' ∧ m.Handles l a.lost? m' l' := by
  obtain ⟨l', hstep⟩ := h.moves hs
  refine ⟨l', hstep, ?_⟩
  have hlists := hstep.lists
  cases hs with
  | @quiet _ a ha _ _ hchange _ _ =>
      obtain rfl : l' = l := by cases a <;> first | exact (Option.some.inj hlists).symm | cases ha
      refine .kept ?_ ?_ rfl (Nat.le_refl _)
      · rw [taken_eq, taken_eq, hchange]
      · cases a <;> first | rfl | cases ha
  | beginPoll timeout hb =>
      obtain rfl := Option.some.inj hlists
      exact .kept rfl rfl rfl (Nat.le_refl _)
  | beginAdd d i id hb =>
      obtain ⟨hfree, -, hroom, roster, ha, rfl⟩ := WatchSet.beginAdd_eq_ok hb
      have hnone := h.change_eq_none hfree
      rcases h.refines.allocate d i id with ⟨hr, -⟩ | ⟨t, _, l'', hr, hl, -⟩
      · cases hr.symm.trans ha
      · obtain ⟨rfl, -⟩ := Prod.mk.inj (Option.some.inj (hr.symm.trans ha))
        rw [Label.operation?, Option.toList_some, RosterLists.run?_singleton, RosterLists.step?,
          hl] at hlists
        obtain rfl := Option.some.inj hlists
        obtain ⟨hactive, -, houtside, -⟩ := RosterLists.allocate_eq_some hl
        refine .took t.index ?_ rfl rfl houtside hactive ?_
        · rw [taken, hnone]; rfl
        · rw [← h.refines.active.len]
          exact hroom
  | beginRemove d hb =>
      obtain ⟨hfree, -, -, rfl⟩ := WatchSet.beginRemove_eq_ok hb
      obtain rfl := Option.some.inj hlists
      refine .kept ?_ rfl rfl (Nat.le_refl _)
      rw [taken, taken, h.change_eq_none hfree]
      rfl
  | endChange hc => exact handles_ended hc hlists rfl
  | endPoll hp he => exact handles_polled hlists rfl

/-- The records in no ring are the one that is taken and those that were lost. -/
theorem Shows.outside_moving (h : m.Shows l) {before : List UInt32}
    (ho : l.outside.Perm (m.taken.toList ++ before)) {L : List (Label β)} (hr : Moving m L m') :
    ∃ l', m'.Shows l' ∧
      l'.outside.Perm (m'.taken.toList ++ (before ++ L.filterMap Label.lost?)) := by
  induction hr generalizing l before with
  | refl m => exact ⟨l, h, by simpa using ho⟩
  | step hs _ ih =>
      obtain ⟨l₁, hstep, hhandles⟩ := h.handles hs
      obtain ⟨l', hshows, hl'⟩ := ih hstep.shows (hhandles.outside ho)
      refine ⟨l', hshows, ?_⟩
      rwa [List.append_assoc, ← RosterLists.filterMap_cons_eq] at hl'

variable [Facility β] {W : Host β → Host β → Prop}

/-- **A run.**  The records in no ring are the one that is taken and those that were lost. -/
theorem Shows.outside_run (h : m.Shows l) {before : List UInt32}
    (ho : l.outside.Perm (m.taken.toList ++ before)) {L : List (Label β)} (hr : Run W m L m') :
    ∃ l', m'.Shows l' ∧
      l'.outside.Perm (m'.taken.toList ++ (before ++ L.filterMap Label.lost?)) :=
  h.outside_moving ho hr.moving

end Moment

end Readiness
