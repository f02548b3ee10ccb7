import Readiness.Proofs.Room
import Readiness.WatchSet.Membership

/-! # Rosters that cannot be told apart

Two rosters are *twins* if their rings are the same lists and their records stand for the same
additions.  They may differ in the readiness they have noted, which nobody sees.

* **Answers.**  Twins give the same answer to every question: their sizes, what is added, which
  record is found for a descriptor and which interests it has.
* **Operations** on both leave twins, and hand out the same tags (`Roster.Twins.accept`).
* **Changes** that end leave twins, if both facilities answered to an adding alike
  (`Roster.Twins.settle`). -/

namespace Readiness

/-- A removing that is not given up retires the record it found. -/
theorem Change.settle_removing {d : Descriptor} {i : Interests} {found : Option UInt32}
    {outcome : Outcome SystemError Unit} (hgoes : outcome.isHalted = false) (roster : Roster) :
    (removing d i found).settle outcome roster = (found.map roster.retire).getD roster := by
  cases outcome with
  | done _ | failed _ => cases found <;> rfl
  | halted cause => cases hgoes

namespace Roster

/-- Two rosters with the same lists and the same additions. -/
structure Twins (l : RosterLists) (r s : Roster) : Prop where
  left : r.Refines l
  right : s.Refines l
  addition? : ∀ j, r.addition? j = s.addition? j

variable {l : RosterLists} {r s r' s' : Roster} {d : Descriptor} {f : Interests} {id : EventId}
  {t : Tag} {i : UInt32}

theorem twins_empty : Twins {} {} {} := ⟨refines_empty, refines_empty, fun _ => rfl⟩

/-! ### Questions -/

theorem Twins.added (h : Twins l r s) : r.added = s.added := by
  rw [h.left.added_eq, h.right.added_eq]
  exact List.filterMap_congr fun j _ => h.addition? j

theorem Twins.stats (h : Twins l r s) : r.stats = s.stats := by
  simp only [Roster.stats, h.left.active.len, h.left.dead.len, h.left.free.len, h.right.active.len,
    h.right.dead.len, h.right.free.len, ← h.left.length_all, ← h.right.length_all]

theorem Twins.retired (h : Twins l r s) : r.retired = s.retired :=
  h.left.retired.trans h.right.retired.symm

theorem Twins.len (h : Twins l r s) : r.active.len = s.active.len :=
  h.left.active.len.trans h.right.active.len.symm

theorem Twins.find? (h : Twins l r s) (d : Descriptor) : r.find? d = s.find? d := by
  have hfor : r.isFor d = s.isFor d := by
    funext i
    rw [isFor_eq, isFor_eq, h.addition?]
  rw [h.left.find?_eq, h.right.find?_eq, hfor]

/-- The interests of a record are those of what it stands for. -/
theorem interestsOf_eq (r : Roster) (found : Option UInt32) :
    WatchSet.interestsOf r found =
      ((found.bind r.addition?).map Addition.interests).getD .both := by
  cases found with
  | none => rfl
  | some i =>
      simp only [WatchSet.interestsOf, Option.bind_some, Roster.record?, Roster.addition?,
        Arena.addition?]
      cases r.records[i.toNat]? <;> rfl

theorem Twins.interestsOf (h : Twins l r s) (found : Option UInt32) :
    WatchSet.interestsOf r found = WatchSet.interestsOf s found := by
  rw [interestsOf_eq, interestsOf_eq, show r.addition? = s.addition? from funext h.addition?]

/-! ### Allocating -/

/-- The generation of a record is that in the tag of what it stands for. -/
theorem generation_eq (records : Arena) (i : UInt32) :
    records.generation i = ((records.addition? i).map (·.tag.generation)).getD 0 := by
  unfold Arena.generation Arena.addition?
  cases records[i.toNat]? with
  | none => rfl
  | some record => exact (Tag.generation_pack ..).symm

theorem generation_reuse (records : Arena) (hi : i.toNat < records.size) :
    Arena.generation (records.modify i.toNat (·.reuse d f id)) i =
      (records.generation i + 1) &&& Tag.generationMask := by
  unfold Arena.generation
  rw [Arena.getElem?_modify_toNat, if_pos rfl, Array.getElem?_eq_getElem hi]
  rfl

/-- The tag of the next record that is allocated, if there is one. -/
theorem Refines.tag_allocate (h : r.Refines l) (ha : r.allocate d f id = some (t, r')) :
    t = match l.free with
      | [] => .pack (UInt32.ofNat l.all.length) 0
      | i :: _ => .pack i ((((r.addition? i).map (·.tag.generation)).getD 0 + 1) &&&
        Tag.generationMask) := by
  cases hfree : l.free with
  | nil =>
      rw [allocate_of_free_nil h hfree] at ha
      obtain ⟨-, he⟩ := Option.ite_none_left_eq_some.mp ha
      exact (Prod.mk.inj (Option.some.inj he)).1.symm
  | cons i rest =>
      rw [allocate_of_free_cons h hfree] at ha
      have hi : i.toNat < (r.free.erase r.records i).2.size := by
        rw [Ring.size_erase]
        exact h.free.lt_size (hfree ▸ List.mem_cons_self)
      rw [← (Prod.mk.inj (Option.some.inj ha)).1, generation_reuse _ hi, generation_eq,
        Arena.addition?_congr (Ring.bare?_erase ..)]
      rfl

/-- Twins take the same record, or none. -/
theorem Twins.allocate (h : Twins l r s) (d : Descriptor) (f : Interests) (id : EventId) :
    (r.allocate d f id = none ∧ s.allocate d f id = none) ∨
      ∃ t r' s' l', r.allocate d f id = some (t, r') ∧ s.allocate d f id = some (t, s') ∧
        Twins l' r' s' ∧ t.index ∈ l'.outside ∧ l'.active = l.active := by
  rcases h.left.allocate d f id with ⟨hr, hl⟩ | ⟨t, r', l', hr, hl, hr'⟩
  · rcases h.right.allocate d f id with ⟨hs, -⟩ | ⟨_, _, _, -, hl', -⟩
    · exact .inl ⟨hr, hs⟩
    · cases hl.symm.trans hl'
  · rcases h.right.allocate d f id with ⟨-, hl'⟩ | ⟨u, s', l'', hs, hl', hs'⟩
    · cases hl.symm.trans hl'
    · obtain ⟨-, rfl⟩ := Prod.mk.inj (Option.some.inj (hl.symm.trans hl'))
      obtain ⟨hactive, -, houtside, -⟩ := RosterLists.allocate_eq_some hl
      have htag : u = t := by
        rw [h.left.tag_allocate hr, h.right.tag_allocate hs,
          show r.addition? = s.addition? from funext h.addition?]
      subst htag
      refine .inr ⟨u, r', s', l', hr, hs, ⟨hr', hs', fun j => ?_⟩, houtside ▸ List.mem_cons_self,
        hactive⟩
      rw [h.left.addition?_allocate hr, h.right.addition?_allocate hs, h.addition?]

/-- Twins accept and refuse the same descriptors. -/
theorem Twins.accept (h : Twins l r s) (capacity : Nat) (d : Descriptor) (f : Interests)
    (id : EventId) :
    (∃ cause, r.accept capacity d f id = .error cause ∧ s.accept capacity d f id = .error cause) ∨
      ∃ t r' s' l', r.accept capacity d f id = .ok (t, r') ∧
        s.accept capacity d f id = .ok (t, s') ∧ Twins l' r' s' ∧ t.index ∈ l'.outside ∧
        l'.active = l.active := by
  unfold Roster.accept
  rw [h.find? d, h.len]
  split
  · exact .inl ⟨_, rfl, rfl⟩
  · split
    · exact .inl ⟨_, rfl, rfl⟩
    · rcases h.allocate d f id with ⟨hr, hs⟩ | ⟨t, r', s', l', hr, hs, hrest⟩
      · rw [hr, hs]
        exact .inl ⟨_, rfl, rfl⟩
      · rw [hr, hs]
        exact .inr ⟨t, r', s', l', rfl, rfl, hrest⟩

/-! ### Moving records -/

theorem Twins.activate (h : Twins l r s) (ht : t.index ∈ l.outside) :
    Twins (l.activate t.index) (r.activate t) (s.activate t) :=
  ⟨h.left.activate ht, h.right.activate ht, fun j => by simpa using h.addition? j⟩

theorem Twins.release (h : Twins l r s) (ht : t.index ∈ l.outside) :
    Twins (l.release t.index) (r.release t) (s.release t) :=
  ⟨h.left.release ht, h.right.release ht, fun j => by simpa using h.addition? j⟩

theorem Twins.retire (h : Twins l r s) (hi : i ∈ l.active) :
    Twins (l.retire i) (r.retire i) (s.retire i) :=
  ⟨h.left.retire hi, h.right.retire hi, fun j => by simpa using h.addition? j⟩

/-- Noting different readiness leaves twins. -/
theorem Twins.noteAll (h : Twins l r s) (events events' : List NativeEvent) :
    Twins l (events.foldl Roster.noteReadiness r) (events'.foldl Roster.noteReadiness s) := by
  obtain ⟨hr, hradd⟩ := h.left.noteAll events
  obtain ⟨hs, hsadd⟩ := h.right.noteAll events'
  exact ⟨hr, hs, fun j => by rw [hradd, hsadd, h.addition?]⟩

theorem Twins.reclaim (h : Twins l r s) (marker : Nat) :
    Twins (l.reclaim marker) (r.reclaim marker) (s.reclaim marker) :=
  ⟨h.left.reclaim marker, h.right.reclaim marker, fun j => by simpa using h.addition? j⟩

/-! ### Changes -/

/-- The end of a change leaves twins. -/
theorem Twins.settle (h : Twins l r s) {c : Change} {outcome outcome' : Outcome SystemError Unit}
    (hgoes : outcome.isHalted = false) (hgoes' : outcome'.isHalted = false)
    (hadding : ∀ x, c = .adding x → x.tag.index ∈ l.outside ∧ outcome' = outcome)
    (hremoving : ∀ d i j, c = .removing d i (some j) → j ∈ l.active) :
    ∃ l', Twins l' (c.settle outcome r) (c.settle outcome' s) := by
  cases c with
  | adding x =>
      obtain ⟨hout, hsame⟩ := hadding x rfl
      rw [hsame]
      cases outcome with
      | done value => exact ⟨_, h.activate hout⟩
      | failed cause => exact ⟨_, h.release hout⟩
      | halted cause => cases hgoes
  | removing d i found =>
      rw [Change.settle_removing hgoes, Change.settle_removing hgoes']
      cases found with
      | none => exact ⟨l, h⟩
      | some j => exact ⟨_, h.retire (hremoving d i j rfl)⟩

end Roster

end Readiness
