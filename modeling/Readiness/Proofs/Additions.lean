import Readiness.Proofs.RosterLists
import Readiness.WatchSet.Polling

/-! # What the records stand for

An *addition* is what one adding of a descriptor leaves behind: the tag that the facility gets, and
the descriptor, the interests and the identifier that its record is filled with.

* **Records.**  The record at an index stands for one addition (`Roster.addition?`).  Only
  allocating changes that, at the index it takes (`Roster.Refines.addition?_allocate`).
* **Tags.**  A tag resolves as long as its record stands for the addition of the tag, and the
  events for it are those of that addition (`Roster.event?_eq`).
* **Active records.**  `Roster.added` lists the additions of the active records.  The operations on
  the rings add one to this list, remove one, or leave it alone, and looking for a descriptor is
  looking in this list. -/

namespace Readiness

/-- One adding of a descriptor. -/
structure Addition where
  tag : Tag
  descriptor : Descriptor
  interests : Interests
  id : EventId
deriving DecidableEq, Repr

/-- The event to report when the facility reports the tag, unless nothing is left to report. -/
def Addition.event? (x : Addition) (readiness : Conditions) : Option Event :=
  if (readiness.mask x.interests).isEmpty then none
  else some ⟨x.descriptor, x.id, readiness.mask x.interests⟩

/-- What a record at an index stands for. -/
def Record.addition (i : UInt32) (r : Record) : Addition :=
  ⟨.pack i r.generation, r.descriptor, r.interests, r.id⟩

/-- What the record at an index stands for. -/
def Arena.addition? (records : Arena) (i : UInt32) : Option Addition :=
  records[i.toNat]?.map (·.addition i)

/-- Links do not matter for what a record stands for. -/
theorem Arena.addition?_congr {records records' : Arena} {i : UInt32}
    (h : records.bare? i = records'.bare? i) : records.addition? i = records'.addition? i := by
  have hbare : ∀ a : Arena, a.addition? i = (a.bare? i).map (·.addition i) := by
    intro a
    simp [Arena.addition?, Arena.bare?, Record.addition, Function.comp_def]
  rw [hbare, hbare, h]

namespace Roster

/-- What the record at an index stands for. -/
def addition? (roster : Roster) (i : UInt32) : Option Addition := roster.records.addition? i

/-- What the active records stand for. -/
def added (roster : Roster) : List Addition :=
  (roster.active.forward roster.records).filterMap roster.addition?

variable {roster roster' : Roster} {l : RosterLists} {i j : UInt32} {t : Tag} {x : Addition}
  {d : Descriptor} {f : Interests} {id : EventId}

theorem index_of_addition? (h : roster.addition? i = some x) : x.tag.index = i := by
  obtain ⟨r, -, rfl⟩ := Option.map_eq_some_iff.mp h
  exact Tag.index_pack ..

/-! ### Operations that leave the records as they are -/

@[simp] theorem addition?_activate (roster : Roster) (t : Tag) (j : UInt32) :
    (roster.activate t).addition? j = roster.addition? j :=
  Arena.addition?_congr (Ring.bare?_push ..)

@[simp] theorem addition?_release (roster : Roster) (t : Tag) (j : UInt32) :
    (roster.release t).addition? j = roster.addition? j :=
  Arena.addition?_congr (Ring.bare?_push ..)

@[simp] theorem addition?_retire (roster : Roster) (i j : UInt32) :
    (roster.retire i).addition? j = roster.addition? j :=
  Arena.addition?_congr ((Ring.bare?_push ..).trans (Ring.bare?_erase ..))

@[simp] theorem addition?_reclaimAll (roster : Roster) (j : UInt32) :
    roster.reclaimAll.addition? j = roster.addition? j :=
  Arena.addition?_congr (Ring.bare?_append ..)

@[simp] theorem addition?_reclaimOne (roster : Roster) (j : UInt32) :
    roster.reclaimOne.addition? j = roster.addition? j := by
  unfold Roster.reclaimOne Ring.pop?
  by_cases h : roster.dead.head = noLink
  · simp [h]
  · simp only [h, if_false]
    exact Arena.addition?_congr ((Ring.bare?_push ..).trans (Ring.bare?_erase ..))

@[simp] theorem addition?_reclaimEach (n : Nat) (roster : Roster) (j : UInt32) :
    (reclaimEach n roster).addition? j = roster.addition? j := by
  induction n generalizing roster with
  | zero => rfl
  | succ n ih => rw [Roster.reclaimEach, ih, addition?_reclaimOne]

@[simp] theorem addition?_reclaim (roster : Roster) (marker : Nat) (j : UInt32) :
    (roster.reclaim marker).addition? j = roster.addition? j := by
  rw [Roster.reclaim]
  by_cases hnone : marker - roster.reclaimed = 0
  · rw [if_pos hnone]
  · by_cases hall : roster.dead.len ≤ marker - roster.reclaimed
    · rw [if_neg hnone, if_pos hall]
      exact addition?_reclaimAll ..
    · rw [if_neg hnone, if_neg hall]
      exact addition?_reclaimEach ..

@[simp] theorem addition?_setReadiness (roster : Roster) (t : Tag) (c : Conditions) (j : UInt32) :
    (roster.setReadiness t c).addition? j = roster.addition? j := by
  unfold Roster.setReadiness
  split
  · rfl
  · simp only [addition?, Arena.addition?, Arena.getElem?_modify_toNat]
    split <;> simp [Function.comp_def, Record.addition]

@[simp] theorem addition?_noteReadiness (roster : Roster) (e : NativeEvent) (j : UInt32) :
    (roster.noteReadiness e).addition? j = roster.addition? j := by
  unfold Roster.noteReadiness
  split
  · rfl
  · exact addition?_setReadiness ..

theorem Refines.noteReadiness (h : roster.Refines l) (e : NativeEvent) :
    (roster.noteReadiness e).Refines l := by
  unfold Roster.noteReadiness
  split
  · exact h
  · exact h.setReadiness ..

/-! ### Allocating -/

theorem addition?_push (records : Arena) (r : Record)
    (hi : i.toNat = records.size) (j : UInt32) :
    Arena.addition? (records.push r) j =
      if j = i then some (r.addition i) else records.addition? j := by
  simp only [Arena.addition?, Array.getElem?_push, ← hi, UInt32.toNat_inj]
  by_cases h : j = i
  · simp [h]
  · simp [h]

theorem addition?_reuse (records : Arena) (hi : i.toNat < records.size) (j : UInt32) :
    Arena.addition? (records.modify i.toNat (·.reuse d f id)) j =
      if j = i then
        some ⟨.pack i (Arena.generation (records.modify i.toNat (·.reuse d f id)) i), d, f, id⟩
      else records.addition? j := by
  have hget : (records.modify i.toNat (·.reuse d f id))[i.toNat]? =
      some (records[i.toNat].reuse d f id) := by
    rw [Arena.getElem?_modify_toNat, if_pos rfl, Array.getElem?_eq_getElem hi, Option.map_some]
  by_cases h : j = i
  · subst h
    rw [if_pos rfl, Arena.addition?, Arena.generation, hget]
    rfl
  · rw [if_neg h, Arena.addition?, Arena.getElem?_modify_toNat, if_neg (Ne.symm h)]
    rfl

/-- Allocating fills the record whose index is in the tag, and no other. -/
theorem Refines.addition?_allocate (h : roster.Refines l)
    (ha : roster.allocate d f id = some (t, roster')) (j : UInt32) :
    roster'.addition? j = if j = t.index then some ⟨t, d, f, id⟩ else roster.addition? j := by
  cases hfree : l.free with
  | nil =>
      rw [allocate_of_free_nil h hfree] at ha
      obtain ⟨hroom, he⟩ := Option.ite_none_left_eq_some.mp ha
      obtain ⟨rfl, rfl⟩ := Prod.mk.inj (Option.some.inj he)
      rw [Tag.index_pack]
      exact addition?_push _ _ (h.toNat_fresh hroom) j
  | cons i rest =>
      rw [allocate_of_free_cons h hfree] at ha
      obtain ⟨rfl, rfl⟩ := Prod.mk.inj (Option.some.inj ha)
      have hi : i.toNat < (roster.free.erase roster.records i).2.size := by
        rw [Ring.size_erase]
        exact h.free.lt_size (hfree ▸ List.mem_cons_self)
      rw [Tag.index_pack]
      refine (addition?_reuse _ hi j).trans ?_
      rw [Arena.addition?_congr (Ring.bare?_erase ..)]
      rfl

/-! ### Tags -/

theorem resolve?_eq (h : roster.addition? x.tag.index = some x) :
    ∃ r, roster.resolve? x.tag = some r ∧ r.descriptor = x.descriptor ∧
      r.interests = x.interests ∧ r.id = x.id := by
  obtain ⟨r, hr, hx⟩ := Option.map_eq_some_iff.mp h
  have hgeneration : r.generation = x.tag.generation := by
    rw [← congrArg (·.tag.generation) hx]
    exact (Tag.generation_pack ..).symm
  refine ⟨r, ?_, congrArg (·.descriptor) hx, congrArg (·.interests) hx, congrArg (·.id) hx⟩
  simp [Roster.resolve?, Roster.record?, hr, hgeneration]

/-- While the record of a tag stands for its addition, events for the tag are those of the
addition. -/
theorem event?_eq (h : roster.addition? x.tag.index = some x) {e : NativeEvent}
    (he : e.tag = x.tag) : roster.event? e = x.event? e.readiness := by
  obtain ⟨r, hr, hd, hi, hid⟩ := resolve?_eq h
  simp only [Roster.event?, he, hr, Addition.event?, Roster.reportable, hd, hi, hid]

/-- An event is one for the addition that the record of its tag stands for. -/
theorem event?_eq_some {e : NativeEvent} {event : Event} (h : roster.event? e = some event) :
    ∃ x, roster.addition? x.tag.index = some x ∧ x.tag = e.tag ∧
      event.descriptor = x.descriptor ∧ event.id = x.id := by
  unfold Roster.event? at h
  cases hr : roster.resolve? e.tag with
  | none => simp [hr] at h
  | some r =>
      simp only [hr] at h
      split at h
      · cases h
      · obtain rfl := Option.some.inj h
        obtain ⟨hrecord, hgeneration⟩ := Option.filter_eq_some_iff.mp hr
        have htag : (r.addition e.tag.index).tag = e.tag := by
          rw [Record.addition, beq_iff_eq.mp hgeneration, Tag.pack_index_generation]
        refine ⟨r.addition e.tag.index, ?_, htag, rfl, rfl⟩
        rw [htag]
        exact congrArg (Option.map _) hrecord

/-! ### The active records -/

theorem Refines.added_eq (h : roster.Refines l) :
    roster.added = l.active.filterMap roster.addition? := by
  rw [Roster.added, h.forward_active]

theorem Refines.isSome_addition? (h : roster.Refines l) (hi : i ∈ l.all) :
    ∃ x, roster.addition? i = some x := by
  have hlt := (h.mem_all i).mp hi
  exact ⟨_, by rw [addition?, Arena.addition?, Array.getElem?_eq_getElem hlt, Option.map_some]⟩

theorem Refines.mem_added_iff (h : roster.Refines l) :
    x ∈ roster.added ↔ x.tag.index ∈ l.active ∧ roster.addition? x.tag.index = some x := by
  rw [h.added_eq, List.mem_filterMap]
  constructor
  · rintro ⟨i, hi, hx⟩
    rw [index_of_addition? hx]
    exact ⟨hi, hx⟩
  · rintro ⟨hi, hx⟩
    exact ⟨_, hi, hx⟩

/-- An operation that keeps the active ring and its records keeps the list of additions. -/
theorem Refines.added_congr {l' : RosterLists} (h : roster.Refines l) (h' : roster'.Refines l')
    (hactive : l'.active = l.active)
    (hsame : ∀ i ∈ l.active, roster'.addition? i = roster.addition? i) :
    roster'.added = roster.added := by
  rw [h.added_eq, h'.added_eq, hactive]
  exact List.filterMap_congr hsame

theorem Refines.added_activate (h : roster.Refines l) (ht : t.index ∈ l.outside)
    (hx : roster.addition? t.index = some x) :
    (roster.activate t).added = roster.added ++ [x] := by
  rw [h.added_eq, (h.activate ht).added_eq, RosterLists.activate, List.filterMap_append]
  simp [hx]

theorem Refines.added_retire (h : roster.Refines l) (hi : i ∈ l.active) :
    (roster.retire i).added = roster.added.filter (·.tag.index ≠ i) := by
  have hnodup := h.active.nodup
  rw [h.added_eq, (h.retire hi).added_eq, RosterLists.retire, hnodup.erase_eq_filter,
    List.filterMap_filter, List.filter_filterMap]
  refine List.filterMap_congr fun j _ => ?_
  rw [addition?_retire]
  cases hj : roster.addition? j with
  | none => simp
  | some y => simp [Option.filter, index_of_addition? hj]

theorem isFor_eq (roster : Roster) (d : Descriptor) (i : UInt32) :
    roster.isFor d i = (roster.addition? i).any (·.descriptor.sameAs d) := by
  unfold Roster.isFor addition? Arena.addition?
  cases roster.records[i.toNat]? <;> rfl

/-- A descriptor without an active record is not among the additions. -/
theorem Refines.find?_eq_none (h : roster.Refines l) (hfind : roster.find? d = none) :
    ∀ x ∈ roster.added, x.descriptor.fd ≠ d.fd := by
  intro x hx hd
  obtain ⟨hactive, hrecord⟩ := h.mem_added_iff.mp hx
  rw [h.find?_eq, List.find?_eq_none] at hfind
  refine hfind _ hactive ?_
  simp [isFor_eq, hrecord, Descriptor.sameAs, hd]

/-- The record found for a descriptor is active and stands for an addition of it. -/
theorem Refines.find?_eq_some (h : roster.Refines l) (hfind : roster.find? d = some i) :
    i ∈ l.active ∧ ∃ x ∈ roster.added, x.tag.index = i ∧ x.descriptor.fd = d.fd ∧
      roster.addition? i = some x := by
  rw [h.find?_eq] at hfind
  have hactive := List.mem_of_find?_eq_some hfind
  have hfor := List.find?_some hfind
  rw [isFor_eq, Option.any_eq_true] at hfor
  obtain ⟨x, hx, hd⟩ := hfor
  have hindex := index_of_addition? hx
  refine ⟨hactive, x, h.mem_added_iff.mpr ?_, hindex, by simpa [Descriptor.sameAs] using hd, hx⟩
  rw [hindex]
  exact ⟨hactive, hx⟩

end Roster

end Readiness
