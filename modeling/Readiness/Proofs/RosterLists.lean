import Readiness.Proofs.RingLists
import Readiness.Roster.Basic

/-! # The rings of a roster as lists

`RosterLists` is a roster without links: three first-in first-out lists of record indices, the
records that are in no ring, and the number of records ever reclaimed.  Its operations are those
of a roster, said of lists.

* **Refinement.**  `Roster.Refines` ties a roster to its lists: each ring holds its list
  (`Ring.Holds`), no record is in two places, every record of the arena is in one, and the
  counters differ by the number of dead records.
* **Operations.**  Every operation of a roster does to the lists what the operation of the same
  name does (`Roster.Refines.allocate`, `Roster.Refines.retire`, `Roster.Refines.reclaim`, …).
  Splicing the dead ring and moving its records one by one come to the same. -/

namespace Readiness

/-- The rings of a roster as lists of record indices. -/
structure RosterLists where
  active : List UInt32 := []
  dead : List UInt32 := []
  free : List UInt32 := []
  /-- The records in no ring. -/
  outside : List UInt32 := []
  /-- How many records were ever moved from `dead` to `free`. -/
  reclaimed : Nat := 0
deriving DecidableEq, Repr

namespace RosterLists

/-- All records, wherever they are. -/
def all (l : RosterLists) : List UInt32 := l.active ++ l.dead ++ l.free ++ l.outside

/-- How many records were ever moved to `dead`. -/
def retired (l : RosterLists) : Nat := l.reclaimed + l.dead.length

/-- Take the first free record, or the next index if no record is free and there is one left. -/
def allocate (l : RosterLists) : Option (UInt32 × RosterLists) :=
  match l.free with
  | i :: rest => some (i, { l with free := rest, outside := i :: l.outside })
  | [] =>
    if Tag.maxRecords ≤ l.all.length then none
    else
      let i := UInt32.ofNat l.all.length
      some (i, { l with outside := i :: l.outside })

/-- Put a record from outside at the end of the active ones. -/
def activate (i : UInt32) (l : RosterLists) : RosterLists :=
  { l with active := l.active ++ [i], outside := l.outside.erase i }

/-- Put a record from outside at the end of the free ones. -/
def release (i : UInt32) (l : RosterLists) : RosterLists :=
  { l with free := l.free ++ [i], outside := l.outside.erase i }

/-- Move an active record to the end of the dead ones. -/
def retire (i : UInt32) (l : RosterLists) : RosterLists :=
  { l with active := l.active.erase i, dead := l.dead ++ [i] }

/-- Move the first `n` dead records to the end of the free ones. -/
def moveDead (n : Nat) (l : RosterLists) : RosterLists :=
  { l with dead := l.dead.drop n, free := l.free ++ l.dead.take n }

/-- How many of the dead records were retired before the marker. -/
def eligible (marker : Nat) (l : RosterLists) : Nat := min (marker - l.reclaimed) l.dead.length

/-- Move the records retired before the marker from the dead to the free ones. -/
def reclaim (marker : Nat) (l : RosterLists) : RosterLists :=
  { l.moveDead (l.eligible marker) with reclaimed := l.reclaimed + l.eligible marker }

variable {l l' : RosterLists} {i j : UInt32}

theorem moveDead_succ (n : Nat) (l : RosterLists) :
    l.moveDead (n + 1) = (l.moveDead 1).moveDead n := by
  cases hdead : l.dead <;> simp [moveDead, hdead]

theorem moveDead_of_nil {n : Nat} {l : RosterLists} (h : l.dead = []) : l.moveDead n = l := by
  cases l
  simp_all [moveDead]

/-! ### No operation loses or doubles a record -/

theorem count_move (l₁ : List UInt32) {l₂ : List UInt32} (hi : i ∈ l₂) (j : UInt32) :
    (l₁ ++ [i]).count j + (l₂.erase i).count j = l₁.count j + l₂.count j := by
  have hpos := List.count_pos_iff.mpr hi
  rw [List.count_append, List.count_erase, List.count_singleton]
  by_cases h : i = j
  · subst h; simp; omega
  · simp [h]

theorem perm_activate (hi : i ∈ l.outside) : (l.activate i).all.Perm l.all := by
  refine List.perm_iff_count.mpr fun j => ?_
  have hmove := count_move l.active hi j
  simp only [all, activate, List.count_append] at hmove ⊢
  omega

theorem perm_release (hi : i ∈ l.outside) : (l.release i).all.Perm l.all := by
  refine List.perm_iff_count.mpr fun j => ?_
  have hmove := count_move l.free hi j
  simp only [all, release, List.count_append] at hmove ⊢
  omega

theorem perm_retire (hi : i ∈ l.active) : (l.retire i).all.Perm l.all := by
  refine List.perm_iff_count.mpr fun j => ?_
  have hmove := count_move l.dead hi j
  simp only [all, retire, List.count_append] at hmove ⊢
  omega

theorem perm_moveDead (n : Nat) (l : RosterLists) : (l.moveDead n).all.Perm l.all := by
  refine List.perm_iff_count.mpr fun a => ?_
  have hsplit : (l.dead.take n).count a + (l.dead.drop n).count a = l.dead.count a := by
    rw [← List.count_append, List.take_append_drop]
  simp only [all, moveDead, List.count_append]
  omega

/-- The records in different places are different. -/
theorem apart (h : l.all.Nodup) :
    (∀ i ∈ l.active, i ∉ l.dead ∧ i ∉ l.free ∧ i ∉ l.outside) ∧
      (∀ i ∈ l.dead, i ∉ l.free ∧ i ∉ l.outside) ∧ ∀ i ∈ l.free, i ∉ l.outside := by
  simp only [all, List.nodup_append, List.mem_append] at h
  grind

end RosterLists

/-! ### Refinement -/

/-- The rings of a roster hold the lists, which share the records of the arena among them. -/
structure Roster.Threads (roster : Roster) (l : RosterLists) : Prop where
  active : roster.active.Holds roster.records l.active
  dead : roster.dead.Holds roster.records l.dead
  free : roster.free.Holds roster.records l.free
  nodup : l.all.Nodup
  mem_all : ∀ i, i ∈ l.all ↔ i.toNat < roster.records.size
  size_le : roster.records.size ≤ Tag.maxRecords

/-- A roster is its lists, and its counters fit them. -/
structure Roster.Refines (roster : Roster) (l : RosterLists) : Prop extends
    roster.Threads l where
  reclaimed : roster.reclaimed = l.reclaimed
  retired : roster.retired = l.retired

namespace Arena

@[simp] theorem links?_reuse (records : Arena) (i j : UInt32) (d : Descriptor) (f : Interests)
    (id : EventId) :
    links? (records.modify i.toNat (·.reuse d f id)) j = records.links? j := by
  simp only [links?, getElem?_modify_toNat]
  split <;> simp [Function.comp_def, Record.reuse]

theorem links?_push {records : Arena} {j : UInt32} (r : Record) (hj : j.toNat < records.size) :
    links? (records.push r) j = records.links? j := by
  simp [links?, Array.getElem?_push, Nat.ne_of_lt hj]

end Arena

namespace Roster

variable {roster : Roster} {l : RosterLists} {i : UInt32} {t : Tag}

theorem refines_empty : Roster.Refines {} {} where
  active := Ring.holds_nil _
  dead := Ring.holds_nil _
  free := Ring.holds_nil _
  nodup := List.nodup_nil
  mem_all := by intro i; simp [RosterLists.all]
  size_le := Nat.zero_le _
  reclaimed := rfl
  retired := rfl

theorem Threads.ne_noLink (h : roster.Threads l) (hi : i ∈ l.all) : i ≠ noLink := by
  have hlt := (h.mem_all i).mp hi
  have hle := h.size_le
  rintro rfl
  simp only [noLink, Tag.maxRecords, UInt32.reduceToNat] at hlt hle
  omega

/-- The lists have as many entries as the arena has records. -/
theorem Threads.length_all (h : roster.Threads l) : l.all.length = roster.records.size := by
  have hnodup : (l.all.map UInt32.toNat).Nodup := h.nodup.map fun _ _ e => UInt32.toNat_inj.mp e
  have hmem : ∀ k, k ∈ l.all.map UInt32.toNat ↔ k ∈ List.range roster.records.size := by
    intro k
    rw [List.mem_map, List.mem_range]
    constructor
    · rintro ⟨i, hi, rfl⟩
      exact (h.mem_all i).mp hi
    · intro hk
      have hle := h.size_le
      have hk' : (UInt32.ofNat k).toNat = k := by
        simp only [Tag.maxRecords] at hle
        simp only [UInt32.toNat_ofNat']
        omega
      exact ⟨UInt32.ofNat k, (h.mem_all _).mpr (by rwa [hk']), hk'⟩
  have hperm := (List.perm_ext_iff_of_nodup hnodup List.nodup_range).mpr hmem
  simpa using hperm.length_eq

/-! ### Allocating -/

/-- The index of the next record that is made, once there is no free one. -/
theorem Threads.toNat_fresh (h : roster.Threads l) (hroom : ¬ Tag.maxRecords ≤ l.all.length) :
    (UInt32.ofNat l.all.length).toNat = roster.records.size := by
  rw [h.length_all] at hroom ⊢
  simp only [Tag.maxRecords] at hroom
  simp only [UInt32.toNat_ofNat']
  omega

theorem allocate_of_free_nil {d : Descriptor} {f : Interests} {id : EventId}
    (h : roster.Refines l) (hfree : l.free = []) :
    roster.allocate d f id =
      if Tag.maxRecords ≤ l.all.length then none
      else some (.pack (UInt32.ofNat l.all.length) 0,
        { roster with records := roster.records.push ⟨d, f, id, .empty, 0, noLink, noLink⟩ }) := by
  have hpop : roster.free.pop? roster.records = none := by
    have hheld := h.free
    rw [hfree] at hheld
    exact hheld.pop?_nil
  simp [Roster.allocate, hpop, h.length_all]

theorem allocate_of_free_cons {d : Descriptor} {f : Interests} {id : EventId}
    {rest : List UInt32} (h : roster.Refines l) (hfree : l.free = i :: rest) :
    roster.allocate d f id = some
      (.pack i (Arena.generation
        ((roster.free.erase roster.records i).2.modify i.toNat (·.reuse d f id)) i),
        { roster with
          free := (roster.free.erase roster.records i).1
          records := (roster.free.erase roster.records i).2.modify i.toNat (·.reuse d f id) }) := by
  have hpop : roster.free.pop? roster.records = some (i, roster.free.erase roster.records i) := by
    have hheld := h.free
    rw [hfree] at hheld
    exact hheld.pop?_cons
  simp [Roster.allocate, hpop]

/-- A new record stands outside the rings. -/
theorem Refines.makeRecord (h : roster.Refines l) (hroom : ¬ Tag.maxRecords ≤ l.all.length)
    (r : Record) :
    Roster.Refines { roster with records := roster.records.push r }
      { l with outside := UInt32.ofNat l.all.length :: l.outside } := by
  have hfresh := h.toNat_fresh hroom
  have hnew : UInt32.ofNat l.all.length ∉ l.all := fun hm => by
    have := (h.mem_all _).mp hm
    omega
  have hall : ({ l with outside := UInt32.ofNat l.all.length :: l.outside } :
      RosterLists).all.Perm (UInt32.ofNat l.all.length :: l.all) := List.perm_middle
  refine { h with active := ?_, dead := ?_, free := ?_, nodup := ?_, mem_all := ?_, size_le := ?_ }
  · exact h.active.congr fun j hj => Arena.links?_push r (h.active.lt_size hj)
  · exact h.dead.congr fun j hj => Arena.links?_push r (h.dead.lt_size hj)
  · exact h.free.congr fun j hj => Arena.links?_push r (h.free.lt_size hj)
  · exact hall.nodup_iff.mpr (List.nodup_cons.mpr ⟨hnew, h.nodup⟩)
  · intro j
    rw [hall.mem_iff, List.mem_cons, h.mem_all, Array.size_push, ← UInt32.toNat_inj, hfresh]
    omega
  · rw [h.length_all] at hroom
    rw [Array.size_push]
    omega

/-- The first free record is taken out of its ring and filled. -/
theorem Refines.takeFree {rest : List UInt32} (h : roster.Refines l) (hfree : l.free = i :: rest)
    (d : Descriptor) (f : Interests) (id : EventId) :
    Roster.Refines
      { roster with
        free := (roster.free.erase roster.records i).1
        records := (roster.free.erase roster.records i).2.modify i.toNat (·.reuse d f id) }
      { l with free := rest, outside := i :: l.outside } := by
  obtain ⟨hactive, hdead, -⟩ := RosterLists.apart h.nodup
  have hmem : i ∈ l.free := hfree ▸ List.mem_cons_self
  have hall : ({ l with free := rest, outside := i :: l.outside } : RosterLists).all.Perm
      l.all := by
    simp only [RosterLists.all, hfree, List.append_assoc, List.cons_append]
    exact (List.perm_middle.append_left _).append_left _
  refine { h with active := ?_, dead := ?_, free := ?_, nodup := ?_, mem_all := ?_, size_le := ?_ }
  · refine h.active.congr fun j hj => ?_
    rw [Arena.links?_reuse, h.free.links?_erase hmem (hactive j hj).2.1]
  · refine h.dead.congr fun j hj => ?_
    rw [Arena.links?_reuse, h.free.links?_erase hmem (hdead j hj).1]
  · have hheld := h.free
    rw [hfree] at hheld
    exact hheld.erase_head.congr fun j _ => Arena.links?_reuse ..
  · exact hall.nodup_iff.mpr h.nodup
  · intro j
    simp [hall.mem_iff, h.mem_all]
  · simpa using h.size_le

/-- Allocating fails if the lists have no record left, and else takes the one they name. -/
theorem Refines.allocate (h : roster.Refines l) (d : Descriptor) (f : Interests) (id : EventId) :
    (roster.allocate d f id = none ∧ l.allocate = none) ∨
      ∃ t roster' l', roster.allocate d f id = some (t, roster') ∧
        l.allocate = some (t.index, l') ∧ roster'.Refines l' := by
  cases hfree : l.free with
  | nil =>
      rw [allocate_of_free_nil h hfree]
      by_cases hroom : Tag.maxRecords ≤ l.all.length
      · exact .inl ⟨if_pos hroom, by simp [RosterLists.allocate, hfree, hroom]⟩
      · refine .inr ⟨_, _, _, if_neg hroom, ?_, h.makeRecord hroom _⟩
        simp only [RosterLists.allocate, hfree, hroom, if_false, Tag.index_pack]
  | cons i rest =>
      refine .inr ⟨_, _, _, allocate_of_free_cons h hfree, ?_, h.takeFree hfree d f id⟩
      simp only [RosterLists.allocate, hfree, Tag.index_pack]

/-- All records that a tag can name are in use. -/
def Exhausted (roster : Roster) : Prop :=
  roster.free.len = 0 ∧ Tag.maxRecords ≤ roster.records.size

theorem Refines.allocate_eq_none_iff (h : roster.Refines l) {d : Descriptor} {f : Interests}
    {id : EventId} : roster.allocate d f id = none ↔ roster.Exhausted := by
  rw [Exhausted, h.free.len, ← h.length_all]
  cases hfree : l.free with
  | nil => simp [allocate_of_free_nil h hfree]
  | cons i rest => simp [allocate_of_free_cons h hfree]

/-! ### Moving records -/

theorem Refines.activate (h : roster.Refines l) (ht : t.index ∈ l.outside) :
    (roster.activate t).Refines (l.activate t.index) := by
  obtain ⟨hactive, hdead, hfree⟩ := RosterLists.apart h.nodup
  have hmem : t.index ∈ l.all := List.mem_append_right _ ht
  have hne : t.index ∉ l.active := fun hj => (hactive _ hj).2.2 ht
  have hperm := RosterLists.perm_activate ht
  refine { h with active := ?_, dead := ?_, free := ?_, nodup := ?_, mem_all := ?_, size_le := ?_ }
  · exact h.active.push hne (h.ne_noLink hmem) ((h.mem_all _).mp hmem)
  · refine h.dead.congr fun j hj => h.active.links?_push ?_ fun hj' => (hactive j hj').1 hj
    exact fun e => (hdead j hj).2 (e ▸ ht)
  · refine h.free.congr fun j hj => h.active.links?_push ?_ fun hj' => (hactive j hj').2.1 hj
    exact fun e => hfree j hj (e ▸ ht)
  · exact hperm.nodup_iff.mpr h.nodup
  · intro j
    rw [hperm.mem_iff, h.mem_all]
    simp [Roster.activate]
  · simpa [Roster.activate] using h.size_le

theorem Refines.release (h : roster.Refines l) (ht : t.index ∈ l.outside) :
    (roster.release t).Refines (l.release t.index) := by
  obtain ⟨hactive, hdead, hfree⟩ := RosterLists.apart h.nodup
  have hmem : t.index ∈ l.all := List.mem_append_right _ ht
  have hne : t.index ∉ l.free := fun hj => hfree _ hj ht
  have hperm := RosterLists.perm_release ht
  refine { h with active := ?_, dead := ?_, free := ?_, nodup := ?_, mem_all := ?_, size_le := ?_ }
  · refine h.active.congr fun j hj => h.free.links?_push ?_ (hactive j hj).2.1
    exact fun e => (hactive j hj).2.2 (e ▸ ht)
  · refine h.dead.congr fun j hj => h.free.links?_push ?_ (hdead j hj).1
    exact fun e => (hdead j hj).2 (e ▸ ht)
  · exact h.free.push hne (h.ne_noLink hmem) ((h.mem_all _).mp hmem)
  · exact hperm.nodup_iff.mpr h.nodup
  · intro j
    rw [hperm.mem_iff, h.mem_all]
    simp [Roster.release]
  · simpa [Roster.release] using h.size_le

theorem Refines.retire (h : roster.Refines l) (hi : i ∈ l.active) :
    (roster.retire i).Refines (l.retire i) := by
  obtain ⟨hactive, hdead, -⟩ := RosterLists.apart h.nodup
  obtain ⟨l₁, l₂, hsplit⟩ := List.append_of_mem hi
  have hmem : i ∈ l.all := by simp [RosterLists.all, hi]
  have hheld := h.active
  have hnodup := h.active.nodup
  rw [hsplit] at hheld hnodup
  have hi₁ : i ∉ l₁ := fun hm => (List.nodup_append.mp hnodup).2.2 i hm i List.mem_cons_self rfl
  have hrest : l.active.erase i = l₁ ++ l₂ := by
    rw [hsplit, List.erase_append_right _ hi₁, List.erase_cons_head]
  have hperm := RosterLists.perm_retire hi
  -- the record leaves its ring before the other ring takes it
  have hdead' : roster.dead.Holds (roster.active.erase roster.records i).2 l.dead :=
    h.dead.congr fun j hj => h.active.links?_erase hi fun hj' => (hactive j hj').1 hj
  refine { active := ?_, dead := ?_, free := ?_, nodup := ?_, mem_all := ?_, size_le := ?_,
           reclaimed := h.reclaimed, retired := ?_ }
  · show Ring.Holds _ _ (l.active.erase i)
    rw [hrest]
    refine hheld.erase.congr fun j hj => hdead'.links?_push ?_ fun hj' => ?_
    · rintro rfl
      exact (List.nodup_cons.mp (List.nodup_middle.mp hnodup)).1 hj
    · have : j ∈ l.active := by
        rw [hsplit]
        exact List.mem_append.mpr ((List.mem_append.mp hj).imp_right (List.mem_cons_of_mem i))
      exact (hactive j this).1 hj'
  · refine hdead'.push (fun hj => (hactive i hi).1 hj) (h.ne_noLink hmem) ?_
    simpa using (h.mem_all i).mp hmem
  · refine h.free.congr fun j hj => ?_
    have hne : i ≠ j := by
      rintro rfl
      exact (hactive i hi).2.1 hj
    exact (hdead'.links?_push hne fun hj' => (hdead j hj').1 hj).trans
      (h.active.links?_erase hi fun hj' => (hactive j hj').2.1 hj)
  · exact hperm.nodup_iff.mpr h.nodup
  · intro j
    rw [hperm.mem_iff, h.mem_all]
    simp [Roster.retire]
  · simpa [Roster.retire] using h.size_le
  · show roster.retired + 1 = l.reclaimed + (l.dead ++ [i]).length
    rw [h.retired, RosterLists.retired, List.length_append, List.length_singleton, Nat.add_assoc]

/-! ### Reclaiming -/

theorem Threads.reclaimOne (h : roster.Threads l) : roster.reclaimOne.Threads (l.moveDead 1) := by
  have hheld := h.dead
  cases hdead : l.dead with
  | nil =>
      rw [hdead] at hheld
      simpa [Roster.reclaimOne, hheld.pop?_nil, RosterLists.moveDead_of_nil hdead] using h
  | cons i rest =>
      rw [hdead] at hheld
      obtain ⟨hactive, hdisj, -⟩ := RosterLists.apart h.nodup
      have hi : i ∈ l.dead := hdead ▸ List.mem_cons_self
      have hmem : i ∈ l.all := by simp [RosterLists.all, hi]
      have hperm := RosterLists.perm_moveDead 1 l
      have hmoved : l.moveDead 1 = { l with dead := rest, free := l.free ++ [i] } := by
        simp [RosterLists.moveDead, hdead]
      have hone : roster.reclaimOne = { roster with
          dead := (roster.dead.erase roster.records i).1
          free := (roster.free.push (roster.dead.erase roster.records i).2 i).1
          records := (roster.free.push (roster.dead.erase roster.records i).2 i).2 } := by
        simp [Roster.reclaimOne, hheld.pop?_cons]
      have hfree : roster.free.Holds (roster.dead.erase roster.records i).2 l.free := by
        refine h.free.congr fun j hj => h.dead.links?_erase hi fun hj' => ?_
        exact (hdisj j hj').1 hj
      rw [hmoved] at hperm ⊢
      rw [hone]
      refine { active := ?_, dead := ?_, free := ?_, nodup := ?_, mem_all := ?_, size_le := ?_ }
      · refine h.active.congr fun j hj => ?_
        have hne : i ≠ j := by
          rintro rfl
          exact (hactive i hj).1 hi
        exact (hfree.links?_push hne (hactive j hj).2.1).trans
          (h.dead.links?_erase hi (hactive j hj).1)
      · refine hheld.erase_head.congr fun j hj => ?_
        have hne : i ≠ j := by
          rintro rfl
          exact (List.nodup_cons.mp hheld.nodup).1 hj
        exact hfree.links?_push hne (hdisj j (hdead ▸ List.mem_cons_of_mem i hj)).1
      · refine hfree.push (hdisj i hi).1 (h.ne_noLink hmem) ?_
        simpa using (h.mem_all i).mp hmem
      · exact hperm.nodup_iff.mpr h.nodup
      · intro j
        rw [hperm.mem_iff, h.mem_all]
        simp
      · simpa using h.size_le

theorem Threads.reclaimEach (h : roster.Threads l) (n : Nat) :
    (reclaimEach n roster).Threads (l.moveDead n) := by
  induction n generalizing roster l with
  | zero => simpa [Roster.reclaimEach, RosterLists.moveDead] using h
  | succ n ih =>
      rw [RosterLists.moveDead_succ]
      exact ih h.reclaimOne

/-- Splicing the dead ring is moving all its records. -/
theorem Threads.reclaimAll (h : roster.Threads l) :
    roster.reclaimAll.Threads (l.moveDead l.dead.length) := by
  obtain ⟨hactive, hdead, -⟩ := RosterLists.apart h.nodup
  have hperm := RosterLists.perm_moveDead l.dead.length l
  have hmoved : l.moveDead l.dead.length = { l with dead := [], free := l.free ++ l.dead } := by
    simp [RosterLists.moveDead]
  rw [hmoved] at hperm ⊢
  refine { active := ?_, dead := Ring.holds_nil _, free := ?_, nodup := ?_, mem_all := ?_,
           size_le := ?_ }
  · refine h.active.congr fun j hj => ?_
    exact h.free.links?_append h.dead (hactive j hj).2.1 (hactive j hj).1
  · exact h.free.append h.dead fun j hj hj' => (hdead j hj').1 hj
  · exact hperm.nodup_iff.mpr h.nodup
  · intro j
    rw [hperm.mem_iff, h.mem_all]
    simp [Roster.reclaimAll]
  · simpa [Roster.reclaimAll] using h.size_le

@[simp] theorem counters_reclaimOne (roster : Roster) :
    roster.reclaimOne.retired = roster.retired ∧
      roster.reclaimOne.reclaimed = roster.reclaimed := by
  unfold Roster.reclaimOne
  split <;> simp

theorem counters_reclaimEach (n : Nat) (roster : Roster) :
    (reclaimEach n roster).retired = roster.retired ∧
      (reclaimEach n roster).reclaimed = roster.reclaimed := by
  induction n generalizing roster with
  | zero => exact ⟨rfl, rfl⟩
  | succ n ih => simpa [Roster.reclaimEach] using ih roster.reclaimOne

theorem Refines.reclaim (h : roster.Refines l) (marker : Nat) :
    (roster.reclaim marker).Refines (l.reclaim marker) := by
  have hlen : roster.dead.len = l.dead.length := h.dead.len
  have heligible : l.eligible marker = min (marker - roster.reclaimed) roster.dead.len := by
    rw [RosterLists.eligible, h.reclaimed, hlen]
  have hretired := h.retired
  unfold RosterLists.retired at hretired
  unfold Roster.reclaim
  by_cases hnone : marker - roster.reclaimed = 0
  · have hzero : l.eligible marker = 0 := by rw [heligible, hnone, Nat.zero_min]
    simpa [hnone, RosterLists.reclaim, hzero, RosterLists.moveDead] using h
  · by_cases hall : roster.dead.len ≤ marker - roster.reclaimed
    · have hk : l.eligible marker = l.dead.length := by rw [heligible, Nat.min_eq_right hall, hlen]
      simp only [hnone, hall, if_true, if_false, RosterLists.reclaim, hk]
      refine { h.toThreads.reclaimAll with reclaimed := ?_, retired := ?_ }
      · simp [Roster.reclaimAll, h.reclaimed, hlen]
      · simp [Roster.reclaimAll, RosterLists.retired, RosterLists.moveDead, hretired]
    · have hk : l.eligible marker = marker - roster.reclaimed := by
        rw [heligible, Nat.min_eq_left (by omega)]
      obtain ⟨hcount, -⟩ := counters_reclaimEach (marker - roster.reclaimed) roster
      simp only [hnone, hall, if_false, RosterLists.reclaim, hk]
      refine { h.toThreads.reclaimEach _ with reclaimed := ?_, retired := ?_ }
      · simp [h.reclaimed]
      · simp only [RosterLists.retired, RosterLists.moveDead, List.length_drop, hcount, hretired]
        omega

/-! ### Readiness -/

theorem Refines.setReadiness (h : roster.Refines l) (t : Tag) (c : Conditions) :
    (roster.setReadiness t c).Refines l := by
  unfold Roster.setReadiness
  split
  · exact h
  · have hlinks : ∀ j, Arena.links?
        (roster.records.modify t.index.toNat fun r => { r with readiness := c }) j =
          Arena.links? roster.records j := by
      intro j
      simp only [Arena.links?, Arena.getElem?_modify_toNat]
      split <;> simp [Function.comp_def]
    exact { h with
      active := h.active.congr fun j _ => hlinks j
      dead := h.dead.congr fun j _ => hlinks j
      free := h.free.congr fun j _ => hlinks j
      mem_all := by simpa using h.mem_all
      size_le := by simpa using h.size_le }

/-! ### Looking up -/

theorem Refines.forward_active (h : roster.Refines l) :
    roster.active.forward roster.records = l.active := h.active.forward_eq

theorem Refines.forward_dead (h : roster.Refines l) :
    roster.dead.forward roster.records = l.dead := h.dead.forward_eq

theorem Refines.forward_free (h : roster.Refines l) :
    roster.free.forward roster.records = l.free := h.free.forward_eq

/-- The record found for a descriptor is the first active one for it. -/
theorem Refines.find?_eq (h : roster.Refines l) (d : Descriptor) :
    roster.find? d = l.active.find? (roster.isFor d) := by
  rw [Roster.find?, h.forward_active]

end Roster

end Readiness
