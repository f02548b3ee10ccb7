import Readiness.Proofs.WordCounters

/-! # Reclaiming with markers

`Roster.reclaim` has two paths: it splices the whole dead ring, or it moves records one by one.
Which one it takes is decided by comparing the marker with the counters of the roster.

* **One result.**  A roster is told by its lists, by the links of the records in no ring and by what
  the records hold besides links (`Roster.Threads.ext`).  Neither path touches the last two, so both
  leave the same roster, to the last link (`Roster.reclaimAll_eq`, `Roster.reclaim_eq`).
* **One queue.**  The retirements of a run, in order, are the records that were ever reclaimed and
  then the dead ones (`RosterLists.run?_queue`).  So a record is reclaimed when its turn comes,
  whatever markers are used and in whatever order.
* **Markers.**  A marker is a position in this queue.  Reclaiming with it moves what was retired
  before the marker was taken and leaves what was retired after it
  (`Roster.markers_reclaim_exactly`).
* **Words.**  With fewer than 2⁶⁴ retirements the counters and the markers may be words. -/

namespace Readiness

/-! ### What tells a roster -/

namespace Arena

variable {records records' : Arena} {n p i : UInt32} {l : List UInt32}

/-- A threaded list tells the links of its records. -/
theorem Linked.links?_eq (h : records.Linked p l n) (h' : records'.Linked p l n) (hi : i ∈ l) :
    records'.links? i = records.links? i := by
  induction l generalizing p with
  | nil => cases hi
  | cons j rest ih =>
      rcases List.mem_cons.mp hi with rfl | hi
      · exact h'.1.trans h.1.symm
      · exact ih h.2 h'.2 hi

end Arena

/-- The list that a ring holds tells its ends and its length. -/
theorem Ring.Holds.unique {ring ring' : Ring} {records records' : Arena} {l : List UInt32}
    (h : ring.Holds records l) (h' : ring'.Holds records' l) : ring' = ring := by
  cases ring
  cases ring'
  simp only [Ring.mk.injEq]
  exact ⟨h'.head.trans h.head.symm, h'.tail.trans h.tail.symm, h'.len.trans h.len.symm⟩

namespace Roster

variable {roster roster' : Roster} {l : RosterLists} {i j : UInt32}

/-- Two rosters with the same lists are the same if they agree on the records in no ring, on what
the records hold besides links, and on the counters. -/
theorem Threads.ext (h : roster.Threads l) (h' : roster'.Threads l)
    (outside : ∀ i ∈ l.outside, roster'.records.links? i = roster.records.links? i)
    (bare : ∀ i, roster'.records.bare? i = roster.records.bare? i)
    (retired : roster'.retired = roster.retired)
    (reclaimed : roster'.reclaimed = roster.reclaimed) : roster' = roster := by
  have links : ∀ i ∈ l.all, roster'.records.links? i = roster.records.links? i := by
    intro i hi
    simp only [RosterLists.all, List.mem_append] at hi
    rcases hi with ((hi | hi) | hi) | hi
    · exact h.active.linked.links?_eq h'.active.linked hi
    · exact h.dead.linked.links?_eq h'.dead.linked hi
    · exact h.free.linked.links?_eq h'.free.linked hi
    · exact outside i hi
  have hsize : roster'.records.size = roster.records.size := by rw [← h.length_all, h'.length_all]
  have hrecords : roster'.records = roster.records := by
    refine Array.ext_getElem? fun k => ?_
    by_cases hk : k < roster.records.size
    · -- every position of the arena is an index
      have hle := h.size_le
      have hk' : (UInt32.ofNat k).toNat = k := by
        simp only [Tag.maxRecords] at hle
        simp only [UInt32.toNat_ofNat']
        omega
      have hmem : UInt32.ofNat k ∈ l.all := (h.mem_all _).mpr (by rwa [hk'])
      have hsame := Arena.getElem?_eq_of_links (links _ hmem) (bare _)
      rwa [hk'] at hsame
    · rw [Array.getElem?_eq_none (by omega), Array.getElem?_eq_none (by omega)]
  cases roster
  cases roster'
  simp only [Roster.mk.injEq]
  exact ⟨hrecords, h.active.unique h'.active, h.dead.unique h'.dead, h.free.unique h'.free, retired,
    reclaimed⟩

/-! ### The two paths -/

@[simp] theorem bare?_reclaimOne (roster : Roster) (i : UInt32) :
    roster.reclaimOne.records.bare? i = roster.records.bare? i := by
  unfold Roster.reclaimOne
  split
  · rfl
  · rename_i hpop
    obtain ⟨-, he⟩ := Option.ite_none_left_eq_some.mp hpop
    have hrecords := congrArg (·.2.2) (Option.some.inj he)
    simp only at hrecords
    simp [← hrecords]

@[simp] theorem bare?_reclaimEach (n : Nat) (roster : Roster) (i : UInt32) :
    (reclaimEach n roster).records.bare? i = roster.records.bare? i := by
  induction n generalizing roster with
  | zero => rfl
  | succ n ih => rw [reclaimEach, ih, bare?_reclaimOne]

@[simp] theorem bare?_reclaimAll (roster : Roster) (i : UInt32) :
    roster.reclaimAll.records.bare? i = roster.records.bare? i :=
  Ring.bare?_append ..

/-- A record that is moved takes only dead and free records along. -/
theorem Threads.links?_reclaimOne (h : roster.Threads l) (hdead : j ∉ l.dead) (hfree : j ∉ l.free) :
    roster.reclaimOne.records.links? j = roster.records.links? j := by
  have hheld := h.dead
  cases hl : l.dead with
  | nil =>
      rw [hl] at hheld
      simp [Roster.reclaimOne, hheld.pop?_nil]
  | cons i rest =>
      rw [hl] at hheld
      have hi : i ∈ l.dead := hl ▸ List.mem_cons_self
      have hne : i ≠ j := fun he => hdead (he ▸ hi)
      have hfree' : roster.free.Holds (roster.dead.erase roster.records i).2 l.free :=
        h.free.congr fun m hm => h.dead.links?_erase hi fun hm' =>
          ((RosterLists.apart h.nodup).2.1 m hm').1 hm
      simp only [Roster.reclaimOne, hheld.pop?_cons]
      rw [hfree'.links?_push hne hfree, h.dead.links?_erase hi hdead]

theorem Threads.links?_reclaimEach (h : roster.Threads l) (n : Nat) (hdead : j ∉ l.dead)
    (hfree : j ∉ l.free) :
    (Roster.reclaimEach n roster).records.links? j = roster.records.links? j := by
  induction n generalizing roster l with
  | zero => rfl
  | succ n ih =>
      have hdead' : j ∉ (l.moveDead 1).dead := fun hj => hdead (List.mem_of_mem_drop hj)
      have hfree' : j ∉ (l.moveDead 1).free := by
        simp only [RosterLists.moveDead, List.mem_append, not_or]
        exact ⟨hfree, fun hj => hdead (List.mem_of_mem_take hj)⟩
      exact (ih h.reclaimOne hdead' hfree').trans (h.links?_reclaimOne hdead hfree)

/-- Splicing the dead ring leaves the roster that moving its records one by one leaves. -/
theorem Threads.reclaimAll_eq (h : roster.Threads l) :
    roster.reclaimAll = { Roster.reclaimEach l.dead.length roster with
      reclaimed := roster.reclaimed + l.dead.length } := by
  obtain ⟨-, hdead, hfree⟩ := RosterLists.apart h.nodup
  have heach := h.reclaimEach l.dead.length
  refine Threads.ext ⟨heach.active, heach.dead, heach.free, heach.nodup, heach.mem_all,
    heach.size_le⟩ h.reclaimAll (fun j hj => ?_) (fun j => ?_) ?_ ?_
  · have hjdead : j ∉ l.dead := fun hj' => (hdead j hj').2 hj
    have hjfree : j ∉ l.free := fun hj' => hfree j hj' hj
    exact (h.free.links?_append h.dead hjfree hjdead).trans
      (h.links?_reclaimEach l.dead.length hjdead hjfree).symm
  · simp
  · exact (counters_reclaimEach l.dead.length roster).1.symm
  · show roster.reclaimed + roster.dead.len = roster.reclaimed + l.dead.length
    rw [h.dead.len]

/-- Whichever path is taken, the records retired before the marker are moved one by one. -/
theorem Refines.reclaim_eq (h : roster.Refines l) (marker : Nat) :
    roster.reclaim marker = { reclaimEach (l.eligible marker) roster with
      reclaimed := roster.reclaimed + l.eligible marker } := by
  unfold Roster.reclaim RosterLists.eligible
  rw [h.dead.len, ← h.reclaimed]
  dsimp only
  split
  · rename_i hnone
    rw [hnone, Nat.zero_min]
    rfl
  · split
    · rename_i hall
      rw [Nat.min_eq_right hall]
      exact h.toThreads.reclaimAll_eq
    · rename_i hsome
      rw [Nat.min_eq_left (by omega)]

end Roster

/-! ### Markers -/

namespace RosterLists

variable {l : RosterLists}

/-- A marker taken after the first part of a run tells the retirements of the two parts apart. -/
theorem split_at_marker {ops₁ ops₂ : List RosterOperation} {l₁ : RosterLists}
    (h₁ : run? ops₁ {} = some l₁) (h : run? (ops₁ ++ ops₂) {} = some l) :
    l.dead.take (l.eligible l₁.retired) = (retirements ops₁).drop l.reclaimed ∧
      l.dead.drop (l.eligible l₁.retired) =
        (retirements ops₂).drop (l.reclaimed - (retirements ops₁).length) := by
  have hdead : l.dead = (retirements ops₁).drop l.reclaimed ++
      (retirements ops₂).drop (l.reclaimed - (retirements ops₁).length) := by
    rw [← List.drop_append, ← retirements_append, (run?_queue h).1]
  have heligible : l.eligible l₁.retired = ((retirements ops₁).drop l.reclaimed).length := by
    rw [eligible, (run?_queue h₁).2, hdead, List.length_append, List.length_drop]
    omega
  rw [heligible, hdead]
  exact ⟨List.take_left, List.drop_left⟩

end RosterLists

namespace Roster

/-- The three rings are threaded through these lists. -/
structure Rings (roster : Roster) (active dead free : List UInt32) : Prop where
  active : roster.Threaded roster.active active
  dead : roster.Threaded roster.dead dead
  free : roster.Threaded roster.free free

theorem Threads.rings {roster : Roster} {l : RosterLists} (h : roster.Threads l) :
    roster.Rings l.active l.dead l.free where
  active := ⟨h.active.follows_next, h.active.follows_prev, h.active.len⟩
  dead := ⟨h.dead.follows_next, h.dead.follows_prev, h.dead.len⟩
  free := ⟨h.free.follows_next, h.free.follows_prev, h.free.len⟩

/-- **Markers reclaim exactly.**  After every run, in which markers of any kind were used, and for
every marker: the first `k` dead records become the last `k` free ones, where `k` is what the marker
exceeds the number of records ever reclaimed by, and at most the number of dead records.  Both paths
leave the roster that moving records one by one leaves.  If the marker was taken at some moment of
the run, none of the records that are moved was retired after that moment, and none of those that
stay dead was retired before it.  With fewer than 2⁶⁴ retirements the run and the last reclaiming
are those that count in words. -/
theorem markers_reclaim_exactly (ops : List RosterOperation) (l : RosterLists) (roster : Roster)
    (marker k : Nat) (hops : RosterLists.run? ops {} = some l) (hroster : roster = run ops {})
    (hk : k = min (marker - roster.reclaimed) roster.dead.len) :
    roster.Rings l.active l.dead l.free ∧
      (roster.reclaim marker).Rings l.active (l.dead.drop k) (l.free ++ l.dead.take k) ∧
      (roster.reclaim marker).reclaimed = roster.reclaimed + k ∧
      (roster.reclaim marker).retired = roster.retired ∧
      (roster.reclaim marker).retired =
        (roster.reclaim marker).reclaimed + (roster.reclaim marker).dead.len ∧
      roster.reclaim marker =
        { reclaimEach k roster with reclaimed := roster.reclaimed + k } ∧
      roster.reclaimAll = { reclaimEach roster.dead.len roster with
        reclaimed := roster.reclaimed + roster.dead.len } ∧
      l.dead = (RosterLists.retirements ops).drop roster.reclaimed ∧
      (∀ ops₁ ops₂, ops = ops₁ ++ ops₂ → marker = (run ops₁ {}).retired →
        l.dead.take k = (RosterLists.retirements ops₁).drop roster.reclaimed ∧
        l.dead.drop k = (RosterLists.retirements ops₂).drop
          (roster.reclaimed - (RosterLists.retirements ops₁).length)) ∧
      ((RosterLists.retirements ops).length < UInt64.size →
        (∀ m, .reclaim m ∈ ops → m < UInt64.size) →
        roster = runWord ops {} ∧ (marker < UInt64.size → roster.InWords marker)) := by
  have hr : roster.Refines l := hroster ▸ refines_empty.run hops
  have hr' : (roster.reclaim marker).Refines (l.reclaim marker) := hr.reclaim marker
  have heligible : l.eligible marker = k := by
    rw [hk, hr.reclaimed, hr.dead.len]
    rfl
  have hle : k ≤ l.dead.length := heligible ▸ Nat.min_le_right ..
  have hmove : l.reclaim marker = { l.moveDead k with reclaimed := l.reclaimed + k } := by
    rw [RosterLists.reclaim, heligible]
  refine ⟨hr.toThreads.rings, ?_, ?_, ?_, ?_, ?_, ?_, ?_, ?_, ?_⟩
  · have hrings := hr'.toThreads.rings
    rwa [hmove] at hrings
  · rw [hr'.reclaimed, hmove, hr.reclaimed]
  · rw [hr'.retired, hmove, hr.retired]
    simp only [RosterLists.retired, RosterLists.moveDead, List.length_drop]
    omega
  · rw [hr'.retired, hr'.reclaimed, hr'.dead.len, RosterLists.retired]
  · rw [hr.reclaim_eq, heligible]
  · rw [hr.toThreads.reclaimAll_eq, hr.dead.len]
  · rw [hr.reclaimed]
    exact (RosterLists.run?_queue hops).1
  · rintro ops₁ ops₂ rfl hmarker
    have hsplit := hops
    rw [RosterLists.run?_append] at hsplit
    obtain ⟨l₁, h₁, -⟩ := Option.bind_eq_some_iff.mp hsplit
    have hr₁ : (run ops₁ {}).Refines l₁ := refines_empty.run h₁
    rw [hr.reclaimed, ← heligible, hmarker, hr₁.retired]
    exact RosterLists.split_at_marker h₁ hops
  · intro hbound hmarkers
    have hl : l.retired < UInt64.size := by rwa [(RosterLists.run?_queue hops).2]
    exact ⟨hroster.trans (refines_empty.runWord_eq hops hl hmarkers).symm, hr.inWords hl⟩

/-- Three descriptors are added, and the first two of them are removed. -/
def twoOfThreeRetired : List RosterOperation :=
  [.allocate (.socket 1) .both ⟨1⟩, .activate (.pack 0 0),
    .allocate (.socket 2) .readable ⟨2⟩, .activate (.pack 1 0),
    .allocate (.file 3) .writable ⟨3⟩, .activate (.pack 2 0), .retire 0, .retire 1]

/-- The third one is removed, an older marker is used, and the record that it frees is used again
and retired again. -/
def olderMarkerUsed : List RosterOperation :=
  [.retire 2, .reclaim 1, .allocate (.socket 4) .both ⟨4⟩, .activate (.pack 0 1), .retire 0]

/-- A marker taken before an older one was used moves one record, and leaves the two that were
retired later, although one of them had been retired before as well. -/
theorem markers_reclaim_exactly_overlapping :
    RosterLists.run? (twoOfThreeRetired ++ olderMarkerUsed) {} =
        some { dead := [1, 2, 0], reclaimed := 1 } ∧
      (run twoOfThreeRetired {}).retired = 2 ∧
      ((run (twoOfThreeRetired ++ olderMarkerUsed) {}).reclaim 2).Rings [] [2, 0] [1] ∧
      RosterLists.retirements (twoOfThreeRetired ++ olderMarkerUsed) = [0, 1, 2, 0] ∧
      [1] = (RosterLists.retirements twoOfThreeRetired).drop 1 ∧
      (run (twoOfThreeRetired ++ olderMarkerUsed) {}).InWords 2 := by
  have hops : RosterLists.run? (twoOfThreeRetired ++ olderMarkerUsed) {} =
      some { dead := [1, 2, 0], reclaimed := 1 } := by decide
  have hmarker : (run twoOfThreeRetired {}).retired = 2 := by decide
  obtain ⟨-, hrings, -, -, -, -, -, -, hsplit, hwords⟩ :=
    markers_reclaim_exactly _ _ _ 2 1 hops rfl (by decide)
  have hmarkers : ∀ m, .reclaim m ∈ twoOfThreeRetired ++ olderMarkerUsed → m < UInt64.size := by
    simp [twoOfThreeRetired, olderMarkerUsed, UInt64.size]
  obtain ⟨-, hfits⟩ := hwords (by decide) hmarkers
  exact ⟨hops, hmarker, hrings, by decide, (hsplit _ _ rfl hmarker.symm).1, hfits (by decide)⟩

end Roster

end Readiness
