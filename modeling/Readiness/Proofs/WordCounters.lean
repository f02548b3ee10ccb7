import Readiness.Proofs.RosterRuns

/-! # Counters of 64 bits

`Roster.retired`, `Roster.reclaimed` and the markers are plain numbers here.  A machine keeps them
in words of 64 bits, whose sums wrap and whose difference stops at zero.

* **Words.**  `Roster.retireWord` and `Roster.reclaimWord` are the two operations that count, with
  the arithmetic of words.
* **Bound.**  Both counters are bounded by the number of records retired (`Roster.Refines.bound`).
  While this is less than 2⁶⁴, an operation on words is the operation on numbers
  (`Roster.Refines.stepWord_eq`), and so is a run (`Roster.Refines.runWord_eq`). -/

namespace Readiness

namespace Roster

/-- Retire a record, counting in a word. -/
def retireWord (roster : Roster) (i : UInt32) : Roster :=
  { roster.retire i with retired := (UInt64.ofNat roster.retired + 1).toNat }

/-- How many retirements a marker is ahead of the records reclaimed, in words; none if it is
behind. -/
def aheadWord (roster : Roster) (marker : UInt64) : UInt64 :=
  let reclaimed := UInt64.ofNat roster.reclaimed
  if reclaimed ≤ marker then marker - reclaimed else 0

/-- Reclaim with a marker, counting in words. -/
def reclaimWord (roster : Roster) (marker : UInt64) : Roster :=
  let reclaimed := UInt64.ofNat roster.reclaimed
  let eligible := roster.aheadWord marker
  if eligible = 0 then roster
  else if roster.dead.len ≤ eligible.toNat then
    { roster.reclaimAll with reclaimed := (reclaimed + UInt64.ofNat roster.dead.len).toNat }
  else { reclaimEach eligible.toNat roster with reclaimed := (reclaimed + eligible).toNat }

/-- Do an operation, counting in words. -/
def stepWord (roster : Roster) : RosterOperation → Roster
  | .retire i => roster.retireWord i
  | .reclaim marker => roster.reclaimWord (UInt64.ofNat marker)
  | op => roster.step op

/-- Do operations one after the other, counting in words. -/
def runWord (ops : List RosterOperation) (roster : Roster) : Roster := ops.foldl stepWord roster

variable {roster : Roster} {l l' : RosterLists} {op : RosterOperation} {marker : UInt64}

/-- A sum of words is the sum of the numbers while it fits. -/
theorem toNat_add_word {n k : Nat} (h : n + k < UInt64.size) :
    (UInt64.ofNat n + UInt64.ofNat k).toNat = n + k := by
  rw [UInt64.toNat_add, UInt64.toNat_ofNat_of_lt' (by omega),
    UInt64.toNat_ofNat_of_lt' (by omega)]
  exact Nat.mod_eq_of_lt h

theorem retireWord_eq (i : UInt32) (h : roster.retired + 1 < UInt64.size) :
    roster.retireWord i = roster.retire i := by
  have hword : (UInt64.ofNat roster.retired + 1).toNat = roster.retired + 1 := toNat_add_word h
  rw [retireWord, hword]
  rfl

theorem toNat_aheadWord (h : roster.reclaimed < UInt64.size) (marker : UInt64) :
    (roster.aheadWord marker).toNat = marker.toNat - roster.reclaimed := by
  have hword := UInt64.toNat_ofNat_of_lt' h
  unfold aheadWord
  dsimp only
  split
  · rename_i hle
    rw [UInt64.toNat_sub_of_le _ _ hle, hword]
  · rename_i hlt
    rw [UInt64.le_iff_toNat_le, hword] at hlt
    exact (Nat.sub_eq_zero_of_le (by omega)).symm

/-- Reclaiming adds to the records reclaimed no more than the dead ring holds, so the sum fits. -/
theorem reclaimWord_eq (h : roster.reclaimed + roster.dead.len < UInt64.size) (marker : UInt64) :
    roster.reclaimWord marker = roster.reclaim marker.toNat := by
  have hahead : (roster.aheadWord marker).toNat = marker.toNat - roster.reclaimed :=
    toNat_aheadWord (by omega) marker
  have hzero : roster.aheadWord marker = 0 ↔ marker.toNat - roster.reclaimed = 0 := by
    rw [← hahead, ← UInt64.toNat_inj]
    rfl
  unfold reclaimWord Roster.reclaim
  simp only [hzero, hahead]
  split
  · rfl
  · split
    · rw [toNat_add_word h]
      rfl
    · rename_i hless
      have hsum : (UInt64.ofNat roster.reclaimed + roster.aheadWord marker).toNat =
          roster.reclaimed + (marker.toNat - roster.reclaimed) := by
        rw [UInt64.toNat_add, UInt64.toNat_ofNat_of_lt' (by omega), hahead]
        have hfits : roster.reclaimed + (marker.toNat - roster.reclaimed) < UInt64.size := by omega
        exact Nat.mod_eq_of_lt hfits
      rw [hsum]

/-! ### Runs -/

/-- Both counters are bounded by the number of records retired. -/
theorem Refines.bound (h : roster.Refines l) (hl : l.retired < UInt64.size) :
    roster.retired < UInt64.size ∧ roster.reclaimed + roster.dead.len < UInt64.size := by
  rw [h.retired, h.reclaimed, h.dead.len]
  exact ⟨hl, hl⟩

/-- The counter of retirements and a marker fit in words, and reclaiming on words is reclaiming. -/
structure InWords (roster : Roster) (marker : Nat) : Prop where
  retired : roster.retired < UInt64.size
  marker_lt : marker < UInt64.size
  reclaim : roster.reclaimWord (UInt64.ofNat marker) = roster.reclaim marker

theorem Refines.inWords {marker : Nat} (h : roster.Refines l) (hl : l.retired < UInt64.size)
    (hmarker : marker < UInt64.size) : roster.InWords marker where
  retired := (h.bound hl).1
  marker_lt := hmarker
  reclaim := by rw [reclaimWord_eq (h.bound hl).2, UInt64.toNat_ofNat_of_lt' hmarker]

/-- While fewer than 2⁶⁴ records were retired, an operation on words is the operation on
numbers. -/
theorem Refines.stepWord_eq (h : roster.Refines l) (hop : l.step? op = some l')
    (hl : l'.retired < UInt64.size)
    (hmarker : ∀ marker, op = .reclaim marker → marker < UInt64.size) :
    roster.stepWord op = roster.step op := by
  have hcount := RosterLists.step?_retired hop
  cases op with
  | allocate | activate | release => rfl
  | retire i =>
      have hcount' : l'.retired = l.retired + 1 := hcount
      exact retireWord_eq i (by rw [h.retired]; omega)
  | reclaim marker => exact (h.inWords (by omega) (hmarker marker rfl)).reclaim

/-- While fewer than 2⁶⁴ records are retired, a run on words is the run on numbers. -/
theorem Refines.runWord_eq {ops : List RosterOperation} (h : roster.Refines l)
    (hops : l.run? ops = some l') (hl : l'.retired < UInt64.size)
    (hmarkers : ∀ marker, .reclaim marker ∈ ops → marker < UInt64.size) :
    roster.runWord ops = roster.run ops := by
  induction ops generalizing roster l with
  | nil => rfl
  | cons op rest ih =>
      obtain ⟨l₁, hstep, hrest⟩ := Option.bind_eq_some_iff.mp hops
      have hl₁ : l₁.retired < UInt64.size := by
        rw [RosterLists.run?_retired hrest] at hl
        omega
      have hfirst : roster.stepWord op = roster.step op :=
        h.stepWord_eq hstep hl₁ fun marker he => hmarkers marker (he ▸ List.mem_cons_self)
      have hothers := ih (h.step hstep) hrest fun marker hm =>
        hmarkers marker (List.mem_cons_of_mem op hm)
      rw [runWord, List.foldl_cons, hfirst]
      exact hothers

end Roster

end Readiness
