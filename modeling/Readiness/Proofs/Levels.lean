import Readiness.Facility.Epoll
import Readiness.Facility.Poll
import Readiness.Proofs.Additions

/-! # From levels to readiness

A level is what a descriptor has, in the bits of the system.  On its way to the caller it is cut
down to the bits that were asked for, translated to conditions, and masked by the interests.

* **Flags.**  Conditions are put together from four flags (`Conditions.ofFlags`), and masking and
  emptiness are said of flags.
* **Reported.**  `levelReadiness` is what a level comes to for one who watches with some interests,
  and `Addition.levelEvent?` the event that an addition gets for the level of its descriptor.
* **`epoll`** reports it (`Epoll.mask_readiness`), in an event if it is not empty
  (`Epoll.level_eq_zero_iff`).
* **`poll`** does the same with 16 bits, as long as the level does not have the one bit that only
  `epoll` knows (`Poll.mask_readiness`, `Poll.level_eq_zero_iff`). -/

namespace Readiness

namespace Conditions

/-- The conditions with the given flags. -/
def ofFlags (r w e h : Bool) : Conditions :=
  (if r then .readable else .empty) ||| (if w then .writable else .empty)
    ||| (if e then .error else .empty) ||| (if h then .hup else .empty)

theorem mask_ofFlags (r w e h : Bool) (i : Interests) :
    (ofFlags r w e h).mask i = ofFlags (i.isReadable && r) (i.isWritable && w) e h := by
  revert r w e h
  cases i <;> decide

theorem isEmpty_ofFlags (r w e h : Bool) : (ofFlags r w e h).isEmpty = !(r || w || e || h) := by
  revert r w e h
  decide

end Conditions

/-- What is reported of a level to one who watches with some interests. -/
def levelReadiness (i : Interests) (level : UInt32) : Conditions :=
  .ofFlags (i.isReadable && Epoll.hasBit level (Epoll.inBit ||| Epoll.priBit))
    (i.isWritable && Epoll.hasBit level Epoll.outBit)
    (Epoll.hasBit level Epoll.errBit)
    (Epoll.hasBit level (Epoll.rdhupBit ||| Epoll.hupBit))

namespace Addition

/-- The event for the level of a descriptor that is added, unless there is nothing to report. -/
def levelEvent? (level : Int32 → UInt32) (x : Addition) : Option Event :=
  if (levelReadiness x.interests (level x.descriptor.fd)).isEmpty then none
  else some ⟨x.descriptor, x.id, levelReadiness x.interests (level x.descriptor.fd)⟩

variable {level : Int32 → UInt32} {x : Addition}

theorem levelEvent?_eq_none_iff :
    x.levelEvent? level = none ↔
      (levelReadiness x.interests (level x.descriptor.fd)).isEmpty = true := by
  unfold levelEvent?
  split <;> simp [*]

/-- A native event that is masked to what the level stands for is reported as its event. -/
theorem event?_eq_levelEvent? {readiness : Conditions}
    (h : readiness.mask x.interests = levelReadiness x.interests (level x.descriptor.fd)) :
    x.event? readiness = x.levelEvent? level := by
  rw [event?, levelEvent?, h]

end Addition

/-! ### The bits of `epoll` -/

namespace Epoll

variable {level m n : UInt32}

theorem hasBit_or (level m n : UInt32) :
    hasBit level (m ||| n) = (hasBit level m || hasBit level n) := by
  have hor : level &&& (m ||| n) = level &&& m ||| level &&& n := by
    apply UInt32.toBitVec_inj.mp
    exact BitVec.and_or_distrib_left
  by_cases hm : level &&& m = 0 <;> simp [hasBit, hor, UInt32.or_eq_zero_iff, hm]

theorem hasBit_and (level m n : UInt32) : hasBit (level &&& m) n = hasBit level (m &&& n) := by
  rw [hasBit, hasBit, UInt32.and_assoc]

@[simp] theorem hasBit_zero (level : UInt32) : hasBit level 0 = false := by
  simp [hasBit]

theorem eq_zero_iff_hasBit : level &&& m = 0 ↔ hasBit level m = false := by
  simp [hasBit]

/-- The bits of a level that a registration reports. -/
def reportedBits (i : Interests) : UInt32 := requested i ||| errBit ||| hupBit

/-- What is reported of the bits that pass a registration is what is reported of the level. -/
theorem mask_readiness (i : Interests) (level : UInt32) :
    (readiness (level &&& reportedBits i)).mask i = levelReadiness i level := by
  have hflags : ∀ events, readiness events = .ofFlags (hasBit events (inBit ||| priBit))
      (hasBit events outBit) (hasBit events errBit) (hasBit events (rdhupBit ||| hupBit)) :=
    fun _ => rfl
  rw [hflags, Conditions.mask_ofFlags, levelReadiness]
  simp only [hasBit_and]
  cases i <;> rfl

/-- A registration has no event exactly if nothing is reported. -/
theorem level_eq_zero_iff (i : Interests) (level : UInt32) :
    level &&& reportedBits i = 0 ↔ (levelReadiness i level).isEmpty = true := by
  rw [eq_zero_iff_hasBit, levelReadiness, Conditions.isEmpty_ofFlags]
  cases i <;>
    simp [reportedBits, requested, Interests.isReadable, Interests.isWritable, hasBit_or,
      and_assoc, and_comm, and_left_comm]

end Epoll

/-! ### The bits of `poll` -/

namespace Poll

/-- A bit of `poll` is set in the low half of a level if it is set in the level. -/
theorem hasBit_toUInt16 (level : UInt32) (m : UInt16) :
    hasBit level.toUInt16 m = Epoll.hasBit level m.toUInt32 := by
  have hlow : (level.toUInt16 &&& m).toNat = (level &&& m.toUInt32).toNat := by
    rw [UInt16.toNat_and, UInt32.toNat_and, UInt32.toNat_toUInt16, UInt16.toNat_toUInt32]
    refine Nat.eq_of_testBit_eq fun j => ?_
    rw [Nat.testBit_and, Nat.testBit_and, Nat.testBit_mod_two_pow]
    by_cases hj : j < 16
    · simp [hj]
    · have hm : m.toNat < 2 ^ j :=
        Nat.lt_of_lt_of_le m.toNat_lt (Nat.pow_le_pow_right Nat.two_pos (Nat.le_of_not_lt hj))
      simp [Nat.testBit_lt_two_pow hm]
  rw [hasBit, Epoll.hasBit, decide_eq_decide, ne_eq, ne_eq, ← UInt16.toNat_inj, hlow,
    ← UInt32.toNat_inj]
  rfl

theorem hasBit_and (results m n : UInt16) : hasBit (results &&& m) n = hasBit results (m &&& n) := by
  rw [hasBit, hasBit, UInt16.and_assoc]

theorem eq_zero_iff_hasBit {results m : UInt16} : results &&& m = 0 ↔ hasBit results m = false := by
  simp [hasBit]

/-- The bits of a level that an entry of the table reports. -/
def reportedBits (i : Interests) : UInt16 := requested (.ofInterests i) ||| errBit ||| hupBit

variable {level : UInt32}

/-- `poll` and `epoll` report the same of a level. -/
theorem mask_readiness (i : Interests) (h : Epoll.hasBit level Epoll.rdhupBit = false) :
    (readiness (level.toUInt16 &&& reportedBits i)).mask i = levelReadiness i level := by
  have hflags : ∀ results, readiness results = .ofFlags (hasBit results (inBit ||| priBit))
      (hasBit results outBit) (hasBit results (errBit ||| nvalBit)) (hasBit results hupBit) :=
    fun _ => rfl
  rw [hflags, Conditions.mask_ofFlags, levelReadiness, Epoll.hasBit_or level Epoll.rdhupBit, h]
  simp only [hasBit_and, hasBit_toUInt16]
  cases i <;> rfl

/-- An entry has no results exactly if nothing is reported. -/
theorem level_eq_zero_iff (i : Interests) (h : Epoll.hasBit level Epoll.rdhupBit = false) :
    level.toUInt16 &&& reportedBits i = 0 ↔ (levelReadiness i level).isEmpty = true := by
  have hbits : Epoll.hasBit level (reportedBits i).toUInt32 =
      Epoll.hasBit level (Epoll.reportedBits i) := by
    have hmore : Epoll.reportedBits i = Epoll.rdhupBit ||| (reportedBits i).toUInt32 := by
      cases i <;> rfl
    rw [hmore, Epoll.hasBit_or, h, Bool.false_or]
  rw [eq_zero_iff_hasBit, hasBit_toUInt16, hbits, ← Epoll.eq_zero_iff_hasBit,
    Epoll.level_eq_zero_iff]

end Poll

end Readiness
