import Readiness.Facility.Kqueue
import Readiness.Proofs.Registry

/-! # One registration for each filter

`kqueue` keeps a registration for each filter of a descriptor, and a call changes one of them.

* **Changes** (`Kqueue.Changed`).  A change that succeeded is applied and one that failed is not.
  An interrupted call counts as a success whatever became of its change; that such a call has
  applied its change is what is taken for granted (`Kernel.AppliesInterrupted`).
* **Many changes** (`Kqueue.Near`).  Whatever a watch or an unwatch ends with, it leaves the other
  descriptors alone.
* **Watching** registers all filters, or deletes those it registered.  **Unwatching** that succeeds
  has deleted all filters. -/

namespace Readiness

open Registry

/-! ### Calls that are taken for granted -/

/-- The change that a call asked for, with the handle. -/
def SystemCall.change? : SystemCall → Option (Int32 × KqueueChange)
  | keventChange handle fd filter flags t => some (handle, ⟨fd, filter, flags, t⟩)
  | _ => none

theorem KqueueChange.concerns_iff {c : KqueueChange} {r : KqueueRegistration} :
    c.concerns r = true ↔ r.fd = c.fd ∧ r.filter = c.filter := by
  simp [concerns]

namespace Kernel

/-- A change was applied without an error. -/
def Applied (k k' : Kernel) (c : KqueueChange) : Prop :=
  (k.applyChange c).1 = 0 ∧ k'.kqueueRegistrations = (k.applyChange c).2.kqueueRegistrations

/-- Of some changes, asked for one after the other, each one whose call is interrupted is applied
without an error. -/
def AppliesInterrupted : List (Int32 × KqueueChange) → Kernel → Prop
  | [], _ => True
  | (handle, c) :: rest, k =>
    ((k.keventChange handle c).1 = .failed .interrupted →
      Applied k (k.keventChange handle c).2 c) ∧
    AppliesInterrupted rest (k.keventChange handle c).2

/-- The changes asked for between two states. -/
def changesSince (k k' : Kernel) : List (Int32 × KqueueChange) :=
  (k'.calls.toList.drop k.calls.size).filterMap SystemCall.change?

variable {k k' : Kernel} {c : KqueueChange}

theorem error_of_receipt (c : KqueueChange) (data : Int64) :
    Kqueue.receiptError? ⟨{ c with flags := c.flags ||| Kqueue.errorFlag }, data⟩ = none ↔
      data = 0 := by
  have hflag : (c.flags ||| Kqueue.errorFlag) &&& Kqueue.errorFlag = Kqueue.errorFlag := by
    apply UInt16.toBitVec_inj.mp
    ext i hi
    simpa using fun h => .inr h
  have hset : Kqueue.hasFlag (c.flags ||| Kqueue.errorFlag) Kqueue.errorFlag = true := by
    rw [Kqueue.hasFlag, hflag]
    decide
  simp [Kqueue.receiptError?, hset]

/-- A change is refused, or it registers or deletes a filter. -/
theorem applyChange_cases (k : Kernel) (c : KqueueChange) :
    ((k.applyChange c).1 ≠ 0 ∧ (k.applyChange c).2 = k) ∨
      ((k.applyChange c).1 = 0 ∧ Kqueue.hasFlag c.flags Kqueue.addFlag = true ∧
        (k.applyChange c).2.kqueueRegistrations =
          if k.kqueueRegistrations.any c.concerns then
            k.kqueueRegistrations.map fun r => if c.concerns r then { r with tag := c.tag } else r
          else k.kqueueRegistrations ++ [⟨c.fd, c.filter, c.tag⟩]) ∨
      ((k.applyChange c).1 = 0 ∧ Kqueue.hasFlag c.flags Kqueue.addFlag = false ∧
        (k.applyChange c).2.kqueueRegistrations =
          k.kqueueRegistrations.filter fun r => !c.concerns r) := by
  unfold applyChange
  by_cases hinvalid : k.isInvalid c.fd = true
  · exact .inl (by simp [hinvalid])
  · by_cases hadd : Kqueue.hasFlag c.flags Kqueue.addFlag = true
    · exact .inr (.inl (by simp [hinvalid, hadd]))
    · by_cases hknown : k.kqueueRegistrations.any c.concerns = true
      · exact .inr (.inr (by simp only [hinvalid, hadd, hknown]; simp))
      · exact .inl (by simp only [hinvalid, hadd, hknown]; simp)

/-- What an applied change leaves: the registrations that it does not concern, and its own one if
it registers. -/
theorem Applied.mem_iff (h : Applied k k' c) (r : KqueueRegistration) :
    r ∈ k'.kqueueRegistrations ↔ (r ∈ k.kqueueRegistrations ∧ c.concerns r = false) ∨
      (Kqueue.hasFlag c.flags Kqueue.addFlag = true ∧ r = ⟨c.fd, c.filter, c.tag⟩) := by
  obtain ⟨hzero, hk⟩ := h
  rcases applyChange_cases k c with ⟨herror, -⟩ | ⟨-, hadd, hr⟩ | ⟨-, hadd, hr⟩
  · exact absurd hzero herror
  · rw [hk, hr]
    have hown : ∀ q, c.concerns q = true →
        ({ q with tag := c.tag } : KqueueRegistration) = ⟨c.fd, c.filter, c.tag⟩ := by
      intro q hq
      obtain ⟨hfd, hfilter⟩ := KqueueChange.concerns_iff.mp hq
      rw [hfd, hfilter]
    split
    · rename_i hknown
      obtain ⟨q, hq, hcq⟩ := List.any_eq_true.mp hknown
      constructor
      · intro hmem
        obtain ⟨p, hp, rfl⟩ := List.mem_map.mp hmem
        by_cases hcp : c.concerns p = true
        · exact .inr ⟨hadd, by rw [if_pos hcp, hown p hcp]⟩
        · rw [if_neg hcp]
          exact .inl ⟨hp, Bool.eq_false_iff.mpr hcp⟩
      · rintro (⟨hold, hcr⟩ | ⟨-, rfl⟩)
        · exact List.mem_map.mpr ⟨r, hold, by simp [hcr]⟩
        · exact List.mem_map.mpr ⟨q, hq, by rw [if_pos hcq, hown q hcq]⟩
    · rename_i hnew
      have hfree : r ∈ k.kqueueRegistrations → c.concerns r = false := fun hold =>
        Bool.eq_false_iff.mpr fun hcr => hnew (List.any_eq_true.mpr ⟨r, hold, hcr⟩)
      rw [List.mem_append, List.mem_singleton, and_iff_left_of_imp hfree]
      exact or_congr_right (iff_and_self.mpr fun _ => hadd)
  · rw [hk, hr, List.mem_filter, Bool.not_eq_true']
    exact (or_iff_left fun h => Bool.false_ne_true (hadd.symm.trans h.1)).symm

/-- An applied change registers no filter twice. -/
theorem Applied.nodup (h : Applied k k' c)
    (hapart : (k.kqueueRegistrations.map fun r => (r.fd, some r.filter)).Nodup) :
    (k'.kqueueRegistrations.map fun r => (r.fd, some r.filter)).Nodup := by
  obtain ⟨hzero, hk⟩ := h
  rcases applyChange_cases k c with ⟨herror, -⟩ | ⟨-, hadd, hr⟩ | ⟨-, hadd, hr⟩
  · exact absurd hzero herror
  · rw [hk, hr]
    split
    · have hsame : (fun r : KqueueRegistration => (r.fd, some r.filter)) ∘
          (fun r => if c.concerns r then { r with tag := c.tag } else r) =
            fun r => (r.fd, some r.filter) := by
        funext r
        dsimp only [Function.comp]
        split <;> rfl
      rw [List.map_map, hsame]
      exact hapart
    · rename_i hnew
      rw [List.map_append]
      refine List.nodup_append.mpr ⟨hapart, List.nodup_singleton _, ?_⟩
      rintro s hs s' hs' rfl
      obtain ⟨q, hq, rfl⟩ := List.mem_map.mp hs
      have hslot := List.mem_singleton.mp hs'
      obtain ⟨hfd, hfilter⟩ := Prod.mk.inj hslot
      exact hnew (List.any_eq_true.mpr
        ⟨q, hq, KqueueChange.concerns_iff.mpr ⟨hfd, Option.some.inj hfilter⟩⟩)
  · rw [hk, hr]
    exact hapart.sublist (List.filter_sublist.map _)

theorem applied_congr {k₁ : Kernel} (hinvalid : k₁.invalid = k.invalid)
    (hregistrations : k₁.kqueueRegistrations = k.kqueueRegistrations) :
    Applied k₁ k' c ↔ Applied k k' c := by
  have hsame : (k₁.applyChange c).1 = (k.applyChange c).1 ∧
      (k₁.applyChange c).2.kqueueRegistrations = (k.applyChange c).2.kqueueRegistrations := by
    unfold applyChange isInvalid
    rw [hinvalid, hregistrations]
    dsimp only
    split
    · exact ⟨rfl, hregistrations⟩
    · split
      · exact ⟨rfl, rfl⟩
      · split
        · exact ⟨rfl, rfl⟩
        · exact ⟨rfl, hregistrations⟩
  rw [Applied, Applied, hsame.1, hsame.2]

/-- Taking a verdict only changes the queue of verdicts. -/
theorem nextVerdict_eq (k : Kernel) (name : CallName) :
    ∃ k₁ : Kernel, k₁.calls = k.calls ∧ k₁.kqueueRegistrations = k.kqueueRegistrations ∧
      (∀ k' c, Applied k₁ k' c ↔ Applied k k' c) ∧
      k.nextVerdict name = ((k.nextVerdict name).1, k₁) :=
  ⟨(k.nextVerdict name).2, rfl, rfl, fun _ _ => applied_congr rfl rfl, rfl⟩

theorem calls_applyChange (k : Kernel) (c : KqueueChange) :
    (k.applyChange c).2.calls = k.calls := by
  unfold applyChange
  dsimp only
  split
  · rfl
  · split
    · rfl
    · split <;> rfl

theorem injected_applyChange (k : Kernel) (c : KqueueChange) :
    (k.applyChange c).2.kqueueInjected = k.kqueueInjected := by
  unfold applyChange
  dsimp only
  split
  · rfl
  · split
    · rfl
    · split <;> rfl

/-- Changing registrations does not touch injected events. -/
theorem injected_keventChange (k : Kernel) (handle : Int32) (c : KqueueChange) :
    (k.keventChange handle c).2.kqueueInjected = k.kqueueInjected := by
  have hchange : ∀ k : Kernel, (k.attemptChange handle c).2.kqueueInjected = k.kqueueInjected := by
    intro k
    unfold attemptChange change nextVerdict
    split
    · dsimp only
      cases (Verdict.next .receipt k.verdicts).1 with
      | pass => exact injected_applyChange _ c
      | fail _ _ | giveUp => rfl
    · rfl
  unfold keventChange nextVerdict
  dsimp only
  cases (Verdict.next .kevent _).1 with
  | pass => exact hchange _
  | giveUp => rfl
  | fail code nonzero =>
      dsimp only
      split
      · split
        · rename_i hk
          rw [← congrArg (·.2.kqueueInjected) hk]
          exact hchange _
        · exact hchange _
      · rfl

/-- A change that does not carry an error is applied, and any other changes nothing. -/
theorem change_eq {outcome : Outcome SystemError KqueueReceipt}
    (h : k.change c = (outcome, k')) :
    k'.calls = k.calls ∧ (∀ cause, outcome ≠ .failed cause) ∧
      ((∃ r, outcome = .done r ∧ Kqueue.receiptError? r = none ∧ Applied k k' c) ∨
        ((∀ r, outcome = .done r → Kqueue.receiptError? r ≠ none) ∧
          k'.kqueueRegistrations = k.kqueueRegistrations)) := by
  obtain ⟨k₁, hcalls, hregistrations, happlied, hverdict⟩ := nextVerdict_eq k .receipt
  rw [change, hverdict] at h
  cases hv : (k.nextVerdict .receipt).1 with
  | pass =>
      simp only [hv] at h
      obtain ⟨rfl, rfl⟩ := Prod.mk.inj h
      refine ⟨(calls_applyChange k₁ c).trans hcalls, by rintro cause ⟨⟩, ?_⟩
      rcases applyChange_cases k₁ c with ⟨herror, hsame⟩ | ⟨hzero, -⟩ | ⟨hzero, -⟩
      · refine .inr ⟨?_, by rw [hsame, hregistrations]⟩
        rintro r ⟨⟩ hnone
        exact herror ((error_of_receipt c _).mp hnone)
      · exact .inl ⟨_, rfl, (error_of_receipt c _).mpr hzero, (happlied _ c).mp ⟨hzero, rfl⟩⟩
      · exact .inl ⟨_, rfl, (error_of_receipt c _).mpr hzero, (happlied _ c).mp ⟨hzero, rfl⟩⟩
  | fail data nonzero =>
      simp only [hv] at h
      obtain ⟨rfl, rfl⟩ := Prod.mk.inj h
      refine ⟨hcalls, by rintro cause ⟨⟩, .inr ⟨?_, hregistrations⟩⟩
      rintro r ⟨⟩ hnone
      exact nonzero ((error_of_receipt c _).mp hnone)
  | giveUp =>
      simp only [hv] at h
      obtain ⟨rfl, rfl⟩ := Prod.mk.inj h
      exact ⟨hcalls, by rintro cause ⟨⟩, .inr ⟨by rintro r ⟨⟩, hregistrations⟩⟩

theorem attemptChange_eq {handle : Int32} {outcome : Outcome SystemError KqueueReceipt}
    (h : k.attemptChange handle c = (outcome, k')) :
    k'.calls = k.calls ∧ outcome ≠ .failed .interrupted ∧
      ((∃ r, outcome = .done r ∧ Kqueue.receiptError? r = none ∧ Applied k k' c) ∨
        ((∀ r, outcome = .done r → Kqueue.receiptError? r ≠ none) ∧
          k'.kqueueRegistrations = k.kqueueRegistrations)) := by
  unfold attemptChange at h
  split at h
  · obtain ⟨hcalls, hne, hrest⟩ := change_eq h
    exact ⟨hcalls, hne _, hrest⟩
  · obtain ⟨rfl, rfl⟩ := Prod.mk.inj h
    exact ⟨rfl, by decide, .inr ⟨nofun, rfl⟩⟩

/-- A call asks for its change once.  If it answers with a receipt without an error the change is
applied, if it is interrupted that is open, and in all other cases nothing has changed. -/
theorem keventChange_eq {handle : Int32} {outcome : Outcome SystemError KqueueReceipt}
    (h : k.keventChange handle c = (outcome, k')) :
    k'.calls = k.calls.push (.keventChange handle c.fd c.filter c.flags c.tag) ∧
      ((∃ r, outcome = .done r ∧ Kqueue.receiptError? r = none ∧ Applied k k' c) ∨
        (outcome = .failed .interrupted ∧
          (Applied k k' c ∨ k'.kqueueRegistrations = k.kqueueRegistrations)) ∨
        (outcome ≠ .failed .interrupted ∧
          (∀ r, outcome = .done r → Kqueue.receiptError? r ≠ none) ∧
          k'.kqueueRegistrations = k.kqueueRegistrations)) := by
  obtain ⟨k₁, hcalls, hregistrations, happlied, hverdict⟩ :=
    nextVerdict_eq (k.record (.keventChange handle c.fd c.filter c.flags c.tag)) .kevent
  have hrecord : ∀ k', Applied (k.record (.keventChange handle c.fd c.filter c.flags c.tag)) k' c ↔
      Applied k k' c := fun _ => applied_congr rfl rfl
  have happlied' : ∀ k', Applied k₁ k' c → Applied k k' c := fun k' ha =>
    (hrecord k').mp ((happlied k' c).mp ha)
  rw [keventChange, hverdict] at h
  split at h
  · rename_i hpass
    obtain ⟨-, rfl⟩ := Prod.mk.inj hpass
    obtain ⟨hcalls', hne, hrest⟩ := attemptChange_eq h
    refine ⟨hcalls'.trans hcalls, ?_⟩
    rcases hrest with ⟨r, hr, hnone, ha⟩ | ⟨herror, hsame⟩
    · exact .inl ⟨r, hr, hnone, happlied' _ ha⟩
    · exact .inr (.inr ⟨hne, herror, hsame.trans hregistrations⟩)
  · rename_i hfail
    obtain ⟨-, rfl⟩ := Prod.mk.inj hfail
    split at h
    · split at h
      · rename_i hattempt
        obtain ⟨rfl, rfl⟩ := Prod.mk.inj h
        obtain ⟨hcalls', -, hrest⟩ := attemptChange_eq hattempt
        refine ⟨hcalls'.trans hcalls, .inr (.inl ⟨rfl, ?_⟩)⟩
        rcases hrest with ⟨-, -, -, ha⟩ | ⟨-, hsame⟩
        · exact .inl (happlied' _ ha)
        · exact .inr (hsame.trans hregistrations)
      · rename_i hnot
        obtain ⟨hcalls', hne, hrest⟩ := attemptChange_eq h
        refine ⟨hcalls'.trans hcalls, .inr (.inr ⟨hne, ?_⟩)⟩
        rcases hrest with ⟨r, hr, -, -⟩ | ⟨herror, hsame⟩
        · exact absurd (h.trans (by rw [hr])) (hnot r k')
        · exact ⟨herror, hsame.trans hregistrations⟩
    · obtain ⟨ho, rfl⟩ := Prod.mk.inj h
      refine ⟨hcalls, ?_⟩
      by_cases hcode : outcome = .failed .interrupted
      · exact .inr (.inl ⟨hcode, .inr hregistrations⟩)
      · refine .inr (.inr ⟨hcode, fun r hr => ?_, hregistrations⟩)
        exact absurd (ho.trans hr) nofun
  · rename_i hgiveUp
    obtain ⟨-, rfl⟩ := Prod.mk.inj hgiveUp
    obtain ⟨rfl, rfl⟩ := Prod.mk.inj h
    exact ⟨hcalls, .inr (.inr ⟨nofun, nofun, hregistrations⟩)⟩

end Kernel

namespace Kqueue

instance : Registry Kqueue where
  Entry := KqueueRegistration
  entries _ k := k.kqueueRegistrations
  slot r := (r.fd, some r.filter)
  wanted x := x.interests.split.map fun i => ⟨x.descriptor.fd, filterFor i, x.tag⟩
  Honoured k k' := Kernel.AppliesInterrupted (k.changesSince k') k

/-! ### One change -/

/-- What asking for a change does. -/
structure Changed (c : KqueueChange) (outcome : Outcome SystemError Unit) (h h' : Host Kqueue) :
    Prop where
  kernel : h'.kernel = (h.kernel.keventChange h.facility.handle.fd c).2
  log : h'.log = h.log
  calls : h'.kernel.calls =
    h.kernel.calls.push (.keventChange h.facility.handle.fd c.fd c.filter c.flags c.tag)
  either : h.kernel.Applied h'.kernel c ∨ h'.entries = h.entries
  done : outcome = .done () →
    (h.kernel.keventChange h.facility.handle.fd c).1 = .failed .interrupted ∨
      h.kernel.Applied h'.kernel c
  failed : outcome ≠ .done () → h'.entries = h.entries

variable {h h' h₁ : Host Kqueue} {c : KqueueChange} {outcome : Outcome SystemError Unit}

theorem changed (hc : change c h = (outcome, h')) : Changed c outcome h h' := by
  cases hk : h.kernel.keventChange h.facility.handle.fd c with
  | mk o k' =>
      have hsystem : h.system (·.keventChange h.facility.handle.fd c) =
          (o, { h with kernel := k' }) := by rw [Host.system, hk]
      obtain ⟨hcalls, hrest⟩ := Kernel.keventChange_eq hk
      have hkernel : k' = (h.kernel.keventChange h.facility.handle.fd c).2 := by rw [hk]
      rw [change, hsystem] at hc
      rcases hrest with ⟨r, rfl, hnone, ha⟩ | ⟨rfl, ha⟩ | ⟨hne, herror, hsame⟩
      · simp only [hnone] at hc
        obtain ⟨rfl, rfl⟩ := Prod.mk.inj hc
        exact ⟨hkernel, rfl, hcalls, .inl ha, fun _ => .inr ha, absurd rfl⟩
      · simp only [if_true] at hc
        obtain ⟨rfl, rfl⟩ := Prod.mk.inj hc
        exact ⟨hkernel, rfl, hcalls, ha, fun _ => .inl (by rw [hk]), absurd rfl⟩
      · have hend : outcome ≠ .done () ∧ h' = { h with kernel := k' } := by
          cases o with
          | done r =>
              cases hr : receiptError? r with
              | none => exact absurd hr (herror r rfl)
              | some cause =>
                  simp only [hr] at hc
                  obtain ⟨rfl, rfl⟩ := Prod.mk.inj hc
                  exact ⟨nofun, rfl⟩
          | failed cause =>
              have hcause : cause ≠ .interrupted := fun he => hne (he ▸ rfl)
              simp only [if_neg hcause] at hc
              obtain ⟨rfl, rfl⟩ := Prod.mk.inj hc
              exact ⟨nofun, rfl⟩
          | halted cause =>
              obtain ⟨rfl, rfl⟩ := Prod.mk.inj hc
              exact ⟨nofun, rfl⟩
        obtain ⟨hdone, rfl⟩ := hend
        exact ⟨hkernel, rfl, hcalls, .inr hsame, fun h => absurd h hdone, fun _ => hsame⟩

/-- The first change asked for since a state is the one that was asked for there. -/
theorem Changed.changesSince (hc : Changed c outcome h h₁)
    (hcalls : h₁.kernel.calls.toList <+: h'.kernel.calls.toList) :
    h.kernel.changesSince h'.kernel =
      (h.facility.handle.fd, c) :: h₁.kernel.changesSince h'.kernel := by
  obtain ⟨later, hlater⟩ := hcalls
  rw [Kernel.changesSince, Kernel.changesSince, ← hlater, hc.calls, Array.toList_push,
    Array.size_push, List.append_assoc, ← Array.length_toList, List.drop_left,
    ← List.append_assoc, List.drop_left' (by simp)]
  rfl

/-- A change whose call is not interrupted without being applied was applied if it succeeded, and
what is taken for granted of the calls after it stays so. -/
theorem Changed.honoured (hc : Changed c outcome h h₁)
    (hcalls : h₁.kernel.calls.toList <+: h'.kernel.calls.toList)
    (hh : Honoured Kqueue h.kernel h'.kernel) :
    (outcome = .done () → h.kernel.Applied h₁.kernel c) ∧
      Honoured Kqueue h₁.kernel h'.kernel := by
  have hh' : Kernel.AppliesInterrupted (h.kernel.changesSince h'.kernel) h.kernel := hh
  rw [hc.changesSince hcalls, Kernel.AppliesInterrupted, ← hc.kernel] at hh'
  exact ⟨fun hdone => (hc.done hdone).elim hh'.1 id, hh'.2⟩

/-! ### Many changes -/

/-- What any number of changes for a descriptor leaves: no filter is registered twice, other
descriptors are left alone, the lists of calls and of log entries only grow, and injected events
stay. -/
structure Near (d : Int32) (h h' : Host Kqueue) : Prop where
  apart : h.SlotsApart → h'.SlotsApart
  frame : ∀ e : Entry Kqueue, fd e ≠ d → (e ∈ h'.entries ↔ e ∈ h.entries)
  calls : h.kernel.calls.toList <+: h'.kernel.calls.toList
  failures : h.rollbackFailures ≤ h'.rollbackFailures
  injected : h'.kernel.kqueueInjected = h.kernel.kqueueInjected

variable {d : Int32}

theorem Near.refl (d : Int32) (h : Host Kqueue) : Near d h h :=
  ⟨id, fun _ _ => Iff.rfl, List.prefix_rfl, Nat.le_refl _, rfl⟩

theorem Near.trans (hn : Near d h h₁) (hn' : Near d h₁ h') : Near d h h' where
  apart hapart := hn'.apart (hn.apart hapart)
  frame e hfd := (hn'.frame e hfd).trans (hn.frame e hfd)
  calls := hn.calls.trans hn'.calls
  failures := Nat.le_trans hn.failures hn'.failures
  injected := hn'.injected.trans hn.injected

theorem Changed.near (hc : Changed c outcome h h') (hd : c.fd = d) : Near d h h' where
  apart hapart := by
    rcases hc.either with ha | he
    · exact ha.nodup hapart
    · rw [Host.SlotsApart, he]
      exact hapart
  frame e hfd := by
    rcases hc.either with ha | he
    · have hnot : c.concerns e = false := Bool.eq_false_iff.mpr fun hce =>
        hfd ((KqueueChange.concerns_iff.mp hce).1.trans hd)
      have hown : e ≠ ⟨c.fd, c.filter, c.tag⟩ := fun he => hfd (he ▸ hd)
      refine (ha.mem_iff e).trans ?_
      rw [and_iff_left hnot]
      exact or_iff_left fun h => hown h.2
    · rw [he]
  calls := by
    rw [hc.calls, Array.toList_push]
    exact List.prefix_append ..
  failures := Nat.le_of_eq (by rw [Host.rollbackFailures, Host.rollbackFailures, hc.log])
  injected := by
    rw [hc.kernel]
    exact Kernel.injected_keventChange ..

theorem failures_note (h : Host Kqueue) (i : Interests) (cause : SystemError) :
    (h.note (.rollbackFailed i cause)).rollbackFailures = h.rollbackFailures + 1 := by
  simp [Host.rollbackFailures, Host.note]

theorem near_note (d : Int32) (h : Host Kqueue) (i : Interests) (cause : SystemError) :
    Near d h (h.note (.rollbackFailed i cause)) :=
  ⟨id, fun _ _ => Iff.rfl, List.prefix_rfl, by rw [failures_note]; omega, rfl⟩

/-! ### Deleting -/

/-- Changes for a descriptor that leave no new registration. -/
structure Fewer (d : Int32) (h h' : Host Kqueue) : Prop extends Near d h h' where
  less : ∀ e ∈ h'.entries, e ∈ h.entries

theorem Fewer.refl (d : Int32) (h : Host Kqueue) : Fewer d h h := ⟨.refl d h, fun _ => id⟩

theorem Fewer.trans (hf : Fewer d h h₁) (hf' : Fewer d h₁ h') : Fewer d h h' :=
  ⟨hf.toNear.trans hf'.toNear, fun e he => hf.less e (hf'.less e he)⟩

theorem fewer_note (d : Int32) (h : Host Kqueue) (i : Interests) (cause : SystemError) :
    Fewer d h (h.note (.rollbackFailed i cause)) :=
  ⟨near_note d h i cause, fun _ => id⟩

/-- A descriptor has none of the filters. -/
def Lacks (h : Host Kqueue) (d : Int32) (singles : List Interests) : Prop :=
  ∀ e : Entry Kqueue, e ∈ h.entries → fd e = d → ∀ i ∈ singles, e.filter ≠ filterFor i

/-- The change that deletes a filter. -/
def deleting (d : Int32) (t : Tag) (i : Interests) : KqueueChange :=
  ⟨d, filterFor i, deleteFlag ||| receiptFlag, t⟩

variable {t : Tag} {i : Interests}

/-- A deletion that was applied leaves what has another filter. -/
theorem applied_delete (ha : h.kernel.Applied h₁.kernel (deleting d t i)) :
    ∀ e : Entry Kqueue, e ∈ h₁.entries → e ∈ h.entries ∧ ¬ (fd e = d ∧ e.filter = filterFor i) := by
  have hdelete : hasFlag (deleteFlag ||| receiptFlag) addFlag ≠ true := by decide
  intro e he
  obtain ⟨hold, hnot⟩ := ((ha.mem_iff e).mp he).resolve_right fun h => hdelete h.1
  refine ⟨hold, fun hconcerns => Bool.eq_false_iff.mp hnot ?_⟩
  exact KqueueChange.concerns_iff.mpr hconcerns

theorem Changed.fewer (hc : Changed (deleting d t i) outcome h h₁) : Fewer d h h₁ := by
  refine ⟨hc.near rfl, fun e he => ?_⟩
  rcases hc.either with ha | hsame
  · exact (applied_delete ha e he).1
  · exact hsame ▸ he

/-- After a deletion that succeeded, it is enough that the other filters are gone in the end. -/
theorem Changed.lacks_cons {rest : List Interests} (hc : Changed (deleting d t i) (.done ()) h h₁)
    (hf : Fewer d h₁ h') (hh : Honoured Kqueue h.kernel h'.kernel)
    (hrest : Honoured Kqueue h₁.kernel h'.kernel → Lacks h' d rest) : Lacks h' d (i :: rest) := by
  obtain ⟨happlied, hh'⟩ := hc.honoured hf.calls hh
  intro e he hfd j hj hfilter
  rcases List.mem_cons.mp hj with rfl | hj
  · exact (applied_delete (happlied rfl) e (hf.less e he)).2 ⟨hfd, hfilter⟩
  · exact hrest hh' e he hfd j hj hfilter

/-- A rollback in which no deletion failed leaves none of its filters. -/
theorem undone {registered : List Interests}
    (hu : undoAll (deregister d t) (fun i cause h => h.note (.rollbackFailed i cause)) registered
      h = (outcome, h')) :
    Fewer d h h' ∧ (Honoured Kqueue h.kernel h'.kernel → h'.rollbackFailures = h.rollbackFailures →
      outcome.isHalted = false → Lacks h' d registered) := by
  induction registered generalizing h with
  | nil =>
      obtain ⟨rfl, rfl⟩ := Prod.mk.inj hu
      exact ⟨.refl d h, fun _ _ _ _ _ _ => nofun⟩
  | cons i rest ih =>
      cases hd : deregister d t i h with
      | mk o g =>
          have hc : Changed (deleting d t i) o h g := changed hd
          have hmore := hc.fewer.failures
          rw [undoAll, hd] at hu
          cases o with
          | halted cause =>
              obtain ⟨rfl, rfl⟩ := Prod.mk.inj hu
              exact ⟨hc.fewer, nofun⟩
          | failed cause =>
              obtain ⟨hf, -⟩ := ih hu
              have hmore' := hf.failures
              rw [failures_note] at hmore'
              refine ⟨(hc.fewer.trans (fewer_note d g i cause)).trans hf, fun _ hsame => ?_⟩
              omega
          | done value =>
              obtain ⟨hf, hrest⟩ := ih hu
              refine ⟨hc.fewer.trans hf, fun hh hsame hfine => hc.lacks_cons hf hh fun hh' => ?_⟩
              have hmore' := hf.failures
              exact hrest hh' (by omega) hfine

/-- Unwatching in which no deletion failed leaves none of the filters. -/
theorem unwatchedEach {result : Outcome SystemError Unit} {singles : List Interests}
    (hu : unwatchEach d singles result h = (outcome, h')) :
    Fewer d h h' ∧ (Honoured Kqueue h.kernel h'.kernel → outcome = .done () →
      result = .done () ∧ Lacks h' d singles) := by
  induction singles generalizing h result with
  | nil =>
      obtain ⟨rfl, rfl⟩ := Prod.mk.inj hu
      exact ⟨.refl d h, fun _ hdone => ⟨hdone, fun _ _ _ => nofun⟩⟩
  | cons i rest ih =>
      cases hd : deregister d ⟨0⟩ i h with
      | mk o g =>
          have hc : Changed (deleting d ⟨0⟩ i) o h g := changed hd
          rw [unwatchEach, hd] at hu
          cases o with
          | halted cause =>
              obtain ⟨rfl, rfl⟩ := Prod.mk.inj hu
              exact ⟨hc.fewer, nofun⟩
          | failed cause =>
              obtain ⟨hf, hrest⟩ := ih hu
              refine ⟨hc.fewer.trans hf, fun hh hdone => ?_⟩
              obtain ⟨hresult, -⟩ := hrest (hc.honoured hf.calls hh).2 hdone
              split at hresult
              · cases hresult
              · rename_i hne
                exact absurd hresult hne
          | done value =>
              obtain ⟨hf, hrest⟩ := ih hu
              refine ⟨hc.fewer.trans hf, fun hh hdone => ?_⟩
              obtain ⟨hresult, -⟩ := hrest (hc.honoured hf.calls hh).2 hdone
              exact ⟨hresult, hc.lacks_cons hf hh fun hh' => (hrest hh' hdone).2⟩

/-! ### Registering -/

/-- The change that registers a filter. -/
def registering (d : Int32) (t : Tag) (i : Interests) : KqueueChange :=
  ⟨d, filterFor i, addFlag ||| receiptFlag, t⟩

/-- The registration of a filter for a tag. -/
def registration (d : Int32) (t : Tag) (i : Interests) : KqueueRegistration :=
  ⟨d, filterFor i, t⟩

/-- A registration that was applied is there, and beside it what was there, other tags apart. -/
theorem applied_register
    (ha : h.kernel.Applied h₁.kernel (registering d t i)) :
    registration d t i ∈ h₁.entries ∧
      (∀ j, registration d t j ∈ h.entries → registration d t j ∈ h₁.entries) ∧
      ∀ e ∈ h₁.entries, e ∈ h.entries ∨ e = registration d t i := by
  have hadd : hasFlag (addFlag ||| receiptFlag) addFlag = true := by decide
  have hnew : registration d t i ∈ h₁.entries := (ha.mem_iff _).mpr (.inr ⟨hadd, rfl⟩)
  refine ⟨hnew, fun j hj => ?_, fun e he => ?_⟩
  · by_cases hfilter : filterFor j = filterFor i
    · rwa [registration, hfilter]
    · refine (ha.mem_iff _).mpr (.inl ⟨hj, Bool.eq_false_iff.mpr fun hconcerns => ?_⟩)
      exact hfilter (KqueueChange.concerns_iff.mp hconcerns).2
  · exact ((ha.mem_iff e).mp he).imp And.left And.right

/-- Registering the filters `todo` after those of `registered`. -/
structure Registered (d : Int32) (t : Tag) (registered todo : List Interests)
    (outcome : Outcome SystemError Unit) (h h' : Host Kqueue) : Prop where
  near : Near d h h'
  kept : Honoured Kqueue h.kernel h'.kernel → outcome = .done () →
    ∀ i, registration d t i ∈ h.entries → registration d t i ∈ h'.entries
  present : Honoured Kqueue h.kernel h'.kernel → outcome = .done () →
    ∀ i ∈ todo, registration d t i ∈ h'.entries
  tidy : Honoured Kqueue h.kernel h'.kernel → h'.rollbackFailures = h.rollbackFailures →
    outcome.isHalted = false →
      (∀ e : Entry Kqueue, e ∈ h.entries → fd e = d → ∃ i ∈ registered, e = registration d t i) →
        ∀ e : Entry Kqueue, e ∈ h'.entries → fd e = d →
          outcome = .done () ∧ ∃ i ∈ registered ++ todo, e = registration d t i

theorem Registered.of_rollback {registered todo : List Interests}
    {cause : SystemError} {undo : Outcome SystemError Unit}
    (hc : Changed (registering d t i) (.failed cause) h h₁)
    (hu : undoAll (deregister d t) (fun i cause h => h.note (.rollbackFailed i cause)) registered
      h₁ = (undo, h')) (hfine : outcome.isHalted = undo.isHalted) (hne : outcome ≠ .done ()) :
    Registered d t registered (i :: todo) outcome h h' := by
  obtain ⟨hf, hgone⟩ := undone hu
  refine ⟨(hc.near rfl).trans hf.toNear, fun _ hdone => absurd hdone hne,
    fun _ hdone => absurd hdone hne, ?_⟩
  intro hh hsame hhalted hold e he hfd
  exfalso
  have hh' := (hc.honoured hf.calls hh).2
  have hsame' : h'.rollbackFailures = h₁.rollbackFailures := by
    have := (hc.near rfl).failures
    have := hf.failures
    omega
  have hbefore : e ∈ h.entries := hc.failed nofun ▸ hf.less e he
  obtain ⟨j, hj, rfl⟩ := hold e hbefore hfd
  exact hgone hh' hsame' (hfine ▸ hhalted) _ he hfd j hj rfl

theorem Registered.cons {registered todo : List Interests}
    (hc : Changed (registering d t i) (.done ()) h h₁)
    (hrest : Registered d t (registered ++ [i]) todo outcome h₁ h') :
    Registered d t registered (i :: todo) outcome h h' := by
  have hnear : Near d h h₁ := hc.near rfl
  have hfirst : Honoured Kqueue h.kernel h'.kernel →
      h.kernel.Applied h₁.kernel (registering d t i) ∧
        Honoured Kqueue h₁.kernel h'.kernel := fun hh =>
    (hc.honoured hrest.near.calls hh).imp (· rfl) id
  refine ⟨hnear.trans hrest.near, ?_, ?_, ?_⟩
  · intro hh hdone j hj
    obtain ⟨happlied, hh'⟩ := hfirst hh
    exact hrest.kept hh' hdone j ((applied_register happlied).2.1 j hj)
  · intro hh hdone j hj
    obtain ⟨happlied, hh'⟩ := hfirst hh
    rcases List.mem_cons.mp hj with rfl | hj
    · exact hrest.kept hh' hdone _ (applied_register happlied).1
    · exact hrest.present hh' hdone j hj
  · intro hh hsame hfine hold e he hfd
    obtain ⟨happlied, hh'⟩ := hfirst hh
    have hsame' : h'.rollbackFailures = h₁.rollbackFailures := by
      have := hnear.failures
      have := hrest.near.failures
      omega
    rw [List.append_cons registered i todo]
    refine hrest.tidy hh' hsame' hfine (fun e he hfd => ?_) e he hfd
    rcases (applied_register happlied).2.2 e he with hbefore | rfl
    · obtain ⟨j, hj, rfl⟩ := hold e hbefore hfd
      exact ⟨j, List.mem_append_left _ hj, rfl⟩
    · exact ⟨i, List.mem_append_right _ List.mem_cons_self, rfl⟩

/-- **Registering**, in the ways it can go on: with no filter left, given up, rolled back, or with
the next filter registered. -/
theorem registerFrom_cases
    {P : List Interests → List Interests → Outcome SystemError Unit → Host Kqueue → Host Kqueue →
      Prop}
    (nil : ∀ registered h, P registered [] (.done ()) h h)
    (halted : ∀ registered i todo cause h h', Changed (registering d t i) (.halted cause) h h' →
      P registered (i :: todo) (.halted cause) h h')
    (rollback : ∀ registered i todo cause undo outcome h h₁ h',
      Changed (registering d t i) (.failed cause) h h₁ →
      undoAll (deregister d t) (fun i cause h => h.note (.rollbackFailed i cause)) registered h₁ =
        (undo, h') →
      outcome.isHalted = undo.isHalted → outcome ≠ .done () →
      P registered (i :: todo) outcome h h')
    (cons : ∀ registered i todo outcome h h₁ h', Changed (registering d t i) (.done ()) h h₁ →
      registerFrom (register d t) (deregister d t)
        (fun i cause h => h.note (.rollbackFailed i cause)) (registered ++ [i]) todo h₁ =
          (outcome, h') →
      P (registered ++ [i]) todo outcome h₁ h' → P registered (i :: todo) outcome h h')
    {registered todo : List Interests}
    (hr : registerFrom (register d t) (deregister d t)
      (fun i cause h => h.note (.rollbackFailed i cause)) registered todo h = (outcome, h')) :
    P registered todo outcome h h' := by
  induction todo generalizing h registered with
  | nil =>
      obtain ⟨rfl, rfl⟩ := Prod.mk.inj hr
      exact nil registered h
  | cons i todo ih =>
      cases hi : register d t i h with
      | mk o g =>
          have hc := changed hi
          rw [registerFrom, hi] at hr
          cases o with
          | halted cause =>
              obtain ⟨rfl, rfl⟩ := Prod.mk.inj hr
              exact halted _ _ _ _ _ _ hc
          | failed cause =>
              dsimp only at hr
              split at hr
              · rename_i hu
                obtain ⟨rfl, rfl⟩ := Prod.mk.inj hr
                exact rollback _ _ _ _ _ _ _ _ _ hc hu rfl nofun
              · rename_i undo _ hnot hu
                obtain ⟨rfl, rfl⟩ := Prod.mk.inj hr
                have hundo : undo.isHalted = false := by
                  cases undo with
                  | done _ | failed _ => rfl
                  | halted other => exact (hnot other rfl).elim
                exact rollback _ _ _ _ _ _ _ _ _ hc hu hundo.symm nofun
          | done value => exact cons _ _ _ _ _ _ _ hc hr (ih hr)

/-- All filters are registered, or those that were are deleted again. -/
theorem registeredFrom {registered todo : List Interests}
    (hr : registerFrom (register d t) (deregister d t)
      (fun i cause h => h.note (.rollbackFailed i cause)) registered todo h = (outcome, h')) :
    Registered d t registered todo outcome h h' := by
  refine registerFrom_cases (P := Registered d t) (fun registered h => ?_) ?_ ?_ ?_ hr
  · refine ⟨.refl d h, fun _ _ _ => id, fun _ _ => nofun, fun _ _ _ hold e he hfd => ?_⟩
    rw [List.append_nil]
    exact ⟨rfl, hold e he hfd⟩
  · exact fun _ _ _ _ _ _ hc => ⟨hc.near rfl, nofun, nofun, nofun⟩
  · exact fun _ _ _ _ _ _ _ _ _ hc hu hfine hne => .of_rollback hc hu hfine hne
  · exact fun _ _ _ _ _ _ _ hc _ hrest => .cons hc hrest

/-! ### Watching, unwatching and waiting -/

theorem watched {x : Addition}
    (hp : watch x.descriptor.fd x.interests x.tag h = (outcome, h')) : Watched x outcome h h' := by
  have hr := registeredFrom hp
  refine { apart := hr.near.apart, frame := hr.near.frame, present := ?_, tidy := ?_ }
  · intro hh hdone e he
    obtain ⟨i, hi, rfl⟩ := List.mem_map.mp he
    exact hr.present hh hdone i hi
  · intro hh hsame hfine hnew e he hfd
    obtain ⟨hdone, i, hi, rfl⟩ :=
      hr.tidy hh hsame hfine (fun e he hfd => absurd hfd (hnew e he)) e he hfd
    exact ⟨hdone, List.mem_map.mpr ⟨i, hi, rfl⟩⟩

theorem unwatched (hp : unwatch d i h = (outcome, h')) : Unwatched d i outcome h h' := by
  obtain ⟨hf, hend⟩ := unwatchedEach hp
  refine { apart := hf.apart, frame := hf.frame, absent := fun habsent e he => ?_, gone := ?_ }
  · exact habsent e (hf.less e he)
  · rintro hh hdone - x - rfl - honly e he hfd
    obtain ⟨j, hj, rfl⟩ := List.mem_map.mp (honly e (hf.less e he) hfd)
    exact (hend hh hdone).2 _ he hfd j hj rfl

theorem keeps_keventWait (handle room : Int32) (timeout : Option Timespec) :
    Progress.Keeps Kernel.kqueueRegistrations (Kernel.keventWait handle room timeout) := by
  intro k
  unfold Kernel.keventWait
  dsimp only
  split
  · exact ⟨rfl, nofun⟩
  · refine ⟨rfl, fun resume he t => ?_⟩
    obtain rfl := Progress.inside.inj he
    exact Kernel.obey_keeps (fun _ _ => rfl) (fun _ => rfl) t

instance : LawfulRegistry Kqueue where
  fd_wanted x e he := by
    obtain ⟨i, -, rfl⟩ := List.mem_map.mp he
    rfl
  watch x h h' p hp := by
    obtain ⟨rfl, rfl⟩ := Prod.mk.inj hp
    exact ⟨_, rfl, watched rfl⟩
  unwatch d i h h' p hp := by
    obtain ⟨rfl, rfl⟩ := Prod.mk.inj hp
    exact ⟨_, rfl, unwatched rfl⟩
  wait b timeout h :=
    Progress.Keeps.systemWithin (keeps_keventWait _ _ _) (fun _ _ hk => hk) (fun _ _ => rfl) h

end Kqueue

end Readiness
