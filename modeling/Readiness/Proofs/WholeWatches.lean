import Readiness.Proofs.Rollbacks

/-! # Watches that are all or nothing

What a watch of `kqueue` comes to, whatever becomes of the calls that it makes.

* **Refusals** (`Kernel.firstRefusal?`).  A filter is refused if its call fails for another reason
  than being interrupted, or if the receipt carries an error number.
* **All or nothing** (`Kqueue.AllOrNothing`).  A watch that succeeds has registered the filters of
  its interests and nothing else.  One that fails returns the error of the first filter that was
  refused, and the registrations are what they were.
* **Interruptions.**  An interrupted call counts as a success, and nobody looks at its receipt.  So
  a watch is all or nothing as long as interrupted calls have applied their changes
  (`Kqueue.watch_all_or_nothing`), and need not be otherwise (`Kqueue.watch_misses_filter`). -/

namespace Readiness

open Registry

namespace Kernel

variable {k k' : Kernel} {handle : Int32} {c : KqueueChange}

/-- The error that refuses a change, if the call or its receipt has one. -/
def refusal? : Outcome SystemError KqueueReceipt → Option SystemError
  | .done receipt => if receipt.data = 0 then none else some (.os receipt.data.toInt32)
  | .failed cause => if cause = .interrupted then none else some cause
  | .halted _ => none

/-- The error of the first of some changes, asked for one after the other, that is refused. -/
def firstRefusal? (handle : Int32) : List KqueueChange → Kernel → Option SystemError
  | [], _ => none
  | c :: rest, k =>
    (refusal? (k.keventChange handle c).1).or
      (firstRefusal? handle rest (k.keventChange handle c).2)

/-! ### Receipts -/

/-- A receipt is the change that was asked for, marked as carrying an error number. -/
def IsReceiptOf (c : KqueueChange) (outcome : Outcome SystemError KqueueReceipt) : Prop :=
  ∀ receipt, outcome = .done receipt →
    receipt.change = { c with flags := c.flags ||| Kqueue.errorFlag }

theorem isReceiptOf_change (k : Kernel) (c : KqueueChange) : IsReceiptOf c (k.change c).1 := by
  intro receipt h
  unfold change at h
  dsimp only at h
  split at h <;> cases h <;> rfl

theorem isReceiptOf_attemptChange (k : Kernel) (handle : Int32) (c : KqueueChange) :
    IsReceiptOf c (k.attemptChange handle c).1 := by
  unfold attemptChange
  split
  · exact isReceiptOf_change k c
  · exact nofun

theorem isReceiptOf_keventChange (k : Kernel) (handle : Int32) (c : KqueueChange) :
    IsReceiptOf c (k.keventChange handle c).1 := by
  unfold keventChange
  dsimp only
  split
  · exact isReceiptOf_attemptChange _ handle c
  · split
    · split
      · exact nofun
      · exact isReceiptOf_attemptChange _ handle c
    · exact nofun
  · exact nofun

/-- The error in a receipt is the one that refuses the change. -/
theorem IsReceiptOf.receiptError?_eq {receipt : KqueueReceipt} (h : IsReceiptOf c (.done receipt)) :
    Kqueue.receiptError? receipt = refusal? (.done receipt) := by
  obtain ⟨change, data⟩ := receipt
  obtain rfl : change = _ := h _ rfl
  by_cases hzero : data = 0
  · rw [(error_of_receipt c data).mpr hzero, refusal?, if_pos hzero]
  · have hsome := mt (error_of_receipt c data).mp hzero
    rw [refusal?, if_neg hzero]
    unfold Kqueue.receiptError? at hsome ⊢
    split
    · rfl
    · rename_i hnone
      exact absurd (if_neg hnone) hsome

/-- A registration that is applied, where there is none for the filter, comes last. -/
theorem Applied.eq_append (h : Applied k k' c) (hadd : Kqueue.hasFlag c.flags Kqueue.addFlag = true)
    (hnew : ∀ r ∈ k.kqueueRegistrations, c.concerns r = false) :
    k'.kqueueRegistrations = k.kqueueRegistrations ++ [⟨c.fd, c.filter, c.tag⟩] := by
  obtain ⟨hzero, hk⟩ := h
  rcases applyChange_cases k c with ⟨herror, -⟩ | ⟨-, -, hr⟩ | ⟨-, hnot, -⟩
  · exact absurd hzero herror
  · have hany : k.kqueueRegistrations.any c.concerns = false :=
      List.any_eq_false.mpr fun r hr => Bool.eq_false_iff.mp (hnew r hr)
    rw [hk, hr, hany]
    rfl
  · rw [hadd] at hnot
    cases hnot

/-- A deletion that is applied leaves what it does not concern. -/
theorem Applied.eq_filter (h : Applied k k' c)
    (hdelete : Kqueue.hasFlag c.flags Kqueue.addFlag = false) :
    k'.kqueueRegistrations = k.kqueueRegistrations.filter fun r => !c.concerns r := by
  obtain ⟨hzero, hk⟩ := h
  rcases applyChange_cases k c with ⟨herror, -⟩ | ⟨-, hadd, -⟩ | ⟨-, -, hr⟩
  · exact absurd hzero herror
  · rw [hdelete] at hadd
    cases hadd
  · rw [hk, hr]

end Kernel

namespace Kqueue

variable {d : Int32} {i : Interests} {t : Tag} {c : KqueueChange} {cause : SystemError}
  {outcome : Outcome SystemError Unit} {h h₁ h' : Host Kqueue}

/-! ### Refusals -/

/-- Asking for a change succeeds if nothing refuses it, and fails with what refuses it. -/
theorem refusal_of_change (hc : change c h = (outcome, h')) (hfine : outcome.isHalted = false) :
    outcome = (Kernel.refusal? (h.kernel.keventChange h.facility.handle.fd c).1).elim
      (.done ()) .failed := by
  have hreceipt := Kernel.isReceiptOf_keventChange h.kernel h.facility.handle.fd c
  cases hk : h.kernel.keventChange h.facility.handle.fd c with
  | mk o k' =>
      have hsystem : h.system (·.keventChange h.facility.handle.fd c) =
          (o, { h with kernel := k' }) := by rw [Host.system, hk]
      rw [change, hsystem] at hc
      rw [hk] at hreceipt
      cases o with
      | halted why =>
          obtain ⟨rfl, -⟩ := Prod.mk.inj hc
          cases hfine
      | failed cause =>
          rw [Kernel.refusal?]
          by_cases hinterrupted : cause = .interrupted
          · obtain ⟨rfl, -⟩ := Prod.mk.inj ((if_pos hinterrupted).symm.trans hc)
            rw [if_pos hinterrupted]
            rfl
          · obtain ⟨rfl, -⟩ := Prod.mk.inj ((if_neg hinterrupted).symm.trans hc)
            rw [if_neg hinterrupted]
            rfl
      | done receipt =>
          rw [← hreceipt.receiptError?_eq]
          dsimp only at hc
          cases hr : receiptError? receipt with
          | none =>
              rw [hr] at hc
              exact (Prod.mk.inj hc).1.symm
          | some cause =>
              rw [hr] at hc
              exact (Prod.mk.inj hc).1.symm

/-- Registering filters that comes to an end has failed exactly if a filter was refused, and then
with the error of the first one. -/
theorem firstRefusal_of_registerFrom {registered todo : List Interests}
    (hr : registerFrom (register d t) (deregister d t)
      (fun i cause h => h.note (.rollbackFailed i cause)) registered todo h = (outcome, h'))
    (hfine : outcome.isHalted = false) :
    outcome = (h.kernel.firstRefusal? h.facility.handle.fd (todo.map (registering d t))).elim
      (.done ()) .failed := by
  induction todo generalizing h registered with
  | nil => exact (Prod.mk.inj hr).1.symm
  | cons i todo ih =>
      rw [List.map_cons, Kernel.firstRefusal?]
      cases hi : register d t i h with
      | mk o g =>
          have hfirst := refusal_of_change (h := h) (c := registering d t i) hi
          have hkernel := (changed (c := registering d t i) hi).kernel
          have hfacility : g.facility = h.facility :=
            (congrArg (·.2.facility) hi).symm.trans (facility_change _ h)
          rw [registerFrom, hi] at hr
          cases hrefusal : Kernel.refusal? (h.kernel.keventChange h.facility.handle.fd
              (registering d t i)).1 with
          | none =>
              rw [hrefusal] at hfirst
              cases o with
              | halted why =>
                  obtain ⟨rfl, -⟩ := Prod.mk.inj hr
                  cases hfine
              | failed cause => cases hfirst rfl
              | done value =>
                  rw [Option.none_or, ← hkernel, ← hfacility]
                  exact ih hr
          | some cause =>
              rw [hrefusal] at hfirst
              cases o with
              | halted why =>
                  obtain ⟨rfl, -⟩ := Prod.mk.inj hr
                  cases hfine
              | done value => cases hfirst rfl
              | failed other =>
                  obtain rfl : other = cause := Outcome.failed.inj (hfirst rfl)
                  dsimp only at hr
                  split at hr
                  · obtain ⟨rfl, -⟩ := Prod.mk.inj hr
                    cases hfine
                  · exact (Prod.mk.inj hr).1.symm

/-! ### Watching -/

/-- The filters of the interests that come after those of `registered` are added to the list of
registrations, if that ends with those. -/
def Extends (d : Int32) (t : Tag) (registered todo : List Interests)
    (outcome : Outcome SystemError Unit) (h h' : Host Kqueue) : Prop :=
  Honoured Kqueue h.kernel h'.kernel → outcome = .done () →
    ((registered ++ todo).map filterFor).Nodup → ∀ others : List KqueueRegistration,
      (∀ r ∈ others, r.fd ≠ d) →
      h.kernel.kqueueRegistrations = others ++ registered.map (registration d t) →
        h'.kernel.kqueueRegistrations = others ++ (registered ++ todo).map (registration d t)

theorem Extends.cons {registered todo : List Interests}
    (hc : Changed (registering d t i) (.done ()) h h₁) (hn : Near d h₁ h')
    (hrest : Extends d t (registered ++ [i]) todo outcome h₁ h') :
    Extends d t registered (i :: todo) outcome h h' := by
  intro hh hdone hdistinct others hothers hlist
  obtain ⟨happlied, hh'⟩ := hc.honoured hn.calls hh
  have hadd : hasFlag (addFlag ||| receiptFlag) addFlag = true := by decide
  have hnew : ∀ r ∈ h.kernel.kqueueRegistrations, (registering d t i).concerns r = false := by
    intro r hr
    refine Bool.eq_false_iff.mpr fun hconcerns => ?_
    obtain ⟨hfd, hfilter⟩ := KqueueChange.concerns_iff.mp hconcerns
    rw [hlist] at hr
    rcases List.mem_append.mp hr with hr | hr
    · exact hothers r hr hfd
    · obtain ⟨j, hj, rfl⟩ := List.mem_map.mp hr
      rw [List.map_append, List.nodup_append] at hdistinct
      exact hdistinct.2.2 _ (List.mem_map_of_mem hj) _ (List.mem_map_of_mem List.mem_cons_self)
        hfilter
  have hextended := (happlied rfl).eq_append hadd hnew
  rw [List.append_cons] at hdistinct ⊢
  refine hrest hh' hdone hdistinct others hothers ?_
  rw [hextended, hlist, List.map_append, List.append_assoc]
  rfl

theorem extends_registerFrom {registered todo : List Interests}
    (hr : registerFrom (register d t) (deregister d t)
      (fun i cause h => h.note (.rollbackFailed i cause)) registered todo h = (outcome, h')) :
    Extends d t registered todo outcome h h' := by
  refine registerFrom_cases (P := Extends d t) (fun registered h => ?_) ?_ ?_ ?_ hr
  · intro _ _ _ others _ hlist
    rw [hlist, List.append_nil]
  · exact fun _ _ _ _ _ _ _ _ => nofun
  · exact fun _ _ _ _ _ _ _ _ _ _ _ _ hne _ hdone => absurd hdone hne
  · exact fun _ _ _ _ _ _ _ hc hr hrest => .cons hc (registeredFrom hr).near hrest

/-- The filters of interests are different ones. -/
theorem nodup_filters (i : Interests) : (i.split.map filterFor).Nodup := by
  cases i <;> decide

/-- A watch that succeeded has added the filters of the interests to the registrations. -/
theorem extends_watch (hw : watch d i t h = (.done (), h'))
    (hnew : ∀ r ∈ h.kernel.kqueueRegistrations, r.fd ≠ d)
    (hh : Honoured Kqueue h.kernel h'.kernel) :
    h'.kernel.kqueueRegistrations =
      h.kernel.kqueueRegistrations ++ i.split.map (registration d t) :=
  extends_registerFrom hw hh rfl (nodup_filters i) _ hnew (List.append_nil _).symm

/-- A watch that failed leaves the registrations as they were. -/
theorem restores_watch (hw : watch d i t h = (.failed cause, h'))
    (hnew : ∀ r ∈ h.kernel.kqueueRegistrations, r.fd ≠ d)
    (hsame : h'.rollbackFailures = h.rollbackFailures)
    (hh : Honoured Kqueue h.kernel h'.kernel) :
    h'.kernel.kqueueRegistrations = h.kernel.kqueueRegistrations := by
  have hgone : ∀ r ∈ h'.kernel.kqueueRegistrations, r.fd ≠ d := by
    intro r hr hfd
    have hend := (registeredFrom hw).tidy hh hsame rfl (fun e he hfd => absurd hfd (hnew e he))
      r hr hfd
    cases hend.1
  have hothers := filter_watch d i t h
  rw [hw] at hothers
  exact Host.entries_eq hothers hgone hnew

/-- What a watch of a descriptor with no filter registered comes to, unless a deletion fails when
it is rolled back.  If it succeeds, the filters of the interests are registered for the tag, and if
it fails, with the error of the first filter that was refused, the registrations are what they
were.  Those of other descriptors never change. -/
def AllOrNothing (Proviso : Kernel → Kernel → Prop) : Prop :=
  ∀ (d : Int32) (i : Interests) (t : Tag) (h h' : Host Kqueue)
    (outcome : Outcome SystemError Unit), watch d i t h = (outcome, h') →
      h'.kernel.kqueueRegistrations.filter (·.fd ≠ d) =
          h.kernel.kqueueRegistrations.filter (·.fd ≠ d) ∧
        ((∀ r ∈ h.kernel.kqueueRegistrations, r.fd ≠ d) →
          h'.rollbackFailures = h.rollbackFailures → Proviso h.kernel h'.kernel →
            (outcome = .done () → h'.kernel.kqueueRegistrations =
              h.kernel.kqueueRegistrations ++ i.split.map (registration d t)) ∧
            ∀ cause, outcome = .failed cause →
              h'.kernel.kqueueRegistrations = h.kernel.kqueueRegistrations ∧
                h.kernel.firstRefusal? h.facility.handle.fd (i.split.map (registering d t)) =
                  some cause)

/-- **Watching is all or nothing**, if every call that was interrupted has applied its change. -/
theorem watch_all_or_nothing :
    AllOrNothing fun k k' => Kernel.AppliesInterrupted (k.changesSince k') k := by
  intro d i t h h' outcome hw
  have hothers := filter_watch d i t h
  rw [hw] at hothers
  refine ⟨hothers, fun hnew hsame hh => ⟨?_, ?_⟩⟩
  · rintro rfl
    exact extends_watch hw hnew hh
  · rintro cause rfl
    refine ⟨restores_watch hw hnew hsame hh, ?_⟩
    have hrefusal := firstRefusal_of_registerFrom hw rfl
    cases hfirst : h.kernel.firstRefusal? h.facility.handle.fd (i.split.map (registering d t)) with
    | none =>
        rw [hfirst] at hrefusal
        cases hrefusal
    | some other =>
        rw [hfirst] at hrefusal
        exact congrArg some (Outcome.failed.inj hrefusal).symm

/-- The call for the first filter is interrupted and has applied its change, the second filter is
refused by its receipt, and the first one is deleted again.  The other descriptor keeps its
registration. -/
theorem watch_all_or_nothing_rolled_back :
    ∃ h h' : Host Kqueue, watch 5 .both ⟨3⟩ h = (.failed (.os 12), h') ∧
      (∀ r ∈ h.kernel.kqueueRegistrations, r.fd ≠ 5) ∧
      h'.rollbackFailures = h.rollbackFailures ∧
      Kernel.AppliesInterrupted (h.kernel.changesSince h'.kernel) h.kernel ∧
      (h.kernel.changesSince h'.kernel).length = 3 ∧
      h'.kernel.kqueueRegistrations = [⟨7, writeFilter, ⟨1⟩⟩] ∧
      h.kernel.firstRefusal? 1000 [registering 5 ⟨3⟩ .readable, registering 5 ⟨3⟩ .writable] =
        some (.os 12) := by
  obtain ⟨h, h', hw, hnew, hsame, hh, hcalls, hlist, hfd⟩ :
      ∃ h h' : Host Kqueue, watch 5 .both ⟨3⟩ h = (.failed (.os 12), h') ∧
        (∀ r ∈ h.kernel.kqueueRegistrations, r.fd ≠ 5) ∧
        h'.rollbackFailures = h.rollbackFailures ∧
        Kernel.AppliesInterrupted (h.kernel.changesSince h'.kernel) h.kernel ∧
        (h.kernel.changesSince h'.kernel).length = 3 ∧
        h.kernel.kqueueRegistrations = [⟨7, writeFilter, ⟨1⟩⟩] ∧
        h.facility.handle.fd = 1000 :=
    ⟨⟨⟨⟨1000⟩⟩, {
        live := [1000]
        kqueueRegistrations := [⟨7, writeFilter, ⟨1⟩⟩]
        verdicts := [(.kevent, .fail 4 (by decide)), (.receipt, .pass),
          (.receipt, .fail 12 (by decide))] }, #[]⟩,
      _, rfl, by decide, rfl, ⟨fun _ => ⟨rfl, rfl⟩, nofun, nofun, trivial⟩, rfl, rfl, rfl⟩
  obtain ⟨hrestored, hfirst⟩ :=
    ((watch_all_or_nothing 5 .both ⟨3⟩ h h' _ hw).2 hnew hsame hh).2 _ rfl
  exact ⟨h, h', hw, hnew, hsame, hh, hcalls, hrestored.trans hlist, hfd ▸ hfirst⟩

/-- **A filter is missed**: its call is interrupted, and the receipt that refuses it is not looked
at, so the watch succeeds without having registered it. -/
theorem watch_misses_filter : ¬ AllOrNothing fun _ _ => True := by
  intro hall
  obtain ⟨h, h', hw, hnew, hsame, hlist, hlist'⟩ :
      ∃ h h' : Host Kqueue, watch 5 .readable ⟨0⟩ h = (.done (), h') ∧
        (∀ r ∈ h.kernel.kqueueRegistrations, r.fd ≠ 5) ∧
        h'.rollbackFailures = h.rollbackFailures ∧ h.kernel.kqueueRegistrations = [] ∧
        h'.kernel.kqueueRegistrations = [] :=
    ⟨⟨⟨⟨1000⟩⟩, { live := [1000], verdicts :=
      [(.kevent, .fail 4 (by decide)), (.receipt, .fail 12 (by decide))] }, #[]⟩,
      _, rfl, nofun, rfl, rfl, rfl⟩
  have hadded := ((hall 5 .readable ⟨0⟩ h h' _ hw).2 hnew hsame trivial).1 rfl
  rw [hlist, hlist'] at hadded
  cases hadded

end Kqueue

end Readiness
