import Readiness.Proofs.TableMap
import Readiness.Proofs.WholeWatches

/-! # Unwatching with `poll` and with `kqueue`

`poll` takes interests from one entry of its table; `kqueue` deletes one filter after the other.

* **Corresponding states** (`Corresponds`).  The filters are those of the entries of the table, in any
  order, one for each direction and with the tag of the entry.
* **Agreement** (`unwatch_agrees`).  If no call is told to fail, both answer the same, and what they
  leave corresponds again.
* **Failing deletions** (`Kqueue.TriesAll`).  Every filter is asked to be deleted, a deletion that is
  not refused takes effect and a refused one has none, and the first refusal is returned.
* **Interruptions.**  An interrupted call counts as a deletion, so that the last holds as long as
  interrupted calls have applied their changes (`unwatch_agrees`), and need not hold otherwise
  (`unwatch_misses_filter`). -/

namespace Readiness

open Registry

/-! ### A kernel that lets all calls pass -/

/-- Every verdict in the queue lets its call pass. -/
def Kernel.Passes (k : Kernel) : Prop := ∀ v ∈ k.verdicts, v.2 = .pass

theorem Verdict.next_passes {verdicts : List (CallName × Verdict)}
    (h : ∀ v ∈ verdicts, v.2 = .pass) (name : CallName) :
    (Verdict.next name verdicts).1 = .pass ∧
      ∀ v ∈ (Verdict.next name verdicts).2, v.2 = .pass := by
  induction verdicts with
  | nil => exact ⟨rfl, nofun⟩
  | cons v rest ih =>
      obtain ⟨hfirst, hrest⟩ := ih fun w hw => h w (List.mem_cons_of_mem v hw)
      unfold Verdict.next
      split
      · exact ⟨h v List.mem_cons_self, fun w hw => h w (List.mem_cons_of_mem v hw)⟩
      · refine ⟨hfirst, fun w hw => ?_⟩
        rcases List.mem_cons.mp hw with rfl | hw
        · exact h w List.mem_cons_self
        · exact hrest w hw

/-- A kernel that makes changes for a descriptor: the handle is open, the descriptor is valid, and no
call is told to fail. -/
structure Kernel.Willing (k : Kernel) (handle d : Int32) : Prop where
  passes : k.Passes
  live : k.isLive handle = true
  valid : k.isInvalid d = false

namespace Kernel

variable {k : Kernel} {handle d : Int32} {c : KqueueChange}

theorem Willing.nextVerdict (h : k.Willing handle d) (name : CallName) :
    ∃ k₁, k.nextVerdict name = (.pass, k₁) ∧ k₁.Willing handle d ∧
      k₁.kqueueRegistrations = k.kqueueRegistrations := by
  obtain ⟨hpass, hrest⟩ := Verdict.next_passes h.passes name
  exact ⟨_, Prod.ext hpass rfl, ⟨hrest, h.live, h.valid⟩, rfl⟩

/-- A deletion leaves the other registrations, and says if there was none to delete. -/
theorem applyChange_delete (hvalid : k.isInvalid c.fd = false)
    (hdelete : Kqueue.hasFlag c.flags Kqueue.addFlag = false) :
    k.applyChange c = (if k.kqueueRegistrations.any c.concerns then 0 else 2,
      { k with kqueueRegistrations := k.kqueueRegistrations.filter fun r => !c.concerns r }) := by
  unfold applyChange
  rw [hvalid, hdelete]
  by_cases hknown : k.kqueueRegistrations.any c.concerns = true
  · simp [hknown]
  · have hsame : (k.kqueueRegistrations.filter fun r => !c.concerns r) = k.kqueueRegistrations := by
      refine List.filter_eq_self.mpr fun r hr => ?_
      rw [Bool.not_eq_true', Bool.eq_false_iff]
      exact fun hconcerns => hknown (List.any_eq_true.mpr ⟨r, hr, hconcerns⟩)
    simp [hknown, hsame]

/-- A deletion that is allowed to pass is made, and its receipt says what came of it. -/
theorem Willing.delete (h : k.Willing handle c.fd)
    (hdelete : Kqueue.hasFlag c.flags Kqueue.addFlag = false) :
    ∃ k' : Kernel, k.keventChange handle c =
        (.done ⟨{ c with flags := c.flags ||| Kqueue.errorFlag },
          if k.kqueueRegistrations.any c.concerns then 0 else 2⟩, k') ∧
      k'.Willing handle c.fd ∧
      k'.kqueueRegistrations = k.kqueueRegistrations.filter fun r => !c.concerns r := by
  have hrecord : (k.record (.keventChange handle c.fd c.filter c.flags c.tag)).Willing handle c.fd :=
    ⟨h.passes, h.live, h.valid⟩
  obtain ⟨k₁, hnext, hwilling, hsame⟩ := hrecord.nextVerdict .kevent
  obtain ⟨k₂, hreceipt, hwilling', hsame'⟩ := hwilling.nextVerdict .receipt
  have hregistrations : k₂.kqueueRegistrations = k.kqueueRegistrations := hsame'.trans hsame
  have happlied := applyChange_delete hwilling'.valid hdelete
  refine ⟨(k₂.applyChange c).2, ?_, ?_, ?_⟩
  · unfold keventChange
    dsimp only
    rw [hnext]
    dsimp only
    rw [attemptChange, if_pos hwilling.live, change, hreceipt, ← hregistrations]
    dsimp only
    rw [happlied]
  · rw [happlied]
    exact ⟨hwilling'.passes, hwilling'.live, hwilling'.valid⟩
  · rw [happlied, ← hregistrations]

/-- Of some changes, asked for one after the other, those that are not refused. -/
def accepted (handle : Int32) : List KqueueChange → Kernel → List KqueueChange
  | [], _ => []
  | c :: rest, k =>
    let later := accepted handle rest (k.keventChange handle c).2
    if (refusal? (k.keventChange handle c).1).isNone then c :: later else later

end Kernel

namespace Kqueue

variable {d : Int32} {h h' h₁ : Host Kqueue} {i j : Interests} {singles : List Interests}
  {registrations others : List KqueueRegistration} {outcome result : Outcome SystemError Unit}

/-! ### Deletions that pass -/

/-- A filter of the descriptor is among the registrations. -/
def hasFilter (registrations : List KqueueRegistration) (d : Int32) (i : Interests) : Bool :=
  registrations.any (deleting d ⟨0⟩ i).concerns

/-- The registrations without some filters of the descriptor. -/
def without (registrations : List KqueueRegistration) (d : Int32) (singles : List Interests) :
    List KqueueRegistration :=
  registrations.filter fun r => singles.all fun j => !(deleting d ⟨0⟩ j).concerns r

theorem hasFilter_iff :
    hasFilter registrations d i = true ↔ ∃ t, registration d t i ∈ registrations := by
  unfold hasFilter
  rw [List.any_eq_true]
  constructor
  · rintro ⟨r, hr, hconcerns⟩
    obtain ⟨hfd, hfilter⟩ := KqueueChange.concerns_iff.mp hconcerns
    refine ⟨r.tag, ?_⟩
    have hr' : registration d r.tag i = r := by
      cases r
      cases hfd
      cases hfilter
      rfl
    rwa [hr']
  · rintro ⟨t, ht⟩
    exact ⟨_, ht, KqueueChange.concerns_iff.mpr ⟨rfl, rfl⟩⟩

theorem hasFilter_perm (hperm : registrations.Perm others) (d : Int32) (i : Interests) :
    hasFilter registrations d i = hasFilter others d i :=
  hperm.any_eq

theorem without_perm (hperm : registrations.Perm others) (d : Int32) (singles : List Interests) :
    (without registrations d singles).Perm (without others d singles) :=
  hperm.filter _

theorem hasFilter_append (registrations others : List KqueueRegistration) (d : Int32)
    (i : Interests) :
    hasFilter (registrations ++ others) d i = (hasFilter registrations d i || hasFilter others d i) :=
  List.any_append

theorem without_append (registrations others : List KqueueRegistration) (d : Int32)
    (singles : List Interests) :
    without (registrations ++ others) d singles =
      without registrations d singles ++ without others d singles :=
  List.filter_append _ _

theorem without_cons (registrations : List KqueueRegistration) (d : Int32) (i : Interests)
    (rest : List Interests) :
    without registrations d (i :: rest) = without (without registrations d [i]) d rest := by
  simp [without, List.filter_filter, Bool.and_comm]

/-- Deleting one filter does not touch another one. -/
theorem hasFilter_without (hne : filterFor j ≠ filterFor i) :
    hasFilter (without registrations d [i]) d j = hasFilter registrations d j := by
  have hother : ∀ r, (deleting d ⟨0⟩ j).concerns r = true →
      (deleting d ⟨0⟩ i).concerns r = false := by
    intro r hr
    refine Bool.eq_false_iff.mpr fun hi => hne ?_
    exact (KqueueChange.concerns_iff.mp hr).2.symm.trans (KqueueChange.concerns_iff.mp hi).2
  rw [Bool.eq_iff_iff]
  simp only [hasFilter, without, List.any_eq_true, List.mem_filter, List.all_cons, List.all_nil]
  constructor
  · rintro ⟨r, ⟨hr, -⟩, hj⟩
    exact ⟨r, hr, hj⟩
  · rintro ⟨r, hr, hj⟩
    exact ⟨r, ⟨hr, by simp [hother r hj]⟩, hj⟩

/-- Deleting a filter fails if there is none. -/
theorem deregister_willing (hw : h.kernel.Willing h.facility.handle.fd d) (i : Interests) :
    ∃ kernel : Kernel, kernel.Willing h.facility.handle.fd d ∧
      kernel.kqueueRegistrations = without h.kernel.kqueueRegistrations d [i] ∧
      deregister d ⟨0⟩ i h = (if hasFilter h.kernel.kqueueRegistrations d i then .done ()
        else .failed .noEntry, { h with kernel }) := by
  have hw' : h.kernel.Willing h.facility.handle.fd (deleting d ⟨0⟩ i).fd := hw
  have hdelete : hasFlag (deleteFlag ||| receiptFlag) addFlag = false := by decide
  obtain ⟨kernel, hcall, hwilling, hregistrations⟩ := hw'.delete hdelete
  have hreceipt : ∀ data, receiptError?
      ⟨{ deleting d ⟨0⟩ i with flags := deleteFlag ||| receiptFlag ||| errorFlag }, data⟩ =
        if data = 0 then none else some (.os data.toInt32) := fun data =>
    Kernel.IsReceiptOf.receiptError?_eq (c := deleting d ⟨0⟩ i) (by rintro _ ⟨⟩; rfl)
  refine ⟨kernel, hwilling, ?_, ?_⟩
  · rw [hregistrations]
    simp [without]
  · show change (deleting d ⟨0⟩ i) h = _
    rw [change, Host.system_of_eq hcall]
    dsimp only
    rw [show (deleting d ⟨0⟩ i).flags = deleteFlag ||| receiptFlag from rfl, hreceipt, hasFilter]
    cases h.kernel.kqueueRegistrations.any (deleting d ⟨0⟩ i).concerns <;> rfl

/-- Deleting different filters one after the other fails if one of them is not there, and deletes
the others all the same. -/
theorem unwatchEach_willing (hw : h.kernel.Willing h.facility.handle.fd d)
    (hdistinct : (singles.map filterFor).Nodup) (result : Outcome SystemError Unit) :
    ∃ kernel : Kernel,
      kernel.kqueueRegistrations = without h.kernel.kqueueRegistrations d singles ∧
      unwatchEach d singles result h = (if result = .done () ∧
          singles.all (hasFilter h.kernel.kqueueRegistrations d) = false
        then .failed .noEntry else result, { h with kernel }) := by
  induction singles generalizing h result with
  | nil => exact ⟨h.kernel, by simp [without], by simp [unwatchEach]⟩
  | cons i rest ih =>
      rw [List.map_cons, List.nodup_cons] at hdistinct
      obtain ⟨hnew, hrest⟩ := hdistinct
      obtain ⟨kernel, hwilling, hfirst, hd⟩ := deregister_willing hw i
      have hsame : rest.all (hasFilter kernel.kqueueRegistrations d) =
          rest.all (hasFilter h.kernel.kqueueRegistrations d) := by
        rw [Bool.eq_iff_iff, List.all_eq_true, List.all_eq_true]
        refine forall₂_congr fun j hj => ?_
        rw [hfirst, hasFilter_without fun hfilter => hnew (hfilter ▸ List.mem_map_of_mem hj)]
      rw [unwatchEach, hd, List.all_cons, without_cons, ← hfirst]
      cases hasFilter h.kernel.kqueueRegistrations d i with
      | true =>
          rw [Bool.true_and, ← hsame]
          exact ih (h := { h with kernel }) hwilling hrest result
      | false =>
          -- the outcome is decided from here on, the other filters are deleted all the same
          obtain ⟨kernel', hregistrations, hothers⟩ := ih (h := { h with kernel }) hwilling hrest
            (if result = .done () then .failed .noEntry else result)
          refine ⟨kernel', hregistrations, hothers.trans ?_⟩
          by_cases hresult : result = .done () <;> simp [hresult]

/-! ### Deletions that fail -/

/-- Deleting filters, whatever becomes of the calls: all of them are asked for, the error of the first
one that is refused counts, and the registrations lose what is not refused. -/
structure Tried (changes : List KqueueChange) (result outcome : Outcome SystemError Unit)
    (h h' : Host Kqueue) : Prop where
  asked : h.kernel.changesSince h'.kernel = changes.map (h.facility.handle.fd, ·)
  first : outcome = if result = .done () then
    (h.kernel.firstRefusal? h.facility.handle.fd changes).elim (.done ()) .failed else result
  effect : Honoured Kqueue h.kernel h'.kernel → h'.kernel.kqueueRegistrations =
    h.kernel.kqueueRegistrations.filter fun r =>
      (h.kernel.accepted h.facility.handle.fd changes).all fun c => !c.concerns r

theorem Tried.nil (result : Outcome SystemError Unit) (h : Host Kqueue) :
    Tried [] result result h h := by
  refine ⟨?_, ?_, fun _ => ?_⟩
  · rw [Kernel.changesSince, ← Array.length_toList, List.drop_length]
    rfl
  · cases result <;> rfl
  · simp [Kernel.accepted]

/-- One deletion more, in front. -/
theorem Tried.cons {changes : List KqueueChange} {first : Outcome SystemError Unit}
    (hd : deregister d ⟨0⟩ i h = (first, h₁)) (hfine : first.isHalted = false)
    (hcalls : h₁.kernel.calls.toList <+: h'.kernel.calls.toList)
    (hrest : Tried changes (if result = .done () then first else result) outcome h₁ h') :
    Tried (deleting d ⟨0⟩ i :: changes) result outcome h h' := by
  have hc : Changed (deleting d ⟨0⟩ i) first h h₁ := changed hd
  have hrefusal := refusal_of_change (c := deleting d ⟨0⟩ i) hd hfine
  have hfacility : h₁.facility = h.facility :=
    (congrArg (·.2.facility) hd).symm.trans (facility_change _ h)
  obtain ⟨hasked, hfirst, heffect⟩ := hrest
  rw [hfacility] at hasked hfirst heffect
  refine ⟨?_, ?_, fun hh => ?_⟩
  · rw [hc.changesSince hcalls, hasked, List.map_cons]
  · rw [hfirst, Kernel.firstRefusal?, ← hc.kernel]
    by_cases hresult : result = .done ()
    · rw [if_pos hresult, if_pos hresult]
      cases hr : Kernel.refusal? (h.kernel.keventChange h.facility.handle.fd
          (deleting d ⟨0⟩ i)).1 with
      | none =>
          obtain rfl : first = .done () := by rw [hrefusal, hr]; rfl
          rw [if_pos rfl, Option.none_or]
      | some cause =>
          obtain rfl : first = .failed cause := by rw [hrefusal, hr]; rfl
          simp
    · simp only [if_neg hresult]
  · obtain ⟨happlied, hh'⟩ := hc.honoured hcalls hh
    rw [heffect hh', Kernel.accepted, ← hc.kernel]
    cases hr : Kernel.refusal? (h.kernel.keventChange h.facility.handle.fd
        (deleting d ⟨0⟩ i)).1 with
    | none =>
        have hdone : first = .done () := by rw [hrefusal, hr]; rfl
        have hdelete : hasFlag (deleteFlag ||| receiptFlag) addFlag = false := by decide
        have heq := (happlied hdone).eq_filter hdelete
        rw [heq, List.filter_filter, Option.isNone_none, if_pos rfl]
        simp only [List.all_cons, Bool.and_comm]
    | some cause =>
        have hfailed : first ≠ .done () := by simp [hrefusal, hr]
        have hsame : h₁.kernel.kqueueRegistrations = h.kernel.kqueueRegistrations :=
          hc.failed hfailed
        rw [hsame, Option.isNone_some, if_neg Bool.false_ne_true]

theorem tried (hu : unwatchEach d singles result h = (outcome, h'))
    (hfine : outcome.isHalted = false) :
    Tried (singles.map (deleting d ⟨0⟩)) result outcome h h' := by
  induction singles generalizing h result with
  | nil =>
      obtain ⟨rfl, rfl⟩ := Prod.mk.inj hu
      exact .nil result h
  | cons i rest ih =>
      cases hd : deregister d ⟨0⟩ i h with
      | mk first g =>
          rw [unwatchEach, hd] at hu
          cases first with
          | halted cause =>
              obtain ⟨rfl, rfl⟩ := Prod.mk.inj hu
              cases hfine
          | failed cause => exact .cons hd rfl (unwatchedEach hu).1.calls (ih hu)
          | done value =>
              refine .cons hd rfl (unwatchedEach hu).1.calls ?_
              have hresult : (if result = .done () then Outcome.done value else result) = result :=
                ite_eq_right_iff.mpr Eq.symm
              rw [hresult]
              exact ih hu

/-- What unwatching comes to, whatever calls fail.  Every filter is asked to be deleted.  The outcome
is the error of the first deletion that is refused, if one is, and the registrations lose the filters
whose deletion is not refused and no others. -/
def TriesAll (Proviso : Kernel → Kernel → Prop) : Prop :=
  ∀ (d : Int32) (i : Interests) (h h' : Host Kqueue) (outcome : Outcome SystemError Unit),
    unwatch d i h = (outcome, h') → outcome.isHalted = false →
      h.kernel.changesSince h'.kernel =
          i.split.map (fun j => (h.facility.handle.fd, deleting d ⟨0⟩ j)) ∧
        outcome = (h.kernel.firstRefusal? h.facility.handle.fd (i.split.map (deleting d ⟨0⟩))).elim
          (.done ()) .failed ∧
        (Proviso h.kernel h'.kernel → h'.kernel.kqueueRegistrations =
          h.kernel.kqueueRegistrations.filter fun r =>
            (h.kernel.accepted h.facility.handle.fd (i.split.map (deleting d ⟨0⟩))).all
              fun c => !c.concerns r)

theorem triesAll : TriesAll fun k k' => Kernel.AppliesInterrupted (k.changesSince k') k := by
  intro d i h h' outcome hu hfine
  obtain ⟨hasked, hfirst, heffect⟩ := tried hu hfine
  refine ⟨?_, hfirst, heffect⟩
  rw [hasked, List.map_map]
  rfl

end Kqueue

/-! ### Corresponding states -/

/-- The single directions among some conditions. -/
def directions (c : Conditions) : List Interests :=
  [.readable, .writable].filter fun j => c.contains (.ofInterests j)

/-- The filters that stand for an entry of the table. -/
def PollEntry.filters (e : PollEntry) : List KqueueRegistration :=
  (directions e.interests).map (Kqueue.registration e.fd e.tag)

/-- Both facilities watch the same descriptors for the same interests with the same tags. -/
structure Corresponds (p : Host Poll) (q : Host Kqueue) : Prop where
  isMap : Poll.IsMap p.facility.table
  registrations : q.kernel.kqueueRegistrations.Perm (p.facility.table.flatMap PollEntry.filters)

section Filters

variable {e : PollEntry} {rest : List PollEntry} {d : Int32} {i j : Interests}

theorem concerns_registration (d : Int32) (t : Tag) (i j : Interests) :
    (Kqueue.deleting d ⟨0⟩ j).concerns (Kqueue.registration d t i) =
      (Kqueue.filterFor i == Kqueue.filterFor j) := by
  simp [KqueueChange.concerns, Kqueue.registration, Kqueue.deleting]

/-- A direction is one of the interests if its filter is one of theirs. -/
theorem hasFilter_filters (hsome : ∃ old : Interests, e.interests = .ofInterests old)
    (hj : j ∈ i.split) :
    Kqueue.hasFilter e.filters e.fd j = e.interests.contains (.ofInterests j) := by
  obtain ⟨old, hold⟩ := hsome
  have hdirections : ∀ j ∈ i.split, ((directions (.ofInterests old)).any fun k =>
      Kqueue.filterFor k == Kqueue.filterFor j) =
        (Conditions.ofInterests old).contains (.ofInterests j) := by
    cases i <;> cases old <;> decide
  rw [Kqueue.hasFilter, PollEntry.filters, List.any_map, hold, ← hdirections j hj]
  exact congrArg _ (funext fun k => concerns_registration e.fd e.tag k j)

/-- Deleting the filters of some interests leaves those of the interests that remain. -/
theorem without_filters (hsome : ∃ old : Interests, e.interests = .ofInterests old) (i : Interests) :
    Kqueue.without e.filters e.fd i.split =
      (Poll.remainder e (.ofInterests i)).flatMap PollEntry.filters := by
  obtain ⟨old, hold⟩ := hsome
  have hdirections : ((directions (.ofInterests old)).filter fun k =>
      i.split.all fun j => !(Kqueue.filterFor k == Kqueue.filterFor j)) =
        directions ((Conditions.ofInterests old).diff (.ofInterests i)) := by
    cases i <;> cases old <;> decide
  have hleft : Kqueue.without e.filters e.fd i.split =
      (directions (e.interests.diff (.ofInterests i))).map (Kqueue.registration e.fd e.tag) := by
    rw [Kqueue.without, PollEntry.filters, List.filter_map, hold, ← hdirections]
    refine congrArg (List.map _) (List.filter_congr fun k _ => ?_)
    simp only [Function.comp, concerns_registration]
  rw [hleft]
  unfold Poll.remainder
  split
  · rename_i hempty
    rw [beq_iff_eq.mp hempty]
    rfl
  · rw [List.flatMap_singleton]
    rfl

/-- The filters of other entries are those of other descriptors. -/
theorem concerns_filters (hother : ∀ e ∈ rest, e.fd ≠ d) (j : Interests) :
    ∀ r ∈ rest.flatMap PollEntry.filters, (Kqueue.deleting d ⟨0⟩ j).concerns r = false := by
  intro r hr
  obtain ⟨e, he, hr⟩ := List.mem_flatMap.mp hr
  obtain ⟨k, -, rfl⟩ := List.mem_map.mp hr
  refine Bool.eq_false_iff.mpr fun hconcerns => hother e he ?_
  exact (KqueueChange.concerns_iff.mp hconcerns).1

theorem hasFilter_rest (hother : ∀ e ∈ rest, e.fd ≠ d) (j : Interests) :
    Kqueue.hasFilter (rest.flatMap PollEntry.filters) d j = false :=
  List.any_eq_false.mpr fun r hr => Bool.eq_false_iff.mp (concerns_filters hother j r hr)

theorem without_rest (hother : ∀ e ∈ rest, e.fd ≠ d) (singles : List Interests) :
    Kqueue.without (rest.flatMap PollEntry.filters) d singles = rest.flatMap PollEntry.filters := by
  refine List.filter_eq_self.mpr fun r hr => List.all_eq_true.mpr fun j _ => ?_
  rw [concerns_filters hother j r hr]
  rfl

end Filters

/-! ### Agreement -/

/-- The directions of interests are never none at all. -/
theorem split_ne_nil (i : Interests) : i.split ≠ [] := by
  cases i <;> nofun

/-- Unwatching comes to the same with both facilities, and fails if a filter was not there. -/
structure Agrees (d : Int32) (i : Interests) (p : Host Poll) (q : Host Kqueue) : Prop where
  same : (Poll.unwatch d i p).1 = (Kqueue.unwatch d i q).1
  succeeds : (Kqueue.unwatch d i q).1 = .done () ↔
    ∀ j ∈ i.split, ∃ t, Kqueue.registration d t j ∈ q.kernel.kqueueRegistrations
  fails : (Kqueue.unwatch d i q).1 ≠ .done () → (Kqueue.unwatch d i q).1 = .failed .noEntry
  corresponds : Corresponds (Poll.unwatch d i p).2 (Kqueue.unwatch d i q).2

variable {d : Int32} {i : Interests} {p : Host Poll} {q : Host Kqueue}

/-- The table of `poll` after unwatching is the one that the filters stand for without those deleted,
and nothing was missing if all filters were there. -/
theorem Corresponds.unwatch (hc : Corresponds p q) (hopen : p.facility.closed = false) (d : Int32)
    (i : Interests) :
    (Poll.unwatch d i p).1 =
        (if i.split.all (Kqueue.hasFilter q.kernel.kqueueRegistrations d) = false
          then .failed .noEntry else .done ()) ∧
      Poll.IsMap (Poll.unwatch d i p).2.facility.table ∧
      (Kqueue.without q.kernel.kqueueRegistrations d i.split).Perm
        ((Poll.unwatch d i p).2.facility.table.flatMap PollEntry.filters) := by
  obtain ⟨hmap, hfilters⟩ := hc
  rcases Poll.unwatch_of_open hopen d i with
    ⟨hnone, hu⟩ | ⟨e, rest, table', rfl, hold, hnew, hu⟩
  · -- all filters are those of other descriptors, so that the first one is missing already
    have hother := Poll.registered?_eq_none_iff.mp hnone
    have hmissing : i.split.all (Kqueue.hasFilter q.kernel.kqueueRegistrations d) = false := by
      obtain ⟨j, hj⟩ := List.exists_mem_of_ne_nil _ (split_ne_nil i)
      refine List.all_eq_false.mpr ⟨j, hj, ?_⟩
      rw [Kqueue.hasFilter_perm hfilters, hasFilter_rest hother]
      exact Bool.false_ne_true
    have hwithout := Kqueue.without_perm hfilters d i.split
    rw [without_rest hother] at hwithout
    rw [hu, if_pos hmissing]
    exact ⟨rfl, hmap, hwithout⟩
  · -- the order of the entries does not count: the one in question in front, then the others
    have hcons : Poll.IsMap (e :: rest) := hmap.perm hold.symm
    obtain ⟨hother, hsome, -⟩ := Poll.isMap_cons.mp hcons
    have hflat : q.kernel.kqueueRegistrations.Perm
        (e.filters ++ rest.flatMap PollEntry.filters) := hfilters.trans (hold.flatMap_right _)
    have hfound : i.split.all (Kqueue.hasFilter q.kernel.kqueueRegistrations e.fd) =
        ((Conditions.ofInterests i).diff e.interests).isEmpty := by
      obtain ⟨old, hinterests⟩ := hsome
      rw [Bool.eq_iff_iff, List.all_eq_true, hinterests, Poll.isEmpty_diff_iff]
      refine forall₂_congr fun j hj => ?_
      rw [Kqueue.hasFilter_perm hflat, Kqueue.hasFilter_append, hasFilter_rest hother,
        Bool.or_false, hasFilter_filters ⟨old, hinterests⟩ hj, hinterests]
    rw [hu, hfound]
    refine ⟨?_, (Poll.isMap_less hcons i).1.perm hnew, ?_⟩
    · cases ((Conditions.ofInterests i).diff e.interests).isEmpty <;> rfl
    · have hless : Kqueue.without (e.filters ++ rest.flatMap PollEntry.filters) e.fd i.split =
          (Poll.remainder e (.ofInterests i) ++ rest).flatMap PollEntry.filters := by
        rw [Kqueue.without_append, without_filters hsome, without_rest hother, List.flatMap_append]
      refine (Kqueue.without_perm hflat e.fd i.split).trans ?_
      rw [hless]
      exact (hnew.flatMap_right _).symm

/-- Unwatching comes to the same with both facilities if no call is told to fail. -/
theorem Corresponds.agrees (hc : Corresponds p q) (hopen : p.facility.closed = false)
    (hw : q.kernel.Willing q.facility.handle.fd d) (i : Interests) : Agrees d i p q := by
  obtain ⟨hpoll, hmap, hless⟩ := hc.unwatch hopen d i
  obtain ⟨kernel, hregistrations, hu⟩ :=
    Kqueue.unwatchEach_willing hw (Kqueue.nodup_filters i) (.done ())
  rw [← Kqueue.unwatch] at hu
  simp only [true_and] at hu
  have hall : i.split.all (Kqueue.hasFilter q.kernel.kqueueRegistrations d) = true ↔
      ∀ j ∈ i.split, ∃ t, Kqueue.registration d t j ∈ q.kernel.kqueueRegistrations := by
    rw [List.all_eq_true]
    exact forall₂_congr fun j _ => Kqueue.hasFilter_iff
  refine ⟨?_, ?_, ?_, ?_⟩
  · rw [hpoll, hu]
  · rw [hu, ← hall]
    cases i.split.all (Kqueue.hasFilter q.kernel.kqueueRegistrations d) <;> simp
  · rw [hu]
    cases i.split.all (Kqueue.hasFilter q.kernel.kqueueRegistrations d) <;> simp
  · refine ⟨hmap, ?_⟩
    rw [hu]
    show kernel.kqueueRegistrations.Perm _
    rw [hregistrations]
    exact hless

/-- What unwatching is for both facilities.  If they are open and no call is told to fail they agree,
and with `kqueue` every filter is tried whatever calls fail. -/
structure UnwatchesAlike (Proviso : Kernel → Kernel → Prop) : Prop where
  agrees : ∀ (d : Int32) (i : Interests) (p : Host Poll) (q : Host Kqueue),
    p.facility.closed = false → q.kernel.Willing q.facility.handle.fd d → Corresponds p q →
      Agrees d i p q
  tries : Kqueue.TriesAll Proviso

/-- **Unwatching means the same** with both facilities, if every call that was interrupted has applied
its change. -/
theorem unwatch_agrees :
    UnwatchesAlike fun k k' => Kernel.AppliesInterrupted (k.changesSince k') k :=
  ⟨fun _ i _ _ hopen hw hc => hc.agrees hopen hw i, Kqueue.triesAll⟩

/-- Of two interests one was registered, and is not any more.  And of two deletions the first is
refused by its receipt, and the second is interrupted and has applied its change. -/
theorem unwatch_agrees_in_part :
    (∃ (p : Host Poll) (q : Host Kqueue), Corresponds p q ∧ Agrees 5 .both p q ∧
      (Poll.unwatch 5 .both p).1 = .failed .noEntry ∧
      (Poll.unwatch 5 .both p).2.facility.table = [⟨7, .ofInterests .both, ⟨1⟩⟩]) ∧
    ∃ h h' : Host Kqueue, Kqueue.unwatch 5 .both h = (.failed (.os 12), h') ∧
      Kernel.AppliesInterrupted (h.kernel.changesSince h'.kernel) h.kernel ∧
      h.kernel.changesSince h'.kernel =
        [(1000, Kqueue.deleting 5 ⟨0⟩ .readable), (1000, Kqueue.deleting 5 ⟨0⟩ .writable)] ∧
      h.kernel.kqueueRegistrations = [⟨5, Kqueue.readFilter, ⟨3⟩⟩, ⟨5, Kqueue.writeFilter, ⟨3⟩⟩] ∧
      h'.kernel.kqueueRegistrations = [⟨5, Kqueue.readFilter, ⟨3⟩⟩] := by
  constructor
  · obtain ⟨p, q, hopen, hw, hc, hfailed, htable⟩ :
        ∃ (p : Host Poll) (q : Host Kqueue), p.facility.closed = false ∧
          q.kernel.Willing q.facility.handle.fd 5 ∧ Corresponds p q ∧
          (Poll.unwatch 5 .both p).1 = .failed .noEntry ∧
          (Poll.unwatch 5 .both p).2.facility.table = [⟨7, .ofInterests .both, ⟨1⟩⟩] :=
      ⟨⟨{ table := [⟨5, .ofInterests .readable, ⟨3⟩⟩, ⟨7, .ofInterests .both, ⟨1⟩⟩] }, {}, #[]⟩,
        ⟨⟨⟨1000⟩⟩, { live := [1000], kqueueRegistrations := [⟨7, Kqueue.writeFilter, ⟨1⟩⟩,
          ⟨5, Kqueue.readFilter, ⟨3⟩⟩, ⟨7, Kqueue.readFilter, ⟨1⟩⟩] }, #[]⟩,
        rfl, ⟨nofun, rfl, rfl⟩, ⟨⟨by decide, List.forall_mem_cons.mpr ⟨⟨.readable, rfl⟩,
          List.forall_mem_cons.mpr ⟨⟨.both, rfl⟩, nofun⟩⟩⟩, by decide⟩, rfl, rfl⟩
    exact ⟨p, q, hc, unwatch_agrees.agrees 5 .both p q hopen hw hc, hfailed, htable⟩
  · obtain ⟨h, h', hu, hfine, hh, hlist, hfd, haccepted⟩ :
        ∃ h h' : Host Kqueue, Kqueue.unwatch 5 .both h = (.failed (.os 12), h') ∧
          (Outcome.failed (.os 12) : Outcome SystemError Unit).isHalted = false ∧
          Kernel.AppliesInterrupted (h.kernel.changesSince h'.kernel) h.kernel ∧
          h.kernel.kqueueRegistrations =
            [⟨5, Kqueue.readFilter, ⟨3⟩⟩, ⟨5, Kqueue.writeFilter, ⟨3⟩⟩] ∧
          h.facility.handle.fd = 1000 ∧
          h.kernel.accepted 1000 (Interests.both.split.map (Kqueue.deleting 5 ⟨0⟩)) =
            [Kqueue.deleting 5 ⟨0⟩ .writable] :=
      ⟨⟨⟨⟨1000⟩⟩, {
          live := [1000]
          kqueueRegistrations := [⟨5, Kqueue.readFilter, ⟨3⟩⟩, ⟨5, Kqueue.writeFilter, ⟨3⟩⟩]
          verdicts := [(.receipt, .fail 12 (by decide)), (.kevent, .pass),
            (.kevent, .fail 4 (by decide))] }, #[]⟩,
        _, rfl, rfl, ⟨nofun, fun _ => ⟨rfl, rfl⟩, trivial⟩, rfl, rfl, rfl⟩
    obtain ⟨hasked, -, heffect⟩ := unwatch_agrees.tries 5 .both h h' _ hu hfine
    rw [hfd] at hasked heffect
    refine ⟨h, h', hu, hh, hasked, hlist, ?_⟩
    rw [heffect hh, haccepted, hlist]
    rfl

/-- **A filter is missed**: its call is interrupted, and the receipt that refuses its deletion is not
looked at, so unwatching succeeds without having deleted it. -/
theorem unwatch_misses_filter : ¬ UnwatchesAlike fun _ _ => True := by
  intro hall
  obtain ⟨h, h', hu, hfine, hlist, hlist', haccepted⟩ :
      ∃ h h' : Host Kqueue, Kqueue.unwatch 5 .readable h = (.done (), h') ∧
        (Outcome.done () : Outcome SystemError Unit).isHalted = false ∧
        h.kernel.kqueueRegistrations = [⟨5, Kqueue.readFilter, ⟨7⟩⟩] ∧
        h'.kernel.kqueueRegistrations = [⟨5, Kqueue.readFilter, ⟨7⟩⟩] ∧
        h.kernel.accepted h.facility.handle.fd
          (Interests.readable.split.map (Kqueue.deleting 5 ⟨0⟩)) =
            [Kqueue.deleting 5 ⟨0⟩ .readable] :=
    ⟨⟨⟨⟨1000⟩⟩, { live := [1000], kqueueRegistrations := [⟨5, Kqueue.readFilter, ⟨7⟩⟩], verdicts :=
      [(.kevent, .fail 4 (by decide)), (.receipt, .fail 12 (by decide))] }, #[]⟩,
      _, rfl, rfl, rfl, rfl, rfl⟩
  have hdeleted := (hall.tries 5 .readable h h' _ hu hfine).2.2 trivial
  rw [haccepted, hlist, hlist'] at hdeleted
  cases hdeleted

end Readiness
