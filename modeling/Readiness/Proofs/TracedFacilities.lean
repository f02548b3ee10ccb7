import Readiness.Proofs.EpollEvents
import Readiness.Proofs.FilterRegistry
import Readiness.Proofs.Leftovers

/-! # Tracing the registrations of each facility

Where registrations come from, and whose tags a wait returns, turn by turn, for `epoll`, `poll` and
`kqueue`.

* **One registration.**  A call of `epoll` or `poll` makes or deletes one registration in one of its
  turns.  If watching with `poll` makes one, only waking the wait is left to do.  Only `poll` changes a
  registration, when it takes some interests and leaves others.
* **Many filters.**  `kqueue` registers one filter after the other, each in a turn of its own
  (`Kqueue.tracks_register`).  When one fails, those before it are there until they are rolled back
  (`Kqueue.tracks_undo`), and others may come across them meanwhile.
* **Waiting.**  A wait returns tags of registrations that are there in one of its turns, as long as no
  event is injected. -/

namespace Readiness

open Registry TaggedRegistry

/-! ### System calls -/

section

variable {β : Type}

/-- A system call preserves what it preserves of the kernel. -/
theorem Strand.Does.of_preserves {ρ α γ : Type} {K : Kernel → Prop} {Q : Host β → Prop}
    {F : Host β → Host β → Prop} {P : γ → Prop} {call : Kernel → Progress Kernel ρ × Kernel}
    {see : Host β → α} {k : ρ → α → Strand (Host β) γ} (h : Progress.Preserves K call)
    (hQ : ∀ g : Host β, Q g → K g.kernel)
    (hcall : ∀ g : Host β, Q g → K (call g.kernel).2 → F g { g with kernel := (call g.kernel).2 })
    (hresume : ∀ (k : Kernel) resume, (call k).1 = .inside resume → ∀ g : Host β, Q g →
      K (resume g.kernel).2 → F g { g with kernel := (resume g.kernel).2 })
    (hk : ∀ r a, (k r a).Does Q F P) : (Strand.system call see k).Does Q F P := by
  refine .system (fun g hg => hcall g hg (h _ (hQ g hg)).1) (fun _ _ _ _ => hk _ _) ?_
  intro g resume hg hp g' hg'
  have hrest := (h _ (hQ g hg)).2
  rw [hp] at hrest
  exact ⟨hresume _ resume hp g' hg' (hrest _ (hQ g' hg')), hk _ _⟩

variable [Registry β] [TaggedRegistry β]

/-- A wait that is one system call, and returns the events of registrations that are there when it is
answered. -/
theorem Strand.cites_system {α : Type} {Quiet : Host β → Prop} {P : Tag → Prop}
    {call : Kernel → Progress Kernel (Outcome SystemError (List α)) × Kernel}
    {k : Outcome SystemError (List α) → Outcome SystemError Unit × NativeBuffer}
    (native : α → NativeEvent)
    (hdone : ∀ events, (k (.done events)).2.reported = events.map native)
    (hnone : ∀ outcome, (∀ events, outcome ≠ .done events) → (k outcome).2.reported = [])
    (hnow : ∀ (kernel : Kernel) r, (call kernel).1 = .returned r → ∀ events, r ≠ .done events)
    (hlater : ∀ (kernel : Kernel) resume, (call kernel).1 = .inside resume →
      ∀ g : Host β, Quiet g → ∀ events, (resume g.kernel).1 = .done events →
        ∀ a ∈ events, (native a).tag ∈ g.tags) :
    (Strand.system (β := β) call (fun _ => ()) fun r _ => .returned (lastRound (k r))).Cites
      Quiet P := by
  intro h _
  dsimp only
  cases hp : (call h.kernel).1 with
  | returned r =>
      intro e he
      have he' : e ∈ (k r).2.reported := he
      rw [hnone r (hnow _ r hp)] at he'
      cases he'
  | inside resume =>
      intro g hg e he
      have he' : e ∈ (k (resume g.kernel).1).2.reported := he
      cases hr : (resume g.kernel).1 with
      | done events =>
          rw [hr, hdone] at he'
          obtain ⟨a, ha, rfl⟩ := List.mem_map.mp he'
          exact .inr (hlater _ resume hp g hg events hr a ha)
      | failed _ | halted _ =>
          rw [hr, hnone _ (by rintro events ⟨⟩)] at he'
          cases he'

end

variable {left : Tag → Prop} {added : List Addition} {x : Addition} {i : Interests}

/-! ### Closing -/

/-- Closing a handle leaves the registrations, or deletes them all. -/
theorem Kernel.registrations_closeHandle (k : Kernel) (handle : Int32) :
    (k.closeHandle handle).2.epollRegistrations.Sublist k.epollRegistrations ∧
      (k.closeHandle handle).2.kqueueRegistrations.Sublist k.kqueueRegistrations := by
  cases hc : k.closeHandle handle with
  | mk outcome k' =>
      obtain ⟨verdicts, hact | ⟨rfl, -⟩⟩ := Kernel.obey_eq hc
      · split at hact
        · obtain ⟨-, rfl⟩ := Prod.mk.inj hact
          exact ⟨List.nil_sublist _, List.nil_sublist _⟩
        · obtain ⟨-, rfl⟩ := Prod.mk.inj hact
          exact ⟨.refl _, .refl _⟩
      · exact ⟨.refl _, .refl _⟩

/-! ### `epoll` -/

namespace Epoll

instance : TaggedRegistry Epoll where
  tag r := r.tag
  tag_wanted x e he := by
    obtain rfl := List.mem_singleton.mp he
    rfl

theorem tracks_watch (handle : Handle) {E : List EpollRegistration}
    (ha : Accounts (β := Epoll) left E added) :
    Tracks (β := Epoll) left (.adding x) added
      (watchTurns handle x.descriptor.fd x.interests x.tag) E := by
  refine ⟨ha.midway, fun g hg _ => ?_⟩
  cases hc : g.system (·.epollAdd handle.fd x.descriptor.fd (requested x.interests) x.tag) with
  | mk outcome g' =>
      obtain ⟨kernel, hadd, rfl⟩ := Host.system_eq hc
      replace ha := ha.sublist hg
      simp only [hc]
      rcases Kernel.epollAdd_eq hadd with ⟨rfl, hnew, hk⟩ | ⟨-, hk⟩
      · rw [show Host.entries { g with kernel } = g.entries ++ [_] from hk]
        refine Accounts.watched ha (fun e he hslot => ?_) List.mem_cons_self
        exact hnew e he (congrArg Prod.fst hslot)
      · rw [show Host.entries { g with kernel } = g.entries from hk]
        exact ha.pending_adding

theorem tracks_unwatch (handle : Handle) {d : Descriptor} {found : Option UInt32}
    {E : List EpollRegistration} (hsound : (Change.removing d i found).Sound added)
    (ha : Accounts (β := Epoll) left E added) :
    Tracks (β := Epoll) left (.removing d i found) added (unwatchTurns handle d.fd) E := by
  refine ⟨ha.midway, fun g hg _ => ?_⟩
  cases hc : g.system (·.epollDelete handle.fd d.fd) with
  | mk outcome g' =>
      obtain ⟨kernel, hdelete, rfl⟩ := Host.system_eq hc
      replace ha := ha.sublist hg
      simp only [hc]
      rcases Kernel.epollDelete_eq hdelete with ⟨rfl, hk⟩ | ⟨hne, hk⟩
      · rw [show Host.entries { g with kernel } = g.entries.filter _ from hk]
        refine (ha.sublist List.filter_sublist).pending_removing hsound ?_
        intro _ y _ _ hd _ e he hey
        obtain rfl := List.mem_singleton.mp hey
        exact absurd hd (of_decide_eq_true (List.mem_filter.mp he).2)
      · rw [show Host.entries { g with kernel } = g.entries from hk]
        exact ha.pending_removing hsound fun hdone => absurd hdone hne

/-- The event for a registration has its tag. -/
theorem tag_of_report {k : Kernel} {r : EpollRegistration} {e : EpollEvent}
    (h : k.epollReport? r = some e) : e.tag = r.tag := by
  unfold Kernel.epollReport? at h
  dsimp only at h
  split at h
  · cases h
  · exact (congrArg EpollEvent.tag (Option.some.inj h)).symm

instance : TracedTurns Epoll where
  Quiet := Uninjected
  native _ _ _ hkernel hq := by rwa [Uninjected, hkernel]
  tracks left c added h hsound _ ha := by
    cases c with
    | adding x => exact tracks_watch h.facility.handle ha
    | removing d i found => exact tracks_unwatch h.facility.handle hsound ha
  cites b timeout h := by
    refine Strand.cites_system native (fun events => ?_) ?_ (fun k r => Kernel.epollWait_returned) ?_
    · exact NativeBuffer.reported_extend_clear b (events.map native)
    · intro outcome hne
      cases outcome with
      | done events => exact absurd rfl (hne events)
      | failed _ | halted _ => rfl
    · intro k resume hp g hquiet events hr e he
      rw [Kernel.epollWait_resumed hp hr, hquiet, List.nil_append] at he
      obtain ⟨r, hmem, hreport⟩ := List.mem_filterMap.mp (List.mem_of_mem_take he)
      exact List.mem_map.mpr ⟨r, hmem, (tag_of_report hreport).symm⟩
  change c h := by
    cases c with
    | adding x => exact .act (fun g hg => injected_epollAdd hg ..) fun _ _ => trivial
    | removing d i found => exact .act (fun g hg => injected_epollDelete hg ..) fun _ _ => trivial
  wait _ _ _ := .of_preserves (injected_epollWait _ _ _) (fun _ => id)
    (fun g _ hk => ⟨(Kernel.keeps_epollWait _ _ _ g.kernel).1, hk⟩)
    (fun k resume hp g _ hk => ⟨(Kernel.keeps_epollWait _ _ _ k).2 resume hp g.kernel, hk⟩)
    fun _ _ => trivial
  close := .closeHandle (fun _ hg => ⟨.refl _, hg⟩) fun _ g hg =>
    ⟨(g.kernel.registrations_closeHandle _).1, injected_closeHandle hg _⟩

end Epoll

/-! ### `poll` -/

namespace Poll

instance : TaggedRegistry Poll where
  tag e := e.tag
  tag_wanted x e he := by
    obtain rfl := List.mem_singleton.mp he
    rfl

/-- Once the table was changed, watching cannot fail any more. -/
theorem tracks_wake {c : Change} {E : List PollEntry} {outcome : Outcome SystemError Unit}
    (ha : Accounts (β := Poll) left E (c.pending outcome added))
    (hm : Midway (β := Poll) left c added
      (.act (fun h => ((), wakeUp h)) fun _ => .returned outcome) E) :
    Tracks (β := Poll) left c added (.act (fun h => ((), wakeUp h)) fun _ => .returned outcome) E :=
  .act hm (fun _ => rfl) fun _ hg => Accounts.sublist ha hg

theorem tracks_enlist {E : List PollEntry} (ha : Accounts (β := Poll) left E added) :
    Tracks (β := Poll) left (.adding x) added
      (.act (fun h => match enlist x.descriptor.fd x.interests x.tag h.facility.table with
        | .error cause => (some cause, h)
        | .ok table => (none, setTable table h)) fun
      | some cause => .returned (.failed cause)
      | none => .act (fun h => ((), wakeUp h)) fun _ => .returned (.done ())) E := by
  refine ⟨ha.midway, fun g hg _ => ?_⟩
  replace ha := ha.sublist hg
  rcases enlist_cases x.descriptor.fd x.interests x.tag g.facility.table with
    ⟨cause, he⟩ | ⟨hnew, he⟩
  · simp only [he]
    exact ha
  · simp only [he]
    have hadded : Accounts (β := Poll) left
        (g.entries ++ [⟨x.descriptor.fd, .ofInterests x.interests, x.tag⟩]) (added ++ [x]) :=
      Accounts.watched ha (fun e he hslot => hnew e he (congrArg Prod.fst hslot)) List.mem_cons_self
    refine tracks_wake hadded ⟨hadded.1, fun e he => ?_⟩
    rcases List.mem_append.mp he with he | he
    · exact (ha.2 e he).imp_right .inl
    · refine .inr (.inr ⟨x, rfl, he, .inr ?_⟩)
      exact .act (fun _ _ => trivial) fun _ _ => by rintro cause ⟨⟩

theorem tracks_watch {E : List PollEntry} (ha : Accounts (β := Poll) left E added) :
    Tracks (β := Poll) left (.adding x) added
      (watchTurns x.descriptor.fd x.interests x.tag) E := by
  unfold watchTurns
  split
  · exact ha
  · refine .act ha.midway (fun _ => rfl) fun g hg => ?_
    replace ha := ha.sublist hg
    cases (g.system (·.getFlags x.descriptor.fd)).1 with
    | halted cause => exact ha.pending_adding
    | failed cause => exact ha
    | done value =>
        refine .act ha.midway (fun _ => rfl) fun g hg => ?_
        replace ha := ha.sublist hg
        dsimp only
        cases g.facility.closed with
        | true => exact ha
        | false => exact tracks_enlist ha

/-- What is taken from an entry is not left in it. -/
theorem diff_ne (a : Conditions) (i : Interests) :
    a.diff (.ofInterests i) ≠ .ofInterests i := by
  intro he
  have hbits : (a.bits &&& ~~~i.bits) &&& i.bits = i.bits := by
    rw [show a.bits &&& ~~~i.bits = i.bits from congrArg Conditions.bits he, UInt8.and_self]
  rw [UInt8.and_assoc, UInt8.not_and_self, UInt8.and_zero] at hbits
  cases i <;> cases hbits

section

variable {table : List PollEntry} {fd : Int32} {n : Nat} {entry e : PollEntry}

/-- Taking interests from the entry of a descriptor leaves the entries apart. -/
theorem nodup_lessen (hapart : (table.map (slot (β := Poll))).Nodup)
    (hentry : entry? table fd = some (n, entry)) (i : Interests) :
    ((lessen table n entry (.ofInterests i)).map (slot (β := Poll))).Nodup := by
  obtain ⟨l₁, l₂, rfl, -, ⟨-, hperm⟩ | ⟨-, hnew⟩⟩ := lessen_cases i hentry
  · rw [(hperm.map slot).nodup_iff]
    exact hapart.sublist (((List.sublist_cons_self entry l₂).append_left l₁).map _)
  · rw [hnew]
    rw [List.map_append, List.map_cons] at hapart ⊢
    exact hapart

/-- Taking interests from the entry of a descriptor leaves the entries of the others, and the entry
with the interests that remain if there are any. -/
theorem mem_lessen (hapart : (table.map (slot (β := Poll))).Nodup)
    (hentry : entry? table fd = some (n, entry)) (i : Interests)
    (he : e ∈ lessen table n entry (.ofInterests i)) :
    (e ∈ table ∧ e.fd ≠ fd) ∨
      (entry ∈ table ∧ entry.fd = fd ∧ (entry.interests.diff (.ofInterests i)).isEmpty ≠ true ∧
        e = { entry with interests := entry.interests.diff (.ofInterests i) }) := by
  obtain ⟨l₁, l₂, rfl, rfl, hcases⟩ := lessen_cases i hentry
  have hother : e ∈ l₁ ++ l₂ → e ∈ l₁ ++ entry :: l₂ ∧ e.fd ≠ entry.fd := by
    intro he
    exact ⟨((List.sublist_cons_self entry l₂).append_left l₁).mem he, fd_ne_of_apart hapart he⟩
  rcases hcases with ⟨-, hperm⟩ | ⟨hlast, hnew⟩
  · exact .inl (hother (hperm.mem_iff.mp he))
  · rw [hnew, List.mem_append, List.mem_cons, or_left_comm, ← List.mem_append] at he
    rcases he with rfl | he
    · exact .inr ⟨List.mem_append_right _ List.mem_cons_self, rfl, hlast, rfl⟩
    · exact .inl (hother he)

end

/-- Taking interests from the entry of a descriptor leaves entries of the same additions, and none for
just these interests. -/
theorem accounts_lessen {d : Descriptor} {found : Option UInt32} {table : List PollEntry} {n : Nat}
    {entry : PollEntry} (hsound : (Change.removing d i found).Sound added)
    (hdistinct : (added.map (·.descriptor.fd)).Nodup) (ha : Accounts (β := Poll) left table added)
    (hentry : entry? table d.fd = some (n, entry)) :
    Accounts (β := Poll) left (lessen table n entry (.ofInterests i)) added ∧
      ∀ x : Addition, x.descriptor.fd = d.fd → x.interests = i →
        ∀ e ∈ lessen table n entry (.ofInterests i), e ∉ wanted (β := Poll) x := by
  refine ⟨Accounts.unwatched LawfulRegistry.fd_wanted ha (nodup_lessen ha.1 hentry i) hsound
    hdistinct fun e he => ?_, fun x hx hi e he hex => ?_⟩
  · rcases mem_lessen ha.1 hentry i he with ⟨hold, -⟩ | ⟨hmem, hd, hlast, rfl⟩
    · exact .inl hold
    · refine .inr ⟨entry, hmem, hd, rfl, ?_⟩
      rintro x rfl hex
      obtain rfl := List.mem_singleton.mp hex
      exact hlast (isEmpty_diff_self _)
  · rcases mem_lessen ha.1 hentry i he with ⟨-, hne⟩ | ⟨-, -, -, rfl⟩
    · exact hne ((LawfulRegistry.fd_wanted (β := Poll) x e hex).trans hx)
    · refine diff_ne entry.interests x.interests ?_
      rw [hi]
      exact (congrArg PollEntry.interests (List.mem_singleton.mp hex)).trans (by rw [hi])

theorem tracks_unwatch {d : Descriptor} {found : Option UInt32} {E : List PollEntry}
    (hsound : (Change.removing d i found).Sound added)
    (hdistinct : (added.map (·.descriptor.fd)).Nodup) (ha : Accounts (β := Poll) left E added) :
    Tracks (β := Poll) left (.removing d i found) added (unwatchTurns d.fd i) E := by
  refine ⟨ha.midway, fun g hg _ => ?_⟩
  replace ha := ha.sublist hg
  cases hentry : entry? g.facility.table d.fd with
  | none =>
      simp only [hentry]
      exact ha.pending_removing hsound nofun
  | some pair =>
      obtain ⟨n, entry⟩ := pair
      simp only [hentry]
      obtain ⟨hleft, hgone⟩ := accounts_lessen hsound hdistinct ha hentry
      refine tracks_wake (hleft.pending_removing hsound fun _ x _ _ hx hi e he hex => ?_) hleft.midway
      exact absurd hex (hgone x hx hi e he)

/-- The end of a round finds entries of the snapshot. -/
theorem cites_conclude (snapshot : List PollEntry) (b : NativeBuffer) (timeout : Option Duration)
    (answer : Outcome SystemError (List UInt16)) (woken : Bool) {Quiet : Host Poll → Prop}
    {P : Tag → Prop} (hP : ∀ e ∈ snapshot, P e.tag) :
    (concludeTurns snapshot b.clear timeout answer woken).Cites Quiet P := by
  cases answer with
  | failed _ | halted _ => exact nofun
  | done results =>
      have hfound : (b.clear.extend ((found snapshot results).take b.capacity)).Cites P := by
        intro e he
        rw [NativeBuffer.reported_extend_clear] at he
        obtain ⟨pair, hpair, rfl⟩ := List.mem_map.mp (List.mem_of_mem_take he)
        exact hP pair.1 (List.of_mem_zip (List.mem_filter.mp hpair).1).1
      cases woken with
      | true => exact fun _ _ e he => .inl (hfound e he)
      | false => exact hfound

theorem does_conclude (snapshot : List PollEntry) (b : NativeBuffer) (timeout : Option Duration)
    (answer : Outcome SystemError (List UInt16)) (woken : Bool) :
    (concludeTurns snapshot b timeout answer woken).Does (fun _ => True)
      (fun g g' => g'.entries = g.entries ∧ True) fun _ => True := by
  cases answer with
  | failed _ | halted _ => trivial
  | done results =>
      cases woken with
      | true => exact fun _ _ => ⟨⟨rfl, trivial⟩, trivial⟩
      | false => trivial

instance : TracedTurns Poll where
  Quiet _ := True
  native _ _ _ _ := id
  tracks left c added h hsound hdistinct ha := by
    cases c with
    | adding x => exact tracks_watch ha
    | removing d i found =>
        have hturns : (Change.removing d i found).turns h =
            if h.facility.closed then .returned (.failed .badDescriptor)
            else unwatchTurns d.fd i := rfl
        rw [hturns]
        split
        · exact ha.pending_removing hsound nofun
        · exact tracks_unwatch hsound hdistinct ha
  cites b timeout h := by
    have hturns : Turns.wait b timeout h =
        if h.facility.closed then .returned (some (.failed .badDescriptor), b.clear)
        else roundTurns b.clear timeout := rfl
    rw [hturns]
    split
    · exact nofun
    · -- the snapshot is taken in the first turn
      intro g _ h _
      dsimp only
      have htags : ∀ e ∈ g.facility.table, e.tag ∈ g.tags := fun e he =>
        List.mem_map.mpr ⟨e, he, rfl⟩
      exact fun g' _ => cites_conclude _ _ _ _ _ fun e he => .inl (.inl (.inr (htags e he)))
  change _ _ := Strand.does_of_forall (fun _ _ => trivial) (fun _ => trivial) _
  wait b timeout h := by
    have hturns : Turns.wait b timeout h =
        if h.facility.closed then .returned (some (.failed .badDescriptor), b.clear)
        else roundTurns b.clear timeout := rfl
    rw [hturns]
    split
    · trivial
    · exact .look (fun _ _ => ⟨rfl, trivial⟩) fun g _ =>
        .system (fun _ _ => ⟨rfl, trivial⟩) (fun _ _ _ _ => does_conclude _ _ _ _ _)
          fun _ _ _ _ _ _ => ⟨⟨rfl, trivial⟩, does_conclude _ _ _ _ _⟩
  close := by
    show closeTurns.Does _ _ _
    refine .act (fun g _ => ⟨.refl _, trivial⟩) fun g _ => ?_
    cases g.facility.closed with
    | true => trivial
    | false => exact .act (fun _ _ => ⟨List.nil_sublist _, trivial⟩) fun _ _ => trivial

end Poll

/-! ### `kqueue` -/

namespace Kqueue

variable {handle : Handle} {d : Int32} {t : Tag} {g g' : Host Kqueue}
  {outcome : Outcome SystemError Unit} {c : KqueueChange} {E : List KqueueRegistration}

instance : TaggedRegistry Kqueue where
  tag r := r.tag
  tag_wanted x e he := by
    obtain ⟨i, -, rfl⟩ := List.mem_map.mp he
    rfl

/-- What asking for a change with a handle does to the filters. -/
structure Amended (c : KqueueChange) (outcome : Outcome SystemError Unit) (h h' : Host Kqueue) :
    Prop where
  apart : h.SlotsApart → h'.SlotsApart
  applied : Honoured Kqueue h.kernel h'.kernel → outcome = .done () →
    h.kernel.Applied h'.kernel c
  either : h.kernel.Applied h'.kernel c ∨ h'.entries = h.entries
  failed : outcome ≠ .done () → h'.entries = h.entries
  failures : h'.rollbackFailures = h.rollbackFailures
  injected : h'.kernel.kqueueInjected = h.kernel.kqueueInjected

theorem amended (hc : changeWith handle c g = (outcome, g')) : Amended c outcome g g' := by
  cases hw : change c { g with facility := ⟨handle⟩ } with
  | mk o g₁ =>
      rw [changeWith, hw] at hc
      obtain ⟨rfl, rfl⟩ := Prod.mk.inj hc
      have hchanged := changed hw
      have hnear := hchanged.near rfl
      have hdone (hh : Honoured Kqueue g.kernel g₁.kernel) :=
        (hchanged.honoured List.prefix_rfl hh).1
      refine ⟨hnear.apart, hdone, hchanged.either, hchanged.failed, ?_, hnear.injected⟩
      exact congrArg (List.countP _ ·.toList) hchanged.log

/-- Deleting makes no new filter. -/
theorem Amended.less {i : Interests} (ha : Amended (deleting d t i) outcome g g') :
    ∀ e ∈ g'.entries, e ∈ g.entries := by
  rcases ha.either with happlied | hsame
  · exact fun e he => (applied_delete happlied e he).1
  · exact fun e he => hsame ▸ he

/-! ### Watching -/

theorem mem_wanted {i : Interests} (hi : i ∈ x.interests.split) :
    registration x.descriptor.fd x.tag i ∈ wanted (β := Kqueue) x := List.mem_map.mpr ⟨i, hi, rfl⟩

/-- There may be filters of an addition for some single interests, beside registrations that are
accounted for. -/
def Owns (left : Tag → Prop) (added : List Addition) (x : Addition) (singles : List Interests)
    (E : List KqueueRegistration) : Prop :=
  (E.map (slot (β := Kqueue))).Nodup ∧
    ∀ e ∈ E, (∃ y ∈ added, e ∈ wanted (β := Kqueue) y) ∨ left e.tag ∨
      ∃ i ∈ singles, e = registration x.descriptor.fd x.tag i

variable {singles : List Interests}

theorem Owns.sublist {E' : List KqueueRegistration} (ho : Owns left added x singles E)
    (hsub : E'.Sublist E) : Owns left added x singles E' :=
  ⟨ho.1.sublist (hsub.map slot), fun e he => ho.2 e (hsub.mem he)⟩

/-- While the filters of an addition are registered they are half-way, if it has several. -/
theorem Owns.midway (ho : Owns left added x singles E)
    (hsingles : ∀ i ∈ singles, i ∈ x.interests.split)
    (hmany : singles ≠ [] → 1 < x.interests.split.length)
    (p : Strand (Host Kqueue) (Outcome SystemError Unit)) :
    Midway (β := Kqueue) left (.adding x) added p E := by
  refine ⟨ho.1, fun e he => ?_⟩
  rcases ho.2 e he with hold | hleft | ⟨i, hi, rfl⟩
  · exact .inl hold
  · exact .inr (.inl hleft)
  · refine .inr (.inr ⟨x, rfl, mem_wanted (hsingles i hi), .inl ?_⟩)
    rw [show (wanted (β := Kqueue) x).length = _ from List.length_map ..]
    exact hmany (List.ne_nil_of_mem hi)

/-- If the call does not fail, they are those of the addition. -/
theorem Owns.pending (ho : Owns left added x singles E)
    (hsingles : ∀ i ∈ singles, i ∈ x.interests.split) :
    Accounts (β := Kqueue) left E (added ++ [x]) := by
  refine ⟨ho.1, fun e he => ?_⟩
  rcases ho.2 e he with ⟨y, hy, hey⟩ | hleft | ⟨i, hi, rfl⟩
  · exact .inl ⟨y, List.mem_append_left _ hy, hey⟩
  · exact .inr hleft
  · exact .inl ⟨x, List.mem_append_right _ List.mem_cons_self, mem_wanted (hsingles i hi)⟩

/-- One more filter was registered. -/
theorem Owns.registered {i : Interests} (ho : Owns left added x singles g.entries)
    (ha : Amended (registering x.descriptor.fd x.tag i) outcome g g') :
    Owns left added x (singles ++ [i]) g'.entries := by
  have hold : ∀ e ∈ g.entries, (∃ y ∈ added, e ∈ wanted (β := Kqueue) y) ∨ left e.tag ∨
      ∃ j ∈ singles ++ [i], e = registration x.descriptor.fd x.tag j := fun e he =>
    (ho.2 e he).imp_right (.imp_right fun ⟨j, hj, hej⟩ => ⟨j, List.mem_append_left _ hj, hej⟩)
  refine ⟨ha.apart ho.1, fun e he => ?_⟩
  rcases ha.either with happlied | hsame
  · rcases (applied_register happlied).2.2 e he with he | rfl
    · exact hold e he
    · exact .inr (.inr ⟨i, List.mem_append_right _ List.mem_cons_self, rfl⟩)
  · exact hold e (hsame ▸ he)

/-- One filter was deleted, or left behind. -/
theorem Owns.undone {i : Interests} (ho : Owns left added x (i :: singles) g.entries)
    (ha : Amended (deleting x.descriptor.fd x.tag i) outcome g g')
    (hgone : left x.tag ∨ g.kernel.Applied g'.kernel (deleting x.descriptor.fd x.tag i)) :
    Owns left added x singles g'.entries := by
  refine ⟨ha.apart ho.1, fun e he => ?_⟩
  rcases ho.2 e (ha.less e he) with hold | hleft | ⟨j, hj, rfl⟩
  · exact .inl hold
  · exact .inr (.inl hleft)
  · rcases hgone with hleft | happlied
    · exact .inr (.inl hleft)
    · rcases List.mem_cons.mp hj with rfl | hj
      · exact absurd ⟨rfl, rfl⟩ (applied_delete happlied _ he).2
      · exact .inr (.inr ⟨j, hj, rfl⟩)

/-- **Rolling back**, filter by filter.  A filter that is not deleted is left behind. -/
theorem tracks_undo {cause : SystemError} (hsingles : ∀ i ∈ singles, i ∈ x.interests.split)
    (hmany : singles ≠ [] → 1 < x.interests.split.length) (ho : Owns left added x singles E) :
    Tracks (β := Kqueue) left (.adding x) added
      ((undoTurns (deregisterWith handle x.descriptor.fd x.tag)
        (fun single cause h => h.note (.rollbackFailed single cause)) singles).andThen fun undone =>
          .returned (undoneBy cause undone)) E := by
  induction singles generalizing E with
  | nil =>
      refine ⟨ho.1, fun e he => ?_⟩
      exact (ho.2 e he).imp_right (Or.resolve_right · (by simp))
  | cons i rest ih =>
      refine ⟨ho.midway hsingles hmany _, fun g hg hleft => ?_⟩
      replace ho := ho.sublist hg
      have hrest : ∀ E, Owns left added x rest E → _ := fun E =>
        ih (fun j hj => hsingles j (List.mem_cons_of_mem i hj)) fun _ =>
          hmany (List.cons_ne_nil i rest)
      cases hd : deregisterWith handle x.descriptor.fd x.tag i g with
      | mk o g' =>
          have ha := amended hd
          simp only [undo, hd] at hleft ⊢
          cases o with
          | halted other => exact (ha.failed (by rintro ⟨⟩) ▸ ho).pending hsingles
          | failed other =>
              have hbehind : left x.tag := by
                refine hleft _ ⟨rfl, fun h => ?_⟩
                have := h.2
                rw [failures_note, ha.failures] at this
                omega
              exact hrest g'.entries (ho.undone ha (.inl hbehind))
          | done value =>
              refine hrest _ (ho.undone ha ?_)
              by_cases hh : Honoured Kqueue g.kernel g'.kernel
              · exact .inr (ha.applied hh rfl)
              · exact .inl (hleft _ ⟨rfl, fun h => hh h.1⟩)

/-- **Registering**, filter by filter. -/
theorem tracks_register {todo : List Interests} (hsplit : singles ++ todo = x.interests.split)
    (ho : Owns left added x singles E) :
    Tracks (β := Kqueue) left (.adding x) added
      (registerTurns (registerWith handle x.descriptor.fd x.tag)
        (deregisterWith handle x.descriptor.fd x.tag)
        (fun single cause h => h.note (.rollbackFailed single cause)) singles todo) E := by
  have hsingles : ∀ i ∈ singles, i ∈ x.interests.split := fun i hi =>
    hsplit ▸ List.mem_append_left _ hi
  induction todo generalizing singles E with
  | nil => exact ho.pending hsingles
  | cons i todo ih =>
      have hmany : singles ≠ [] → 1 < x.interests.split.length := by
        intro hne
        have := List.length_pos_iff.mpr hne
        rw [← hsplit, List.length_append, List.length_cons]
        omega
      refine ⟨ho.midway hsingles hmany _, fun g hg _ => ?_⟩
      replace ho := ho.sublist hg
      cases hr : registerWith handle x.descriptor.fd x.tag i g with
      | mk o g' =>
          have ha := amended hr
          simp only [hr]
          cases o with
          | halted cause => exact (ha.failed nofun ▸ ho).pending hsingles
          | failed cause => exact tracks_undo hsingles hmany (ha.failed nofun ▸ ho)
          | done value =>
              have hsplit' : singles ++ [i] ++ todo = x.interests.split :=
                (List.append_cons singles i todo).symm.trans hsplit
              exact ih hsplit' (ho.registered ha) fun j hj => hsplit' ▸ List.mem_append_left _ hj

/-! ### Unwatching -/

/-- The filters of the addition that is removed are for some single interests, or were left behind,
if no deletion has failed. -/
def Remains (left : Tag → Prop) (added : List Addition) (found : Option UInt32)
    (singles : List Interests) (result : Outcome SystemError Unit)
    (E : List KqueueRegistration) : Prop :=
  result = .done () → ∀ x ∈ added, found = some x.tag.index →
    ∀ e ∈ E, e ∈ wanted (β := Kqueue) x →
      left x.tag ∨ ∃ i ∈ singles, e.fd = x.descriptor.fd ∧ e.filter = filterFor i

/-- **Unwatching**, filter by filter. -/
theorem tracks_unwatch {d : Descriptor} {i : Interests} {found : Option UInt32}
    {result : Outcome SystemError Unit} (hsound : (Change.removing d i found).Sound added)
    (ha : Accounts (β := Kqueue) left E added)
    (hremains : Remains left added found singles result E) :
    Tracks (β := Kqueue) left (.removing d i found) added
      (unwatchTurns handle d.fd singles result) E := by
  induction singles generalizing E result with
  | nil =>
      refine ha.pending_removing hsound fun hdone y hy hfound _ _ e he hey => ?_
      exact (hremains hdone y hy hfound e he hey).resolve_right nofun
  | cons k rest ih =>
      refine ⟨ha.midway, fun g hg hleft => ?_⟩
      replace ha := ha.sublist hg
      replace hremains : Remains left added found (k :: rest) result g.entries :=
        fun hdone y hy hfound e he => hremains hdone y hy hfound e (hg.mem he)
      cases hd : deregisterWith handle d.fd ⟨0⟩ k g with
      | mk o g' =>
          have hdeleted := amended hd
          simp only [hd] at hleft ⊢
          have ha' : Accounts (β := Kqueue) left g'.entries added :=
            ⟨hdeleted.apart ha.1, fun e he => ha.2 e (hdeleted.less e he)⟩
          cases o with
          | halted cause => exact ha'.pending_removing hsound nofun
          | failed cause =>
              refine ih ha' fun hdone => ?_
              split at hdone
              · cases hdone
              · contradiction
          | done value =>
              refine ih ha' fun hdone y hy hfound e he hey => ?_
              rcases hremains hdone y hy hfound e (hdeleted.less e he) hey with
                hbehind | ⟨j, hj, hfd, hfilter⟩
              · exact .inl hbehind
              · rcases List.mem_cons.mp hj with rfl | hj
                · subst hfound
                  by_cases hh : Honoured Kqueue g.kernel g'.kernel
                  · obtain ⟨z, -, hd, -, hunique⟩ := hsound
                    obtain rfl := (hunique y hy).mp rfl
                    exact absurd ⟨hfd.trans hd, hfilter⟩
                      (applied_delete (hdeleted.applied hh rfl) e he).2
                  · exact .inl (hleft _ ⟨⟨y, hy, rfl, rfl⟩, hh⟩)
                · exact .inr ⟨j, hj, hfd, hfilter⟩

/-! ### Waiting -/

/-- No event waits to be returned that no registration has. -/
def Uninjected (h : Host Kqueue) : Prop := h.kernel.kqueueInjected = []

theorem injected_keventWait (handle size : Int32) (timeout : Option Timespec) :
    Progress.Preserves (fun k : Kernel => k.kqueueInjected = [])
      (Kernel.keventWait handle size timeout) := by
  intro k hk
  unfold Kernel.keventWait
  dsimp only
  split
  · exact ⟨hk, trivial⟩
  · refine ⟨hk, Kernel.obey_preserves (fun _ _ => id) fun k hk => ?_⟩
    show k.kqueueInjected.drop _ = []
    rw [hk, List.drop_nil]

theorem injected_closeHandle {k : Kernel} (hk : k.kqueueInjected = []) (handle : Int32) :
    (k.closeHandle handle).2.kqueueInjected = [] := by
  refine Kernel.obey_preserves (R := fun k => k.kqueueInjected = []) (fun _ _ => id)
    (fun k hk => ?_) _ hk
  split <;> exact hk

theorem preserved_uninjected : Preserved (β := Kqueue) Uninjected where
  native h h' _ hk hq := by rw [Uninjected, hk]; exact hq
  watch fd i t := .atOnce fun h hq => (registeredFrom rfl).near.injected.trans hq
  unwatch fd i := .atOnce fun h hq => (unwatchedEach rfl).1.injected.trans hq
  wait b timeout h := Progress.Preserves.systemWithin (G := Uninjected)
    (injected_keventWait _ _ _) (fun _ => id) (fun _ _ _ => id) (fun _ _ => id) h
  close h hq := by
    show (h.facility.handle.close h.kernel).2.2.kqueueInjected = []
    unfold Handle.close
    split
    · exact hq
    · exact injected_closeHandle hq _

/-- A wait returns events of registrations when nothing is injected. -/
theorem keventWait_cites {k k' : Kernel} {handle size : Int32} {timeout : Option Timespec}
    {events : List KqueueEvent}
    {resume : Kernel → Outcome SystemError (List KqueueEvent) × Kernel}
    (hp : (k.keventWait handle size timeout).1 = .inside resume) (hquiet : k'.kqueueInjected = [])
    (hr : (resume k').1 = .done events) :
    ∀ e ∈ events, e.tag ∈ k'.kqueueRegistrations.map (·.tag) := by
  unfold Kernel.keventWait at hp
  dsimp only at hp
  split at hp
  · cases hp
  · obtain rfl := Progress.inside.inj hp
    obtain ⟨verdicts, hact | ⟨-, hnot⟩⟩ := Kernel.obey_eq (Prod.ext hr rfl)
    · have hevents : (k'.kqueueInjected ++ k'.kqueueRegistrations.filterMap k'.kqueueReport?).take
          size.toInt.toNat = events := Outcome.done.inj (congrArg Prod.fst hact)
      intro e he
      rw [← hevents, hquiet, List.nil_append] at he
      obtain ⟨r, hmem, hreport⟩ := List.mem_filterMap.mp (List.mem_of_mem_take he)
      obtain ⟨s, -, rfl⟩ := Option.map_eq_some_iff.mp hreport
      exact List.mem_map.mpr ⟨r, hmem, rfl⟩
    · exact absurd rfl (hnot events)

/-- A wait that answers at once returns no events. -/
theorem keventWait_returned {k : Kernel} {handle size : Int32} {timeout : Option Timespec}
    {r : Outcome SystemError (List KqueueEvent)}
    (hp : (k.keventWait handle size timeout).1 = .returned r) : ∀ events, r ≠ .done events := by
  unfold Kernel.keventWait at hp
  dsimp only at hp
  split at hp
  · obtain rfl := Progress.returned.inj hp
    exact nofun
  · cases hp

theorem uninjected_change (c : KqueueChange) (hg : Uninjected g) :
    Uninjected (changeWith handle c g).2 := (amended rfl).injected.trans hg

theorem uninjected_undo (i : Interests) (hg : Uninjected g) :
    Uninjected (undo (deregisterWith handle d t)
      (fun single cause h => h.note (.rollbackFailed single cause)) i g).2 := by
  have hdelete : Uninjected (deregisterWith handle d t i g).2 := uninjected_change _ hg
  rw [undo]
  cases hc : deregisterWith handle d t i g with
  | mk outcome g' =>
      rw [hc] at hdelete
      cases outcome <;> exact hdelete

instance : TracedTurns Kqueue where
  Quiet := Uninjected
  native _ _ _ hkernel hq := by rwa [Uninjected, hkernel]
  tracks left c added h hsound _ ha := by
    cases c with
    | adding x =>
        refine tracks_register (List.nil_append _) ⟨ha.1, fun e he => ?_⟩
        exact (ha.2 e he).imp_right .inl
    | removing d i found =>
        refine tracks_unwatch hsound ha fun _ y hy hfound e he hey => ?_
        subst hfound
        obtain ⟨z, -, -, rfl, hunique⟩ := hsound
        obtain rfl := (hunique y hy).mp rfl
        obtain ⟨k, hk, rfl⟩ := List.mem_map.mp hey
        exact .inr ⟨k, hk, rfl, rfl⟩
  cites b timeout h := by
    refine Strand.cites_system native (fun events => ?_) ?_ (fun k r => keventWait_returned) ?_
    · exact NativeBuffer.reported_extend_clear b (events.map native)
    · intro outcome hne
      cases outcome with
      | done events => exact absurd rfl (hne events)
      | failed _ | halted _ => rfl
    · intro k resume hp g hquiet events hr e he
      exact keventWait_cites hp hquiet hr e he
  change c h := by
    cases c with
    | adding x =>
        exact does_registerTurns (P := fun _ => True) (registerWith h.facility.handle _ _)
          (deregisterWith h.facility.handle _ _)
          (fun single cause h => h.note (.rollbackFailed single cause))
          (fun i g hg => ⟨uninjected_change _ hg, fun _ _ => trivial⟩)
          (fun i g hg => ⟨uninjected_undo i hg, fun _ _ => trivial⟩) trivial (fun _ => trivial) [] _
    | removing d i found =>
        exact does_unwatchTurns (P := fun _ => True)
          (fun i g hg => ⟨uninjected_change _ hg, fun _ _ => trivial⟩) (fun _ => trivial) _ trivial
  wait _ _ _ := .of_preserves (injected_keventWait _ _ _) (fun _ => id)
    (fun g _ hk => ⟨(keeps_keventWait _ _ _ g.kernel).1, hk⟩)
    (fun k resume hp g _ hk => ⟨(keeps_keventWait _ _ _ k).2 resume hp g.kernel, hk⟩)
    fun _ _ => trivial
  close := .closeHandle (fun _ hg => ⟨.refl _, hg⟩) fun _ g hg =>
    ⟨(g.kernel.registrations_closeHandle _).2, injected_closeHandle hg _⟩

end Kqueue

end Readiness
