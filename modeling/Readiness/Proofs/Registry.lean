import Readiness.Proofs.MomentLists

/-! # Registrations and active records

Every facility keeps registrations somewhere, in the kernel or in a table of its own, and a watch
set keeps active records.  The two are changed by different parts of a call, and here they are
shown to agree whenever no change is in progress.

* **Registries** (`Registry`).  The registrations of a facility, the ones that an addition wants to
  have, and the *slot* of a registration: a facility keeps at most one registration in a slot.
* **Calls.**  What watching and unwatching do to the registrations is said in terms of a registry
  (`Watched`, `Unwatched`); a facility whose calls do this is a `LawfulRegistry`.
* **Runs.**  `Moment.Expects.run` carries any relation between registrations and additions through a
  run: while a change waits for its end, the registrations are those of the additions that the end
  will leave.
* **Relations.**  Every step upholds that the additions are registered (`upholds_registers`), and
  that nothing else is as long as no registration is left behind (`upholds_registersOnly`). -/

namespace Readiness

/-- A change in progress knows the truth about the additions. -/
def Change.Sound (added : List Addition) : Change → Prop
  | adding x => ∀ y ∈ added, y.descriptor.fd ≠ x.descriptor.fd
  | removing d i none => i = .both ∧ ∀ y ∈ added, y.descriptor.fd ≠ d.fd
  | removing d i (some j) => ∃ x ∈ added, x.descriptor.fd = d.fd ∧ x.interests = i ∧
      ∀ y ∈ added, y.tag.index = j ↔ y = x

theorem Moment.Shows.sound {β : Type} {m : Moment β} {l : RosterLists} (h : m.Shows l) {c : Change}
    (hc : m.change.map Prod.fst = some c) : c.Sound m.roster.added := by
  have hfits := h.change c hc
  cases c with
  | adding x => exact hfits.2.2
  | removing d i found =>
      cases found with
      | none => exact hfits
      | some j =>
          obtain ⟨x, hx, rfl, hd, hi⟩ := hfits
          refine ⟨x, hx, hd, hi, fun y hy => ⟨fun hindex => ?_, fun he => he ▸ rfl⟩⟩
          have hyrecord := (h.refines.mem_added_iff.mp hy).2
          rw [hindex, (h.refines.mem_added_iff.mp hx).2] at hyrecord
          exact (Option.some.inj hyrecord).symm

/-! ### Changes in progress -/

namespace Moment

variable {β : Type} {Fine : Label β → Prop} {P : Host β → List Addition → Prop} {m : Moment β}

/-- A relation between the host and the additions holds, once a change that was answered has
ended. -/
def Expects (Fine : Label β → Prop) (P : Host β → List Addition → Prop) (m : Moment β) : Prop :=
  match m.change with
  | none => P m.set.host m.roster.added
  | some (_, .ready) => P m.set.host m.roster.added
  | some (c, .made (.returned outcome)) =>
    Fine (.ended c outcome) → P m.set.host (c.tell outcome m.roster.added)
  | some (_, .made (.inside _)) => False

theorem expects_of_none (hc : m.change = none) :
    m.Expects Fine P ↔ P m.set.host m.roster.added := by
  rw [Expects, hc]

theorem expects_of_ready {c : Change} (hc : m.change = some (c, .ready)) :
    m.Expects Fine P ↔ P m.set.host m.roster.added := by
  rw [Expects, hc]

theorem expects_of_returned {c : Change} {outcome : Outcome SystemError Unit}
    (hc : m.change = some (c, .made (.returned outcome))) :
    m.Expects Fine P ↔
      (Fine (.ended c outcome) → P m.set.host (c.tell outcome m.roster.added)) := by
  rw [Expects, hc]

end Moment

/-! ### System calls -/

theorem Host.system_eq {β ρ : Type} {call : Kernel → ρ × Kernel} {h h' : Host β} {r : ρ}
    (hs : h.system call = (r, h')) :
    ∃ kernel, call h.kernel = (r, kernel) ∧ h' = { h with kernel } := by
  obtain ⟨rfl, rfl⟩ := Prod.mk.inj hs
  exact ⟨_, rfl, rfl⟩

namespace Kernel

variable {k k' : Kernel}

/-- A call for which no failure is scripted is made. -/
theorem obey_of_pass {α : Type} {name : CallName} (h : (k.nextVerdict name).1 = .pass)
    (act : Kernel → Outcome SystemError α × Kernel) :
    k.obey name act = act (k.nextVerdict name).2 := by
  have hv : k.nextVerdict name = (.pass, (k.nextVerdict name).2) := Prod.ext h rfl
  rw [obey, hv]

/-- A call is carried out with a verdict less in the queue, or it does nothing more. -/
theorem obey_eq {α : Type} {name : CallName} {act : Kernel → Outcome SystemError α × Kernel}
    {outcome : Outcome SystemError α} (h : k.obey name act = (outcome, k')) :
    ∃ verdicts, act { k with verdicts } = (outcome, k') ∨
      (k' = { k with verdicts } ∧ ∀ value, outcome ≠ .done value) := by
  refine ⟨(Verdict.next name k.verdicts).2, ?_⟩
  unfold obey nextVerdict at h
  cases hv : (Verdict.next name k.verdicts).1 with
  | pass => exact .inl (by simpa [hv] using h)
  | fail code nonzero =>
      simp only [hv] at h
      obtain ⟨rfl, rfl⟩ := Prod.mk.inj h
      exact .inr ⟨rfl, nofun⟩
  | giveUp =>
      simp only [hv] at h
      obtain ⟨rfl, rfl⟩ := Prod.mk.inj h
      exact .inr ⟨rfl, nofun⟩

/-- Without a verdict every call passes. -/
theorem nextVerdict_of_nil (h : k.verdicts = []) (name : CallName) :
    k.nextVerdict name = (.pass, k) := by
  rw [nextVerdict, h]
  exact congrArg (Prod.mk _) (by rw [← h])

theorem obey_of_nil {α : Type} (h : k.verdicts = []) (name : CallName)
    (act : Kernel → Outcome SystemError α × Kernel) : k.obey name act = act k := by
  rw [obey, nextVerdict_of_nil h]

theorem obey_keeps {α γ : Type} {F : Kernel → γ} {name : CallName}
    {act : Kernel → Outcome SystemError α × Kernel}
    (hF : ∀ (k : Kernel) (verdicts : List (CallName × Verdict)), F { k with verdicts } = F k)
    (hact : ∀ k, F (act k).2 = F k) (k : Kernel) : F (k.obey name act).2 = F k := by
  have h : k.obey name act = ((k.obey name act).1, (k.obey name act).2) := rfl
  obtain ⟨verdicts, he | ⟨hk, -⟩⟩ := obey_eq h
  · rw [← congrArg Prod.snd he]
    exact (hact _).trans (hF k verdicts)
  · rw [hk]
    exact hF k verdicts

end Kernel

/-! ### Calls that leave something as it is -/

namespace Progress

variable {σ ρ γ α : Type} {F : σ → α} {call : σ → Progress σ ρ × σ}

/-- A call never changes `F`, neither before others run inside nor after that. -/
def Keeps (F : σ → α) (call : σ → Progress σ ρ × σ) : Prop :=
  ∀ s, F (call s).2 = F s ∧ ∀ resume, (call s).1 = .inside resume → ∀ t, F (resume t).2 = F t

theorem Keeps.alone (h : Keeps F call) (s : σ) : F (Progress.alone (call s)).2 = F s := by
  obtain ⟨hcall, hresume⟩ := h s
  cases hp : call s with
  | mk p t =>
      rw [hp] at hcall hresume
      cases p with
      | returned r => exact hcall
      | inside resume => exact (hresume resume rfl t).trans hcall

theorem Keeps.andThen {k : ρ → σ → γ × σ} (h : Keeps F call) (hk : ∀ r s, F (k r s).2 = F s) :
    Keeps F fun s => Progress.andThen k (call s) := by
  intro s
  obtain ⟨hcall, hresume⟩ := h s
  dsimp only
  cases hp : call s with
  | mk p t =>
      rw [hp] at hcall hresume
      cases p with
      | returned r => exact ⟨(hk r t).trans hcall, nofun⟩
      | inside resume =>
          refine ⟨hcall, fun resume' he u => ?_⟩
          obtain rfl := Progress.inside.inj he
          exact (hk _ _).trans (hresume resume rfl u)

/-- A system call keeps what does not depend on the parts of the kernel that it changes. -/
theorem Keeps.systemWithin {β : Type} {call : Kernel → Progress Kernel ρ × Kernel} {F : Kernel → α}
    {G : Host β → γ} {ρ' : Type} {k : ρ → Host β → ρ' × Host β} (h : Keeps F call)
    (hG : ∀ (g : Host β) (kernel : Kernel), F kernel = F g.kernel → G { g with kernel } = G g)
    (hk : ∀ r g, G (k r g).2 = G g) : Keeps G (Host.systemWithin call k) := by
  intro g
  obtain ⟨hcall, hresume⟩ := h g.kernel
  unfold Host.systemWithin Progress.within
  cases hp : call g.kernel with
  | mk p t =>
      rw [hp] at hcall hresume
      cases p with
      | returned r => exact ⟨(hk r _).trans (hG g t hcall), nofun⟩
      | inside resume =>
          refine ⟨hG g t hcall, fun resume' he u => ?_⟩
          obtain rfl := Progress.inside.inj he
          exact (hk _ _).trans (hG u _ (hresume resume rfl u.kernel))

end Progress

/-! ### Registries -/

/-- Where a facility keeps its registrations. -/
class Registry (β : Type) where
  Entry : Type
  entries : β → Kernel → List Entry
  /-- The descriptor of a registration, and its filter if the facility has filters. -/
  slot : Entry → Int32 × Option Int16
  /-- The registrations for an addition. -/
  wanted : Addition → List Entry
  /-- What is taken for granted of the kernel's work between two states. -/
  Honoured : Kernel → Kernel → Prop

/-- The descriptor of a registration. -/
def Registry.fd {β : Type} [Registry β] (e : Registry.Entry β) : Int32 := (Registry.slot e).1

namespace Host

variable {β : Type}

/-- How many deletions failed when a watch was rolled back. -/
def rollbackFailures (h : Host β) : Nat :=
  h.log.toList.countP fun entry => entry matches .rollbackFailed ..

variable [Registry β]

/-- The registrations. -/
def entries (h : Host β) : List (Registry.Entry β) := Registry.entries h.facility h.kernel

/-- No two registrations are in the same slot. -/
def SlotsApart (h : Host β) : Prop := (h.entries.map Registry.slot).Nodup

end Host

open Registry

variable {β : Type} [Registry β]

/-- What watching does for an addition. -/
structure Watched (x : Addition) (outcome : Outcome SystemError Unit) (h h' : Host β) : Prop where
  apart : h.SlotsApart → h'.SlotsApart
  frame : ∀ e, fd e ≠ x.descriptor.fd → (e ∈ h'.entries ↔ e ∈ h.entries)
  present : Honoured β h.kernel h'.kernel → outcome = .done () → ∀ e ∈ wanted x, e ∈ h'.entries
  tidy : Honoured β h.kernel h'.kernel → h'.rollbackFailures = h.rollbackFailures →
    outcome.isHalted = false → (∀ e ∈ h.entries, fd e ≠ x.descriptor.fd) →
      ∀ e ∈ h'.entries, fd e = x.descriptor.fd → outcome = .done () ∧ e ∈ wanted x

/-- What unwatching does for a descriptor. -/
structure Unwatched (d : Int32) (i : Interests) (outcome : Outcome SystemError Unit)
    (h h' : Host β) : Prop where
  apart : h.SlotsApart → h'.SlotsApart
  frame : ∀ e, fd e ≠ d → (e ∈ h'.entries ↔ e ∈ h.entries)
  absent : (∀ e ∈ h.entries, fd e ≠ d) → ∀ e ∈ h'.entries, fd e ≠ d
  gone : Honoured β h.kernel h'.kernel → outcome = .done () → h.SlotsApart →
    ∀ x : Addition, x.descriptor.fd = d → x.interests = i →
      (∀ e ∈ wanted x, e ∈ h.entries) → (∀ e ∈ h.entries, fd e = d → e ∈ wanted x) →
        ∀ e ∈ h'.entries, fd e ≠ d

/-- A facility whose calls treat the registrations as they should. -/
class LawfulRegistry (β : Type) [Facility β] [Registry β] : Prop where
  fd_wanted : ∀ x : Addition, ∀ e ∈ wanted (β := β) x, fd e = x.descriptor.fd
  watch : ∀ (x : Addition) (h h' : Host β) (p : Progress (Host β) (Outcome SystemError Unit)),
    Facility.watch x.descriptor.fd x.interests x.tag h = (p, h') →
      ∃ outcome, p = .returned outcome ∧ Watched x outcome h h'
  unwatch : ∀ (d : Int32) (i : Interests) (h h' : Host β)
    (p : Progress (Host β) (Outcome SystemError Unit)), Facility.unwatch d i h = (p, h') →
      ∃ outcome, p = .returned outcome ∧ Unwatched d i outcome h h'
  wait : ∀ (b : NativeBuffer) (timeout : Option Duration),
    Progress.Keeps Host.entries (Facility.wait (β := β) b timeout)

/-! ### Runs -/

namespace Moment

/-- A wait in progress leaves the registrations alone. -/
def WaitsQuietly (m : Moment β) : Prop :=
  ∀ p resume, m.poll = some p → p.stage = .made (.inside resume) →
    ∀ h, (resume h).2.entries = h.entries

end Moment

/-- Every step that is fine upholds a relation between the host and the additions. -/
structure Upholds [Facility β] (Fine : Label β → Prop) (P : Host β → List Addition → Prop) :
    Prop where
  host : ∀ {h h' : Host β} {added : List Addition}, h'.entries = h.entries → P h added → P h' added
  call : ∀ {c : Change} {added : List Addition} {h h' : Host β}
    {p : Progress (Host β) (Outcome SystemError Unit)}, c.Sound added →
      (added.map (·.descriptor.fd)).Nodup → P h added → c.call h = (p, h') →
        Fine (.worked c h h') →
          ∃ outcome, p = .returned outcome ∧ (Fine (.ended c outcome) → P h' (c.tell outcome added))
  destroyed : ¬ Fine .destroyed

namespace Moment

variable {W : Host β → Host β → Prop} {Fine : Label β → Prop}
  {P : Host β → List Addition → Prop} {m m' : Moment β} {a : Label β} {l : RosterLists}

/-- A step that changes neither the registrations nor the additions nor the change in
progress. -/
theorem Expects.congr [Facility β] (hu : Upholds Fine P) (h : m.Expects Fine P)
    (hentries : m'.set.host.entries = m.set.host.entries)
    (hadded : m'.roster.added = m.roster.added) (hchange : m'.change = m.change) :
    m'.Expects Fine P := by
  unfold Expects at h ⊢
  rw [hchange, hadded]
  split at h
  · exact hu.host hentries h
  · exact hu.host hentries h
  · exact fun hfine => hu.host hentries (h hfine)
  · exact h

theorem entries_of_native {s s' : WatchSet β} (h : s'.native = s.native) :
    s'.host.entries = s.host.entries := by
  obtain ⟨hfacility, hkernel⟩ := Prod.mk.inj h
  rw [Host.entries, Host.entries, hfacility, hkernel]

variable [Facility β] [LawfulRegistry β]

theorem WaitsQuietly.step (h : m.WaitsQuietly) (hs : Step W m a m') : m'.WaitsQuietly := by
  intro p resume hp hstage
  cases hs with
  | beginPoll timeout hb =>
      obtain rfl := Option.some.inj hp
      cases hstage
  | callWait hp' hw =>
      obtain rfl := Option.some.inj hp
      obtain rfl := Stage.made.inj hstage
      exact (LawfulRegistry.wait _ _ _).2 resume (congrArg Prod.fst hw)
  | resumeWait hp' hw =>
      obtain rfl := Option.some.inj hp
      cases hstage
  | endPoll hp' he => cases hp
  | _ => exact h p resume hp hstage

/-- **One step.**  What is expected of the registrations stays true. -/
theorem Expects.step (hu : Upholds Fine P)
    (hW : ∀ h h', W h h' → h'.entries = h.entries) (hm : m.Shows l) (hq : m.WaitsQuietly)
    (h : m.Expects Fine P) (hs : Step W m a m') (ha : Fine a) : m'.Expects Fine P := by
  obtain ⟨l', hstep⟩ := hm.step hs
  have hadded := hstep.added
  cases hs with
  | world hw => exact h.congr hu (hW _ _ hw) rfl rfl
  | refuseAdd d i id hr => exact h.congr hu rfl rfl rfl
  | refuseRemove d hr => exact h.congr hu rfl rfl rfl
  | refusePoll timeout hr => exact h.congr hu rfl rfl rfl
  | beginAdd d i id hb =>
      obtain ⟨hfree, -, -, roster, -, rfl⟩ := WatchSet.beginAdd_eq_ok hb
      have hnone := hm.change_eq_none hfree
      refine (expects_of_ready rfl).mpr ?_
      rw [hadded]
      exact hu.host (h := m.set.host) rfl ((expects_of_none hnone).mp h)
  | beginRemove d hb =>
      obtain ⟨hfree, -, -, rfl⟩ := WatchSet.beginRemove_eq_ok hb
      have hnone := hm.change_eq_none hfree
      refine (expects_of_ready rfl).mpr ?_
      exact hu.host (h := m.set.host) rfl ((expects_of_none hnone).mp h)
  | callChange hc hp =>
      obtain ⟨outcome, rfl, hend⟩ := hu.call (hm.sound (by rw [hc]; rfl)) hm.distinct
        ((expects_of_ready hc).mp h) hp ha
      exact (expects_of_returned rfl).mpr hend
  | resumeChange hc hp =>
      rw [Expects, hc] at h
      exact h.elim
  | endChange hc =>
      refine (expects_of_none rfl).mpr ?_
      rw [hadded]
      exact hu.host (entries_of_native (Change.native_finish ..)) ((expects_of_returned hc).mp h ha)
  | beginPoll timeout hb =>
      obtain ⟨-, -, -, rfl⟩ := WatchSet.beginPoll_eq_ok hb
      exact h.congr hu rfl hadded rfl
  | callWait hp hw =>
      refine h.congr hu ?_ hadded rfl
      exact (congrArg (·.2.entries) hw).symm.trans (LawfulRegistry.wait _ _ _).1
  | resumeWait hp hw =>
      refine h.congr hu ?_ hadded rfl
      exact (congrArg (·.2.entries) hw).symm.trans (hq _ _ hp rfl _)
  | endPoll hp he => exact h.congr hu (entries_of_native (WatchSet.finishPoll_eq he).1) hadded rfl
  | destroy => exact absurd ha hu.destroyed

theorem Expects.run {L : List (Label β)} (hu : Upholds Fine P)
    (hW : ∀ h h', W h h' → h'.entries = h.entries) (hm : m.Shows l) (hq : m.WaitsQuietly)
    (h : m.Expects Fine P) (hr : Run W m L m') (hL : ∀ a ∈ L, Fine a) : m'.Expects Fine P := by
  induction hr generalizing l with
  | refl m => exact h
  | step hs _ ih =>
      obtain ⟨ha, hrest⟩ := List.forall_mem_cons.mp hL
      obtain ⟨l', hstep⟩ := hm.step hs
      exact ih hstep.shows (hq.step hs) (h.step hu hW hm hq hs ha) hrest

end Moment

/-! ### What is upheld -/

namespace Label

/-- Nothing happened that the agreement does not survive: the kernel did what is taken for granted,
no change was given up, and the facility was not closed. -/
def Fine : Label β → Prop
  | worked _ before after => Honoured β before.kernel after.kernel
  | ended _ outcome => outcome.isHalted = false
  | destroyed => False
  | _ => True

/-- No registration was left behind: the active descriptors that were removed were unwatched, and
no rollback failed. -/
def Clean : Label β → Prop
  | worked _ before after => after.rollbackFailures = before.rollbackFailures
  | ended (.removing _ _ (some _)) outcome => outcome = .done ()
  | _ => True

end Label

/-- The registrations for the additions are there, each alone in its slot. -/
def Registers (h : Host β) (added : List Addition) : Prop :=
  h.SlotsApart ∧ ∀ x ∈ added, ∀ e ∈ wanted x, e ∈ h.entries

/-- The registrations are those for the additions. -/
def RegistersOnly (h : Host β) (added : List Addition) : Prop :=
  Registers h added ∧ ∀ e ∈ h.entries, ∃ x ∈ added, e ∈ wanted x

theorem fd_ne_of_ne {added : List Addition} (h : (added.map (·.descriptor.fd)).Nodup)
    {x y : Addition} (hx : x ∈ added) (hy : y ∈ added) (hne : y ≠ x) :
    y.descriptor.fd ≠ x.descriptor.fd :=
  fun he => hne (List.inj_on_of_nodup_map h hy hx he)

theorem Change.tell_removing {d : Descriptor} {i : Interests} {j : UInt32}
    {outcome : Outcome SystemError Unit} (h : outcome.isHalted = false) (added : List Addition) :
    (removing d i (some j)).tell outcome added = added.filter (·.tag.index ≠ j) := by
  cases outcome with
  | done _ | failed _ => rfl
  | halted cause => cases h

variable [Facility β] [LawfulRegistry β]

open LawfulRegistry

variable {h h' : Host β} {added : List Addition} {x : Addition} {d : Descriptor} {i : Interests}
  {found : Option UInt32} {outcome : Outcome SystemError Unit}

/-- The registrations for an addition are still there if only another descriptor was worked on. -/
theorem wanted_mem_of_frame {n : Int32}
    (hframe : ∀ e : Entry β, fd e ≠ n → (e ∈ h'.entries ↔ e ∈ h.entries))
    (hne : x.descriptor.fd ≠ n) (hmem : ∀ e ∈ wanted x, e ∈ h.entries) :
    ∀ e ∈ wanted x, e ∈ h'.entries := by
  intro e he
  refine (hframe e ?_).mpr (hmem e he)
  rwa [fd_wanted x e he]

theorem Registers.watched (hr : Registers h added) (hw : Watched x outcome h h')
    (hhonoured : Honoured β h.kernel h'.kernel) (hsound : (Change.adding x).Sound added)
    (hfine : outcome.isHalted = false) : Registers h' ((Change.adding x).tell outcome added) := by
  obtain ⟨hapart, hpresent⟩ := hr
  have hold : ∀ y ∈ added, ∀ e ∈ wanted y, e ∈ h'.entries := fun y hy =>
    wanted_mem_of_frame hw.frame (hsound y hy) (hpresent y hy)
  refine ⟨hw.apart hapart, ?_⟩
  cases outcome with
  | done value =>
      intro y hy
      rcases List.mem_append.mp hy with hy | hy
      · exact hold y hy
      · obtain rfl := List.mem_singleton.mp hy
        exact hw.present hhonoured rfl
  | failed cause => exact hold
  | halted cause => cases hfine

theorem Registers.unwatched (hr : Registers h added) (hw : Unwatched d.fd i outcome h h')
    (hsound : (Change.removing d i found).Sound added)
    (hdistinct : (added.map (·.descriptor.fd)).Nodup) (hfine : outcome.isHalted = false) :
    Registers h' ((Change.removing d i found).tell outcome added) := by
  obtain ⟨hapart, hpresent⟩ := hr
  have hold : ∀ y ∈ added, y.descriptor.fd ≠ d.fd → ∀ e ∈ wanted y, e ∈ h'.entries :=
    fun y hy hd => wanted_mem_of_frame hw.frame hd (hpresent y hy)
  refine ⟨hw.apart hapart, ?_⟩
  cases found with
  | none =>
      have hkept : ∀ y ∈ added, ∀ e ∈ wanted y, e ∈ h'.entries :=
        fun y hy => hold y hy (hsound.2 y hy)
      cases outcome <;> exact hkept
  | some j =>
      obtain ⟨x, hx, hd, -, hj⟩ := hsound
      rw [Change.tell_removing hfine]
      intro y hy
      obtain ⟨hy, hne⟩ := List.mem_filter.mp hy
      have hyx : y ≠ x := fun he => of_decide_eq_true hne ((hj y hy).mpr he)
      exact hold y hy (hd ▸ fd_ne_of_ne hdistinct hx hy hyx)

theorem upholds_registers : Upholds (β := β) Label.Fine Registers where
  destroyed := id
  host := by
    intro h h' added he hr
    unfold Registers Host.SlotsApart
    rw [he]
    exact hr
  call := by
    intro c added h h' p hsound hdistinct hr hp hhonoured
    cases c with
    | adding x =>
        obtain ⟨outcome, rfl, hw⟩ := LawfulRegistry.watch x h h' p hp
        exact ⟨outcome, rfl, hr.watched hw hhonoured hsound⟩
    | removing d i found =>
        obtain ⟨outcome, rfl, hw⟩ := LawfulRegistry.unwatch d.fd i h h' p hp
        exact ⟨outcome, rfl, hr.unwatched hw hsound hdistinct⟩

/-- If all registrations are those for the additions, each one belongs to an addition of its own
descriptor. -/
theorem RegistersOnly.exists_addition (hr : RegistersOnly h added) {e : Entry β}
    (he : e ∈ h.entries) : ∃ y ∈ added, e ∈ wanted y ∧ y.descriptor.fd = fd e := by
  obtain ⟨y, hy, hey⟩ := hr.2 e he
  exact ⟨y, hy, hey, (fd_wanted y e hey).symm⟩

theorem RegistersOnly.watched (hr : RegistersOnly h added) (hw : Watched x outcome h h')
    (hhonoured : Honoured β h.kernel h'.kernel) (hsame : h'.rollbackFailures = h.rollbackFailures)
    (hsound : (Change.adding x).Sound added) (hfine : outcome.isHalted = false) :
    RegistersOnly h' ((Change.adding x).tell outcome added) := by
  refine ⟨hr.1.watched hw hhonoured hsound hfine, ?_⟩
  have hfresh : ∀ e ∈ h.entries, fd e ≠ x.descriptor.fd := by
    intro e he
    obtain ⟨y, hy, -, hfd⟩ := hr.exists_addition he
    exact hfd ▸ hsound y hy
  intro e he
  by_cases hfd : fd e = x.descriptor.fd
  · obtain ⟨rfl, hex⟩ := hw.tidy hhonoured hsame hfine hfresh e he hfd
    exact ⟨x, List.mem_append_right _ List.mem_cons_self, hex⟩
  · obtain ⟨y, hy, hey⟩ := hr.2 e ((hw.frame e hfd).mp he)
    refine ⟨y, ?_, hey⟩
    cases outcome with
    | done value => exact List.mem_append_left _ hy
    | failed _ | halted _ => exact hy

/-- Without an active record of the descriptor, unwatching it finds nothing to delete. -/
theorem RegistersOnly.unwatched_none (hr : RegistersOnly h added)
    (hw : Unwatched d.fd i outcome h h') (hsound : (Change.removing d i none).Sound added)
    (hdistinct : (added.map (·.descriptor.fd)).Nodup) (hfine : outcome.isHalted = false) :
    RegistersOnly h' ((Change.removing d i none).tell outcome added) := by
  refine ⟨hr.1.unwatched hw hsound hdistinct hfine, ?_⟩
  have habsent : ∀ e ∈ h'.entries, fd e ≠ d.fd := hw.absent fun e he => by
    obtain ⟨y, hy, -, hfd⟩ := hr.exists_addition he
    exact hfd ▸ hsound.2 y hy
  have hkept : ∀ e ∈ h'.entries, ∃ x ∈ added, e ∈ wanted x :=
    fun e he => hr.2 e ((hw.frame e (habsent e he)).mp he)
  cases outcome <;> exact hkept

/-- Unwatching an active descriptor takes all its registrations. -/
theorem RegistersOnly.unwatched_some {j : UInt32} (hr : RegistersOnly h added)
    (hw : Unwatched d.fd i (.done ()) h h') (hhonoured : Honoured β h.kernel h'.kernel)
    (hsound : (Change.removing d i (some j)).Sound added)
    (hdistinct : (added.map (·.descriptor.fd)).Nodup) :
    RegistersOnly h' ((Change.removing d i (some j)).tell (.done ()) added) := by
  refine ⟨hr.1.unwatched hw hsound hdistinct rfl, ?_⟩
  obtain ⟨x, hx, hd, hi, hj⟩ := hsound
  have hgone : ∀ e ∈ h'.entries, fd e ≠ d.fd := by
    refine hw.gone hhonoured rfl hr.1.1 x hd hi (hr.1.2 x hx) fun e he hfd => ?_
    obtain ⟨y, hy, hey, hfd'⟩ := hr.exists_addition he
    by_cases hyx : y = x
    · exact hyx ▸ hey
    · exact absurd (hfd'.trans (hfd.trans hd.symm)) (fd_ne_of_ne hdistinct hx hy hyx)
  intro e he
  obtain ⟨y, hy, hey, hfd⟩ := hr.exists_addition ((hw.frame e (hgone e he)).mp he)
  refine ⟨y, List.mem_filter.mpr ⟨hy, decide_eq_true fun hindex => ?_⟩, hey⟩
  obtain rfl := (hj y hy).mp hindex
  exact hgone e he (hfd.symm.trans hd)

theorem upholds_registersOnly :
    Upholds (β := β) (fun a => a.Fine ∧ a.Clean) RegistersOnly where
  destroyed := And.left
  host := by
    intro h h' added he hr
    refine ⟨upholds_registers.host he hr.1, ?_⟩
    rw [he]
    exact hr.2
  call := by
    rintro c added h h' p hsound hdistinct hr hp ⟨hhonoured, hsame⟩
    cases c with
    | adding x =>
        obtain ⟨outcome, rfl, hw⟩ := LawfulRegistry.watch x h h' p hp
        exact ⟨outcome, rfl, fun hfine => hr.watched hw hhonoured hsame hsound hfine.1⟩
    | removing d i found =>
        obtain ⟨outcome, rfl, hw⟩ := LawfulRegistry.unwatch d.fd i h h' p hp
        refine ⟨outcome, rfl, fun ⟨hfine, hclean⟩ => ?_⟩
        cases found with
        | none => exact hr.unwatched_none hw hsound hdistinct hfine
        | some j =>
            obtain rfl : outcome = .done () := hclean
            exact hr.unwatched_some hw hhonoured hsound hdistinct

end Readiness
