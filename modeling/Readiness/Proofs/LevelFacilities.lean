import Readiness.Proofs.EpollEvents
import Readiness.Proofs.PollRounds

/-! # What a facility owes to the levels

What the calls of `epoll` and `poll` answer when nothing is scripted, said without the facility.

* **Unscripted** (`Kernel.Unscripted`).  No call is told to fail, no event is injected and no result
  is forced.
* **Open or closed** (`Levelled.Runs`).  An open facility has the registrations of the additions.  A
  closed one has none and answers every call with the same error.
* **Watching** succeeds exactly if the facility is open and the descriptor is valid, and
  **unwatching** succeeds if the descriptor was added.
* **Waiting** returns what the levels of the additions call for, in an order of the facility's
  own. -/

namespace Readiness

open Registry

/-! ### Kernels without a script -/

namespace Kernel

/-- Nothing decides about calls and events but the levels and the valid descriptors. -/
structure Unscripted (k : Kernel) : Prop where
  verdicts : k.verdicts = []
  forced : k.forced = []
  injected : k.epollInjected = []

variable {k : Kernel}

theorem Unscripted.record (h : k.Unscripted) (call : SystemCall) : (k.record call).Unscripted :=
  ⟨h.verdicts, h.forced, h.injected⟩

theorem Unscripted.shown (h : k.Unscripted) : { k with calls := #[] }.Unscripted :=
  ⟨h.verdicts, h.forced, h.injected⟩

/-- Without a verdict every call passes. -/
theorem Unscripted.obey (h : k.Unscripted) {α : Type} (name : CallName)
    (act : Kernel → Outcome SystemError α × Kernel) : k.obey name act = act k :=
  obey_of_nil h.verdicts name act

/-- The parts of the kernel that are the same for all facilities. -/
structure World where
  levels : List (Int32 × UInt32)
  invalid : List Int32

/-- The levels and the invalid descriptors. -/
def world (k : Kernel) : World := ⟨k.levels, k.invalid⟩

/-- No level has the bit that `poll` does not know. -/
def Dry (k : Kernel) : Prop := ∀ entry ∈ k.levels, Epoll.hasBit entry.2 Epoll.rdhupBit = false

theorem Dry.level (h : k.Dry) (fd : Int32) :
    Epoll.hasBit (k.level fd) Epoll.rdhupBit = false := by
  unfold Kernel.level
  cases hlookup : k.levels.lookup fd with
  | none => rfl
  | some bits =>
      obtain ⟨l₁, l₂, hl, -⟩ := List.lookup_eq_some_iff.mp hlookup
      exact h (fd, bits) (hl ▸ List.mem_append_right _ List.mem_cons_self)

theorem level_of_world {k' : Kernel} (h : k.world = k'.world) : k.level = k'.level := by
  funext fd
  rw [level, level, show k.levels = k'.levels from congrArg World.levels h]

theorem isInvalid_of_world {k' : Kernel} (h : k.world = k'.world) : k.isInvalid = k'.isInvalid := by
  funext fd
  rw [isInvalid, isInvalid, show k.invalid = k'.invalid from congrArg World.invalid h]

theorem Dry.of_world {k' : Kernel} (hd : k.Dry) (h : k'.world = k.world) : k'.Dry := by
  rw [Dry, show k'.levels = k.levels from congrArg World.levels h]
  exact hd

/-- A call leaves the script empty, the world as it is, and the same handles open. -/
structure Untouched (k k' : Kernel) : Prop where
  unscripted : k'.Unscripted
  world : k'.world = k.world
  live : k'.live = k.live

theorem Unscripted.untouched (h : k.Unscripted) (call : SystemCall) :
    k.Untouched (k.record call) := ⟨h.record call, rfl, rfl⟩

end Kernel

/-- What watching answers. -/
def watchAnswer (isOpen isInvalid : Bool) : Outcome SystemError Unit :=
  if isInvalid || !isOpen then .failed .badDescriptor else .done ()

/-! ### Calls without a script -/

namespace Kernel

variable {k : Kernel} {handle n : Int32}

theorem Unscripted.getFlags (h : k.Unscripted) (n : Int32) :
    ∃ k', k.getFlags n = (watchAnswer true (k.isInvalid n), k') ∧ k.Untouched k' := by
  refine ⟨k.record (.getFlags n), ?_, h.untouched _⟩
  unfold Kernel.getFlags
  rw [(h.record _).obey]
  cases hinvalid : k.isInvalid n with
  | true => exact if_pos hinvalid
  | false => exact if_neg (by rw [show (k.record _).isInvalid n = _ from hinvalid]; decide)

theorem epollHas_eq_false (h : ∀ r ∈ k.epollRegistrations, r.fd ≠ n) : k.epollHas n = false := by
  simpa [epollHas] using h

theorem Unscripted.epollAdd (h : k.Unscripted) {events : UInt32} {t : Tag}
    (hnew : k.isLive handle = true → ∀ r ∈ k.epollRegistrations, r.fd ≠ n) :
    ∃ k', k.epollAdd handle n events t = (watchAnswer (k.isLive handle) (k.isInvalid n), k') ∧
      k.Untouched k' := by
  unfold Kernel.epollAdd
  rw [(h.record _).obey]
  have hlive : (k.record (.epollAdd handle n events t)).isLive handle = k.isLive handle := rfl
  have hinvalid : (k.record (.epollAdd handle n events t)).isInvalid n = k.isInvalid n := rfl
  have hhas : (k.record (.epollAdd handle n events t)).epollHas n = k.epollHas n := rfl
  rw [hlive, hinvalid, hhas]
  cases hl : k.isLive handle with
  | false =>
      exact ⟨_, by rw [watchAnswer, Bool.not_false, Bool.or_true]; rfl,
        h.untouched (.epollAdd handle n events t)⟩
  | true =>
      cases hi : k.isInvalid n with
      | true => exact ⟨_, rfl, h.untouched (.epollAdd handle n events t)⟩
      | false =>
          rw [epollHas_eq_false (hnew hl)]
          exact ⟨_, rfl, ⟨h.verdicts, h.forced, h.injected⟩, rfl, rfl⟩

theorem Unscripted.epollDelete (h : k.Unscripted) (handle n : Int32) :
    ∃ outcome k', k.epollDelete handle n = (outcome, k') ∧ k.Untouched k' ∧
      outcome.isHalted = false ∧ (k.isLive handle = true → k.isInvalid n = false →
        (∃ r ∈ k.epollRegistrations, r.fd = n) → outcome = .done ()) := by
  unfold Kernel.epollDelete
  rw [(h.record _).obey]
  have hlive : (k.record (.epollDelete handle n)).isLive handle = k.isLive handle := rfl
  have hinvalid : (k.record (.epollDelete handle n)).isInvalid n = k.isInvalid n := rfl
  have hhas : (k.record (.epollDelete handle n)).epollHas n = k.epollHas n := rfl
  rw [hlive, hinvalid, hhas]
  cases hl : k.isLive handle with
  | false => exact ⟨_, _, rfl, h.untouched (.epollDelete handle n), rfl, nofun⟩
  | true =>
      cases hi : k.isInvalid n with
      | true => exact ⟨_, _, rfl, h.untouched (.epollDelete handle n), rfl, fun _ => nofun⟩
      | false =>
          cases hh : k.epollHas n with
          | true =>
              exact ⟨_, _, rfl, ⟨⟨h.verdicts, h.forced, h.injected⟩, rfl, rfl⟩, rfl,
                fun _ _ _ => rfl⟩
          | false =>
              refine ⟨_, _, rfl, h.untouched (.epollDelete handle n), rfl, fun _ _ hknown => ?_⟩
              obtain ⟨r, hr, hn⟩ := hknown
              have : k.epollHas n = true := List.any_eq_true.mpr ⟨r, hr, beq_iff_eq.mpr hn⟩
              cases hh.symm.trans this

theorem Unscripted.epollWait (h : k.Unscripted) (size timeout : Int32)
    (hsize : k.isLive handle = true → 0 < size) :
    ∃ outcome k', Progress.alone (k.epollWait handle size timeout) = (outcome, k') ∧
      k.Untouched k' ∧ k'.epollRegistrations = k.epollRegistrations ∧
      if k.isLive handle then ∃ events, outcome = .done events
      else outcome = .failed .badDescriptor := by
  unfold Kernel.epollWait
  dsimp only
  have hlive : (k.record (.epollWait handle size timeout)).isLive handle = k.isLive handle := rfl
  rw [hlive]
  cases hl : k.isLive handle with
  | false => exact ⟨_, _, rfl, h.untouched (.epollWait handle size timeout), rfl, rfl⟩
  | true =>
      have hroom : ¬ size ≤ 0 := Int32.not_le.mpr (hsize hl)
      rw [if_neg (by decide), Progress.alone, (h.record _).obey, if_neg hroom]
      refine ⟨_, _, rfl, ⟨⟨h.verdicts, h.forced, ?_⟩, rfl, rfl⟩, rfl, _, rfl⟩
      show k.epollInjected.drop _ = []
      rw [h.injected, List.drop_nil]

theorem Unscripted.closeHandle (h : k.Unscripted) (hlive : k.isLive handle = true) :
    ∃ k', k.closeHandle handle = (.done (), k') ∧ k'.Unscripted ∧ k'.world = k.world ∧
      k'.live = k.live.filter (· ≠ handle) := by
  unfold Kernel.closeHandle
  rw [(h.record _).obey]
  exact ⟨_, if_pos hlive, ⟨h.verdicts, h.forced, h.injected⟩, rfl, rfl⟩

/-- The results that nothing forces. -/
theorem Unscripted.pollEach (h : k.Unscripted) (entries : List (Int32 × UInt16)) :
    k.pollEach entries = (entries.map fun entry =>
      if k.isInvalid entry.1 then Poll.nvalBit
      else (k.level entry.1).toUInt16 &&& (entry.2 ||| Poll.errBit ||| Poll.hupBit), k) := by
  induction entries with
  | nil => rfl
  | cons entry rest ih =>
      have hone : k.pollOne entry = (if k.isInvalid entry.1 then Poll.nvalBit
          else (k.level entry.1).toUInt16 &&& (entry.2 ||| Poll.errBit ||| Poll.hupBit), k) := by
        unfold pollOne
        rw [h.forced]
        dsimp only [List.lookup]
        split <;> rfl
      rw [Kernel.pollEach, hone]
      dsimp only
      rw [ih]
      rfl

end Kernel

theorem Host.system_of_eq {β ρ : Type} {call : Kernel → ρ × Kernel} {h : Host β} {r : ρ}
    {kernel : Kernel} (hc : call h.kernel = (r, kernel)) :
    h.system call = (r, { h with kernel }) := by
  rw [Host.system, hc]

theorem Progress.atOnce_of_eq {σ ρ : Type} {call : σ → ρ × σ} {s s' : σ} {r : ρ}
    (h : call s = (r, s')) : Progress.atOnce call s = (.returned r, s') := by
  rw [Progress.atOnce, h]

/-! ### Facilities -/

variable {β : Type} [Facility β] [Registry β]

/-- The registrations for additions of different descriptors, each with one registration, are
a permutation of theirs. -/
theorem RegistersOnly.perm [LawfulRegistry β] {h : Host β} {added : List Addition}
    (hr : RegistersOnly h added) (hdistinct : (added.map (·.descriptor.fd)).Nodup)
    {entry : Addition → Entry β} (hwanted : ∀ x, wanted x = [entry x]) :
    h.entries.Perm (added.map entry) := by
  have hfd : ∀ x, fd (entry x) = x.descriptor.fd := fun x =>
    LawfulRegistry.fd_wanted x _ (hwanted x ▸ List.mem_cons_self)
  have hnodup : (added.map entry).Nodup := by
    refine List.Nodup.of_map fd ?_
    rwa [List.map_map, show fd ∘ entry = fun x => x.descriptor.fd from funext hfd]
  refine (List.perm_ext_iff_of_nodup (List.Nodup.of_map _ hr.1.1) hnodup).mpr fun e => ?_
  rw [List.mem_map]
  constructor
  · intro he
    obtain ⟨x, hx, hex⟩ := hr.2 e he
    rw [hwanted] at hex
    exact ⟨x, hx, (List.mem_singleton.mp hex).symm⟩
  · rintro ⟨x, hx, rfl⟩
    exact hr.1.2 x hx _ (hwanted x ▸ List.mem_cons_self)

/-- A facility that depends on nothing but the levels and the valid descriptors. -/
class Levelled (β : Type) [Facility β] [Registry β] where
  /-- The facility is open, or it is closed. -/
  Runs : Bool → Host β → Prop

/-- What calls leave as it is: the script is still empty, the facility open or closed, the world the
same, and no rollback failed. -/
structure Levelled.Leaves [Levelled β] (isOpen : Bool) (h h' : Host β) : Prop where
  unscripted : h'.kernel.Unscripted
  runs : Runs isOpen h'
  world : h'.kernel.world = h.kernel.world
  failures : h'.rollbackFailures = h.rollbackFailures

/-- The facility is open and has the registrations of the additions, or it is closed. -/
structure Levelled.Serving [Levelled β] (isOpen : Bool) (h : Host β) (added : List Addition) :
    Prop where
  unscripted : h.kernel.Unscripted
  runs : Runs isOpen h
  registers : isOpen = true → RegistersOnly h added

open Levelled

/-- The calls answer what the levels and the valid descriptors call for. -/
class LawfulLevelled (β : Type) [Facility β] [Registry β] [Levelled β] : Prop where
  keepsRoom : KeepsRoom β
  honoured : ∀ k k' : Kernel, Honoured β k k'
  congr : ∀ {isOpen : Bool} {h h' : Host β}, h'.facility = h.facility →
    h'.kernel.epollRegistrations = h.kernel.epollRegistrations → h'.kernel.live = h.kernel.live →
      (Runs isOpen h → Runs isOpen h') ∧ h'.entries = h.entries
  watch : ∀ {isOpen : Bool} {h : Host β} {added : List Addition} {x : Addition},
    Serving isOpen h added → (Change.adding x).Sound added →
      ∃ h', Facility.watch x.descriptor.fd x.interests x.tag h =
        (.returned (watchAnswer isOpen (h.kernel.isInvalid x.descriptor.fd)), h') ∧
        Leaves isOpen h h'
  unwatch : ∀ {isOpen : Bool} {h : Host β} {added : List Addition} {d : Descriptor} {i : Interests}
    {found : Option UInt32}, Serving isOpen h added → (Change.removing d i found).Sound added →
      (added.map (·.descriptor.fd)).Nodup →
      (∀ x ∈ added, h.kernel.isInvalid x.descriptor.fd = false) →
        ∃ outcome h', Facility.unwatch d.fd i h = (.returned outcome, h') ∧ Leaves isOpen h h' ∧
          outcome.isHalted = false ∧ (isOpen = true → found ≠ none → outcome = .done ())
  wait : ∀ {h : Host β} {added : List Addition} {b : NativeBuffer} (timeout : Option Duration),
    Serving true h added → (added.map (·.descriptor.fd)).Nodup →
      (∀ x ∈ added, h.kernel.isInvalid x.descriptor.fd = false) → h.kernel.Dry →
      0 < b.capacity → added.length ≤ b.capacity → b.capacity ≤ 2147483647 →
        ∃ seen native? h', Progress.alone (Facility.wait b timeout h) =
          ((.done (), b.clear.extend (seen.filterMap native?)), h') ∧ Leaves true h h' ∧
          h'.entries = h.entries ∧ seen.Perm added ∧
          ∀ roster : Roster, (∀ x ∈ seen, roster.addition? x.tag.index = some x) →
            roster.Reports h.kernel.level seen native?
  waitClosed : ∀ {h : Host β} {added : List Addition} (b : NativeBuffer)
    (timeout : Option Duration), Serving false h added →
      ∃ b' h', Progress.alone (Facility.wait b timeout h) = ((.failed .badDescriptor, b'), h') ∧
        Leaves false h h'
  close : ∀ {h : Host β} {added : List Addition}, Serving true h added →
    ∃ h', Facility.close h = (.done (), h') ∧ Leaves false h h'

/-- Without additions of it, a descriptor has no registration. -/
theorem RegistersOnly.fd_ne [LawfulRegistry β] {h : Host β} {added : List Addition} {n : Int32}
    (hr : RegistersOnly h added) (hn : ∀ y ∈ added, y.descriptor.fd ≠ n) :
    ∀ e ∈ h.entries, fd e ≠ n := by
  intro e he
  obtain ⟨y, hy, -, hfd⟩ := hr.exists_addition he
  exact hfd ▸ hn y hy

/-! ### `epoll` -/

namespace Epoll

instance : Levelled Epoll where
  Runs isOpen h := h.kernel.isLive (-1) = false ∧ h.kernel.isLive h.facility.handle.fd = isOpen

variable {h : Host Epoll} {added : List Addition} {isOpen : Bool}

theorem leaves_of_untouched {kernel : Kernel} (hruns : Runs isOpen h)
    (hk : h.kernel.Untouched kernel) : Leaves isOpen h { h with kernel } := by
  refine ⟨hk.unscripted, ⟨?_, ?_⟩, hk.world, rfl⟩
  · rw [Kernel.isLive, hk.live]
    exact hruns.1
  · rw [Kernel.isLive, hk.live]
    exact hruns.2

/-- An active descriptor has a registration. -/
theorem exists_registration {d : Descriptor} {i : Interests} {j : UInt32}
    (hr : RegistersOnly h added) (hsound : (Change.removing d i (some j)).Sound added) :
    ∃ r ∈ h.kernel.epollRegistrations, r.fd = d.fd := by
  obtain ⟨x, hx, hd, -⟩ := hsound
  exact ⟨registration x, hr.1.2 x hx _ List.mem_cons_self, hd⟩

theorem room_pos {capacity : Nat} (hpos : 0 < capacity) (hmax : capacity ≤ 2147483647) :
    0 < room capacity := by
  rw [Int32.lt_iff_toInt_lt]
  have := toNat_room hmax
  show 0 < _
  omega

instance : LawfulLevelled Epoll where
  keepsRoom := keepsRoom
  honoured _ _ := trivial
  congr {isOpen h h'} hfacility hregistrations hlive := by
    refine ⟨fun hruns => ⟨?_, ?_⟩, hregistrations⟩
    · rw [Kernel.isLive, hlive]
      exact hruns.1
    · rw [Kernel.isLive, hlive, hfacility]
      exact hruns.2
  watch {isOpen h added x} hs hsound := by
    have hnew : h.kernel.isLive h.facility.handle.fd = true →
        ∀ r ∈ h.kernel.epollRegistrations, r.fd ≠ x.descriptor.fd := fun hl =>
      (hs.registers (hs.runs.2.symm.trans hl)).fd_ne hsound
    obtain ⟨kernel, hadd, hk⟩ := hs.unscripted.epollAdd (t := x.tag) hnew
    rw [hs.runs.2] at hadd
    exact ⟨_, Progress.atOnce_of_eq (Host.system_of_eq hadd), leaves_of_untouched hs.runs hk⟩
  unwatch {isOpen h added d i found} hs hsound _ hvalid := by
    obtain ⟨outcome, kernel, hdelete, hk, hhalt, hdone⟩ :=
      hs.unscripted.epollDelete h.facility.handle.fd d.fd
    refine ⟨outcome, _, Progress.atOnce_of_eq (Host.system_of_eq hdelete),
      leaves_of_untouched hs.runs hk, hhalt, fun hopen hfound => ?_⟩
    cases found with
    | none => exact absurd rfl hfound
    | some j =>
        have hknown := exists_registration (hs.registers hopen) hsound
        obtain ⟨x, hx, hd, -⟩ := hsound
        exact hdone (hs.runs.2.trans hopen) (hd ▸ hvalid x hx) hknown
  wait {h added b} timeout hs hdistinct _ _ hpos hroom hmax := by
    obtain ⟨outcome, kernel, hwait, hk, hregistrations, hdone⟩ :=
      hs.unscripted.epollWait (room b.capacity) (timeoutMillis timeout)
        fun _ => room_pos hpos hmax
    rw [if_pos hs.runs.2] at hdone
    obtain ⟨events, rfl⟩ := hdone
    have hperm : h.entries.Perm (added.map registration) :=
      (hs.registers rfl).perm hdistinct fun _ => rfl
    obtain ⟨seen, hseen, hperm⟩ := (congrFun₂ (List.eq_map_comp_perm registration) _ _).mpr hperm
    refine ⟨seen, native? h.kernel, _, ?_, leaves_of_untouched hs.runs hk, hregistrations, hperm,
      fun roster => reports⟩
    refine Prod.ext ?_ ?_
    · exact alone_wait hseen hs.unscripted.injected (by rwa [hperm.length_eq]) hmax
        (congrArg Prod.fst hwait)
    · show (Progress.alone (wait b timeout h)).2 = _
      rw [alone_wait_eq, hwait]
  waitClosed {h added} b timeout hs := by
    obtain ⟨outcome, kernel, hwait, hk, -, hfailed⟩ :=
      hs.unscripted.epollWait (room b.capacity) (timeoutMillis timeout)
        fun hl => absurd (hs.runs.2.symm.trans hl) Bool.false_ne_true
    rw [hs.runs.2] at hfailed
    obtain rfl : outcome = .failed .badDescriptor := hfailed
    refine ⟨b.clear, _, ?_, leaves_of_untouched hs.runs hk⟩
    show Progress.alone (wait b timeout h) = _
    rw [alone_wait_eq, hwait]
    rfl
  close {h added} hs := by
    obtain ⟨kernel, hclose, hu, hworld, hlive⟩ := hs.unscripted.closeHandle hs.runs.2
    have hne : h.facility.handle ≠ .closed := by
      intro he
      have hlive := hs.runs.2
      rw [he] at hlive
      cases hs.runs.1.symm.trans hlive
    refine ⟨⟨⟨.closed⟩, kernel, h.log⟩, ?_, hu, ⟨?_, ?_⟩, hworld, rfl⟩
    · show close h = _
      unfold close Handle.close
      rw [if_neg hne, hclose]
    all_goals
      show kernel.isLive (-1) = false
      have hold := hs.runs.1
      simp only [Kernel.isLive, List.contains_eq_mem, decide_eq_false_iff_not, hlive,
        List.mem_filter] at hold ⊢
      exact fun hm => hold hm.1

end Epoll

/-! ### `poll` -/

namespace Poll

instance : Levelled Poll where
  Runs isOpen h := h.facility.closed = !isOpen

variable {h : Host Poll} {added seen : List Addition} {isOpen : Bool}

/-- The entry of the table for an addition. -/
def entry (x : Addition) : PollEntry := ⟨x.descriptor.fd, .ofInterests x.interests, x.tag⟩

theorem leaves_of_unscripted {h' : Host Poll} (hu : h'.kernel.Unscripted)
    (hclosed : h'.facility.closed = !isOpen) (hworld : h'.kernel.world = h.kernel.world)
    (hlog : h'.log = h.log) : Leaves isOpen h h' :=
  ⟨hu, hclosed, hworld, by rw [Host.rollbackFailures, Host.rollbackFailures, hlog]⟩

theorem watch_answer {x : Addition} (hs : Serving isOpen h added)
    (hsound : (Change.adding x).Sound added) :
    ∃ h', watch x.descriptor.fd x.interests x.tag h =
      (watchAnswer isOpen (h.kernel.isInvalid x.descriptor.fd), h') ∧ Leaves isOpen h h' := by
  have hsame : Leaves isOpen h h :=
    leaves_of_unscripted hs.unscripted hs.runs rfl rfl
  unfold watch
  by_cases hneg : x.descriptor.fd < 0
  · have hinvalid : h.kernel.isInvalid x.descriptor.fd = true := by simp [Kernel.isInvalid, hneg]
    rw [if_pos hneg, hinvalid]
    exact ⟨h, rfl, hsame⟩
  · obtain ⟨kernel, hflags, hk⟩ := hs.unscripted.getFlags x.descriptor.fd
    rw [if_neg hneg, Host.system_of_eq hflags]
    cases hinvalid : h.kernel.isInvalid x.descriptor.fd with
    | true =>
        exact ⟨{ h with kernel }, rfl,
          leaves_of_unscripted hk.unscripted hs.runs hk.world rfl⟩
    | false =>
        have hclosed : h.facility.closed = !isOpen := hs.runs
        cases isOpen with
        | false =>
            refine ⟨{ h with kernel }, if_pos hclosed, ?_⟩
            exact leaves_of_unscripted hk.unscripted hs.runs hk.world rfl
        | true =>
            have hnew : place? h.facility.table x.descriptor.fd = none := by
              refine List.findIdx?_eq_none_iff.mpr fun e he => ?_
              exact beq_eq_false_iff_ne.mpr ((hs.registers rfl).fd_ne hsound e he)
            refine ⟨changeTable (h.facility.table ++ [entry x]) { h with kernel }, ?_,
              leaves_of_unscripted hk.unscripted hs.runs hk.world rfl⟩
            refine (if_neg ?_).trans ?_
            · rw [hclosed]
              exact Bool.false_ne_true
            · simp only [enlist, hnew, Option.isSome_none, Bool.false_eq_true, if_false]
              rfl

/-- A descriptor without an entry in the table. -/
theorem entry?_eq_none {table : List PollEntry} {n : Int32} (hnone : entry? table n = none) :
    ∀ e ∈ table, e.fd ≠ n := by
  refine place?_eq_none ?_
  unfold entry? at hnone
  cases hplace : place? table n with
  | none => rfl
  | some k =>
      obtain ⟨hlt, -⟩ := List.findIdx?_eq_some_iff_getElem.mp hplace
      simp [hplace, List.getElem?_eq_getElem hlt] at hnone

theorem unwatch_answer {d : Descriptor} {i : Interests} {found : Option UInt32}
    (hs : Serving isOpen h added) (hsound : (Change.removing d i found).Sound added) :
    ∃ outcome h', unwatch d.fd i h = (outcome, h') ∧ Leaves isOpen h h' ∧
      outcome.isHalted = false ∧ (isOpen = true → found ≠ none → outcome = .done ()) := by
  have hclosed : h.facility.closed = !isOpen := hs.runs
  have hsame : Leaves isOpen h h := leaves_of_unscripted hs.unscripted hs.runs rfl rfl
  unfold unwatch
  cases isOpen with
  | false => exact ⟨_, h, if_pos hclosed, hsame, rfl, nofun⟩
  | true =>
      rw [if_neg (by rw [hclosed]; exact Bool.false_ne_true)]
      obtain ⟨⟨hapart, hpresent⟩, honly⟩ := hs.registers rfl
      cases hentry : entry? h.facility.table d.fd with
      | none =>
          refine ⟨_, h, rfl, hsame, rfl, fun _ hfound => ?_⟩
          cases found with
          | none => exact absurd rfl hfound
          | some j =>
              obtain ⟨x, hx, hd, -⟩ := hsound
              have hnone := entry?_eq_none hentry
              exact absurd hd (hnone _ (hpresent x hx _ List.mem_cons_self))
      | some place =>
          obtain ⟨n, e⟩ := place
          obtain ⟨l₁, l₂, htable, -, hfd⟩ := entry?_eq_some hentry
          have hleaves : Leaves true h (changeTable (lessen h.facility.table n e
              (.ofInterests i)) h) := leaves_of_unscripted hs.unscripted hs.runs rfl rfl
          dsimp only
          split
          · exact ⟨_, _, rfl, hleaves, rfl, fun _ _ => rfl⟩
          · rename_i hmissing
            refine ⟨_, _, rfl, hleaves, rfl, fun _ hfound => ?_⟩
            cases found with
            | none => exact absurd rfl hfound
            | some j =>
                -- the entry is that of the addition, whose interests are all taken
                obtain ⟨x, hx, hd, hi, -⟩ := hsound
                have he : e ∈ h.entries := by
                  show e ∈ h.facility.table
                  rw [htable]
                  exact List.mem_append_right _ List.mem_cons_self
                have hxe : entry x = e := by
                  refine List.inj_on_of_nodup_map hapart (hpresent x hx _ List.mem_cons_self) he ?_
                  exact congrArg (·, none) (hd.trans hfd.symm)
                refine absurd ?_ hmissing
                rw [← hxe, ← hi]
                exact isEmpty_diff_self x.interests

/-! ### Waiting with `poll` -/

/-- The result for an addition. -/
def result (k : Kernel) (x : Addition) : UInt16 :=
  (k.level x.descriptor.fd).toUInt16 &&& reportedBits x.interests

/-- The native event for an addition. -/
def native? (k : Kernel) (x : Addition) : Option NativeEvent :=
  if result k x = 0 then none else some ⟨x.tag, readiness (result k x)⟩

theorem reports {roster : Roster} {k : Kernel} (hdry : k.Dry)
    (hrecord : ∀ x ∈ added, roster.addition? x.tag.index = some x) :
    roster.Reports k.level added (native? k) where
  record := hrecord
  tag x _ e he := by
    unfold native? at he
    split at he
    · cases he
    · obtain rfl := Option.some.inj he
      rfl
  mask x _ e he := by
    unfold native? at he
    split at he
    · cases he
    · obtain rfl := Option.some.inj he
      exact mask_readiness x.interests (hdry.level _)
  none x _ := by
    rw [← level_eq_zero_iff x.interests (hdry.level _)]
    unfold native?
    split
    · exact iff_of_true rfl ‹_›
    · exact iff_of_false nofun ‹_›

/-- The events of the entries with results are the native events of the additions. -/
theorem found_map (k : Kernel) (seen : List Addition) :
    found (seen.map entry) (seen.map (result k)) = seen.filterMap (native? k) := by
  rw [found_results, ← List.filterMap_eq_map, List.filterMap_filter]
  refine List.filterMap_congr fun x _ => ?_
  by_cases hzero : result k x = 0
  · simp [native?, hzero]
  · simp only [native?, hzero, ne_eq, not_false_eq_true, decide_true, if_true, if_false]
    rfl

/-- Without a script the kernel answers with the levels. -/
theorem ask_unscripted (timeout : Option Duration) (hu : h.kernel.Unscripted)
    (htable : h.facility.table = seen.map entry)
    (hvalid : ∀ x ∈ seen, h.kernel.isInvalid x.descriptor.fd = false) :
    ∃ call, ask timeout h = (.done (seen.map (result h.kernel)), h.record call) := by
  have hresults : ∀ call, (h.kernel.record call).pollEach (shown (seen.map entry)) =
      (seen.map (result h.kernel), h.kernel.record call) := by
    intro call
    rw [(hu.record call).pollEach, shown, List.map_map, List.map_map]
    refine Prod.ext (List.map_congr_left fun x hx => if_neg ?_) rfl
    exact Bool.eq_false_iff.mp (hvalid x hx)
  refine ⟨.poll (shown (seen.map entry)) (timeoutMillis timeout), ?_⟩
  refine Host.system_of_eq ?_
  rw [htable]
  unfold answered
  rw [(hu.record _).obey, hresults]

/-- The end of a round whose results are those of the additions. -/
theorem conclude_done {b : NativeBuffer} (timeout : Option Duration) (k : Kernel)
    (hroom : seen.length ≤ b.capacity) :
    conclude (seen.map entry) b timeout (.done (seen.map (result k))) h =
      (((if goesOn h.facility.woken (b.extend (seen.filterMap (native? k))) timeout then .again
          else .over (.done ())), b.extend (seen.filterMap (native? k))),
        { h with facility := h.facility.drain }) := by
  have htake : (found (seen.map entry) (seen.map (result k))).take b.capacity =
      seen.filterMap (native? k) := by
    rw [found_map, List.take_of_length_le (Nat.le_trans (List.length_filterMap_le _ _) hroom)]
  rw [← htake]
  rfl

/-- A round alone. -/
theorem alone_round_unscripted (b : NativeBuffer) (timeout : Option Duration)
    (hu : h.kernel.Unscripted) (hopen : h.facility.closed = false)
    (htable : h.facility.table = seen.map entry)
    (hvalid : ∀ x ∈ seen, h.kernel.isInvalid x.descriptor.fd = false)
    (hroom : seen.length ≤ b.capacity) :
    ∃ call, Progress.alone (round b timeout h) =
      (((if goesOn h.facility.woken (b.clear.extend (seen.filterMap (native? h.kernel))) timeout
          then .again else .over (.done ())),
        b.clear.extend (seen.filterMap (native? h.kernel))),
        { h.record call with facility := h.facility.drain }) := by
  obtain ⟨call, hask⟩ := ask_unscripted timeout hu htable hvalid
  refine ⟨call, (alone_round b timeout hopen).trans ?_⟩
  rw [hask, htable]
  exact conclude_done (b := b.clear) timeout h.kernel hroom

/-- **A wait alone** returns what the levels of the additions call for, whether or not it goes round
a second time. -/
theorem alone_wait {b : NativeBuffer} (timeout : Option Duration) (hu : h.kernel.Unscripted)
    (hopen : h.facility.closed = false) (htable : h.facility.table = seen.map entry)
    (hvalid : ∀ x ∈ seen, h.kernel.isInvalid x.descriptor.fd = false)
    (hroom : seen.length ≤ b.capacity) :
    ∃ h', Progress.alone (wait b timeout h) =
      ((.done (), b.clear.extend (seen.filterMap (native? h.kernel))), h') ∧
      h'.kernel.Unscripted ∧ h'.facility = h.facility.drain ∧ h'.kernel.world = h.kernel.world ∧
      h'.log = h.log := by
  obtain ⟨call, hround⟩ := alone_round_unscripted b timeout hu hopen htable hvalid hroom
  unfold wait
  rw [Progress.alone_andThen, hround]
  split
  · -- woken, and nothing found: the second round asks the same of the same levels
    obtain ⟨call', hagain⟩ := alone_round_unscripted
      (h := { h.record call with facility := h.facility.drain })
      (b.clear.extend (seen.filterMap (native? h.kernel))) timeout (hu.record call) hopen htable
      hvalid hroom
    refine ⟨{ (h.record call).record call' with facility := h.facility.drain.drain }, ?_,
      (hu.record call).record call', rfl, rfl, rfl⟩
    show settle timeout 1 _ _ = _
    rw [settle, hagain]
    rfl
  · exact ⟨_, rfl, hu.record call, rfl, rfl, rfl⟩

/-! ### The facility -/

theorem capacity_conclude (snapshot : List PollEntry) (b : NativeBuffer)
    (timeout : Option Duration) (outcome : Outcome SystemError (List UInt16)) (h : Host Poll) :
    (conclude snapshot b timeout outcome h).1.2.capacity = b.capacity := by
  cases outcome <;> rfl

theorem capacity_round (b : NativeBuffer) (timeout : Option Duration) (h : Host Poll) :
    (round b timeout h).1.Yields fun r => r.2.capacity = b.capacity := by
  rw [round_eq]
  split
  · rfl
  · exact Progress.yields_systemWithin
      (fun outcome g => capacity_conclude h.facility.table b.clear timeout outcome g) h

theorem capacity_settle (timeout : Option Duration) (fuel : Nat) (b : NativeBuffer)
    (h : Host Poll) : (settle timeout fuel b h).1.2.capacity = b.capacity := by
  induction fuel generalizing b h with
  | zero => rfl
  | succ fuel ih =>
      have hround := (capacity_round b timeout h).alone
      rw [settle]
      split
      · rename_i hr
        rwa [hr] at hround
      · rename_i hr
        rw [hr] at hround
        exact (ih _ _).trans hround

theorem keepsRoom : KeepsRoom Poll := fun b timeout h =>
  (capacity_round b timeout h).andThen fun r g hr => by
    obtain ⟨outcome | _, b'⟩ := r
    · exact hr
    · exact (capacity_settle ..).trans hr

instance : LawfulLevelled Poll where
  keepsRoom := keepsRoom
  honoured _ _ := trivial
  congr {isOpen h h'} hfacility _ _ := by
    refine ⟨fun hruns => ?_, ?_⟩
    · show h'.facility.closed = !isOpen
      rw [hfacility]
      exact hruns
    · show h'.facility.table = h.facility.table
      rw [hfacility]
  watch hs hsound := by
    obtain ⟨h', hwatch, hleaves⟩ := watch_answer hs hsound
    exact ⟨h', Progress.atOnce_of_eq hwatch, hleaves⟩
  unwatch hs hsound _ _ := by
    obtain ⟨outcome, h', hunwatch, hleaves⟩ := unwatch_answer hs hsound
    exact ⟨outcome, h', Progress.atOnce_of_eq hunwatch, hleaves⟩
  wait {h added b} timeout hs hdistinct hvalid hdry _ hroom _ := by
    have hperm : h.facility.table.Perm (added.map entry) :=
      (hs.registers rfl).perm hdistinct fun _ => rfl
    obtain ⟨seen, hseen, hperm⟩ := (congrFun₂ (List.eq_map_comp_perm entry) _ _).mpr hperm
    obtain ⟨h', hwait, hu, hfacility, hworld, hlog⟩ := alone_wait timeout hs.unscripted hs.runs
      hseen (fun x hx => hvalid x (hperm.mem_iff.mp hx)) (by rwa [hperm.length_eq])
    refine ⟨seen, native? h.kernel, h', hwait, leaves_of_unscripted hu ?_ hworld hlog, ?_, hperm,
      fun roster => reports hdry⟩
    · rw [hfacility]
      exact hs.runs
    · show h'.facility.table = _
      rw [hfacility]
      rfl
  waitClosed {h added} b timeout hs := by
    have hclosed : h.facility.closed = true := hs.runs
    refine ⟨b.clear, h, ?_, leaves_of_unscripted hs.unscripted hs.runs rfl rfl⟩
    show Progress.alone (wait b timeout h) = _
    unfold wait
    rw [Progress.alone_andThen, round_of_closed b timeout hclosed]
    rfl
  close {h added} hs := by
    have hopen : h.facility.closed = false := hs.runs
    refine ⟨{ h with facility := { h.facility with table := [], closed := true } }, ?_,
      leaves_of_unscripted hs.unscripted rfl rfl rfl⟩
    show close h = _
    rw [close, if_neg (by rw [hopen]; exact Bool.false_ne_true)]

end Poll

end Readiness
