import Readiness.Proofs.DescriptorRegistries
import Readiness.Proofs.FilterLoops
import Readiness.Proofs.HostInvariants

/-! # Facilities that were closed

* **Faultless** (`Kernel.Faultless`).  No call has a verdict, so none fails on demand and none is
  given up.
* **Closed** (`Host.Shut`).  `epoll` and `kqueue` are closed once they have lost their handle; the
  calls they go on making are made with a number that no open handle has.  `poll` has a flag, and
  looks at it before the table, but after the check of the descriptor.
* **Rebuffs** (`Host.Rebuffs`).  A closed facility refuses to watch, to unwatch and to wait with one
  and the same error, at once, and nothing comes of it.  Closing it again is no call at all.

`LawfulClosable` is what the three have in common. -/

namespace Readiness

open Registry

/-! ### Calls without faults -/

namespace Kernel

/-- No call has a verdict, and no open handle has the number that is left of a closed one. -/
structure Faultless (k : Kernel) : Prop where
  verdicts : k.verdicts = []
  closed : k.isLive Handle.closed.fd = false

/-- A call returns, and leaves no fault. -/
def Goes {α : Type} (r : Outcome SystemError α × Kernel) : Prop :=
  r.1.isHalted = false ∧ r.2.Faultless

variable {k k' : Kernel}

theorem Faultless.congr (h : k.Faultless) (hverdicts : k'.verdicts = k.verdicts)
    (hlive : k'.live = k.live) : k'.Faultless :=
  ⟨hverdicts.trans h.verdicts, by rw [isLive, hlive]; exact h.closed⟩

theorem Faultless.record (h : k.Faultless) (call : SystemCall) : (k.record call).Faultless :=
  h.congr rfl rfl

/-- Without verdicts a call goes if it goes when it passes. -/
theorem Faultless.obey {α : Type} {name : CallName} {act : Kernel → Outcome SystemError α × Kernel}
    (h : k.Faultless) (hact : Goes (act k)) : Goes (k.obey name act) := by
  rwa [obey_of_nil h.verdicts]

theorem Faultless.getFlags (h : k.Faultless) (fd : Int32) : Goes (k.getFlags fd) := by
  refine (h.record _).obey ?_
  split <;> exact ⟨rfl, h.congr rfl rfl⟩

theorem Faultless.epollAdd (h : k.Faultless) (handle fd : Int32) (events : UInt32) (t : Tag) :
    Goes (k.epollAdd handle fd events t) := by
  refine (h.record _).obey ?_
  split
  · exact ⟨rfl, h.congr rfl rfl⟩
  · split <;> exact ⟨rfl, h.congr rfl rfl⟩

theorem Faultless.epollDelete (h : k.Faultless) (handle fd : Int32) :
    Goes (k.epollDelete handle fd) := by
  refine (h.record _).obey ?_
  split
  · exact ⟨rfl, h.congr rfl rfl⟩
  · split <;> exact ⟨rfl, h.congr rfl rfl⟩

theorem Faultless.closeHandle (h : k.Faultless) (handle : Int32) :
    Goes (k.closeHandle handle) := by
  refine (h.record _).obey ?_
  split
  · refine ⟨rfl, h.verdicts, ?_⟩
    have hclosed : Handle.closed.fd ∉ (k.record (.closeHandle handle)).live := by
      simpa [isLive] using (h.record (.closeHandle handle)).closed
    simp [isLive, hclosed]
  · exact ⟨rfl, h.congr rfl rfl⟩

theorem faultless_applyChange (h : k.Faultless) (c : KqueueChange) :
    (k.applyChange c).2.Faultless := by
  unfold applyChange
  dsimp only
  split
  · exact h
  · split
    · exact h.congr rfl rfl
    · split
      · exact h.congr rfl rfl
      · exact h

theorem Faultless.keventChange (h : k.Faultless) (handle : Int32) (c : KqueueChange) :
    Goes (k.keventChange handle c) := by
  have hr := h.record (.keventChange handle c.fd c.filter c.flags c.tag)
  simp only [Kernel.keventChange, nextVerdict_of_nil hr.verdicts, attemptChange]
  split
  · simp only [change, nextVerdict_of_nil hr.verdicts]
    exact ⟨rfl, faultless_applyChange hr c⟩
  · exact ⟨rfl, hr⟩

theorem native_pollEach (k : Kernel) (entries : List (Int32 × UInt16)) :
    (k.pollEach entries).2.verdicts = k.verdicts ∧ (k.pollEach entries).2.live = k.live := by
  induction entries generalizing k with
  | nil => exact ⟨rfl, rfl⟩
  | cons entry rest ih =>
      have hone : (k.pollOne entry).2.verdicts = k.verdicts ∧
          (k.pollOne entry).2.live = k.live := by
        unfold pollOne
        split
        · exact ⟨rfl, rfl⟩
        · split <;> exact ⟨rfl, rfl⟩
      obtain ⟨hverdicts, hlive⟩ := ih (k.pollOne entry).2
      exact ⟨hverdicts.trans hone.1, hlive.trans hone.2⟩

/-! ### Calls with the number that is left of a handle -/

theorem Faultless.epollAdd_closed (h : k.Faultless) (fd : Int32) (events : UInt32) (t : Tag) :
    k.epollAdd Handle.closed.fd fd events t =
      (.failed .badDescriptor, k.record (.epollAdd Handle.closed.fd fd events t)) := by
  have hr := h.record (.epollAdd Handle.closed.fd fd events t)
  rw [Kernel.epollAdd, obey_of_nil hr.verdicts, hr.closed]
  rfl

theorem Faultless.epollDelete_closed (h : k.Faultless) (fd : Int32) :
    k.epollDelete Handle.closed.fd fd =
      (.failed .badDescriptor, k.record (.epollDelete Handle.closed.fd fd)) := by
  have hr := h.record (.epollDelete Handle.closed.fd fd)
  rw [Kernel.epollDelete, obey_of_nil hr.verdicts, hr.closed]
  rfl

theorem Faultless.epollWait_closed (h : k.Faultless) (room timeout : Int32) :
    k.epollWait Handle.closed.fd room timeout =
      (.returned (.failed .badDescriptor),
        k.record (.epollWait Handle.closed.fd room timeout)) := by
  rw [epollWait, (h.record (.epollWait Handle.closed.fd room timeout)).closed]
  rfl

theorem Faultless.keventChange_closed (h : k.Faultless) (c : KqueueChange) :
    k.keventChange Handle.closed.fd c =
      (.failed .badDescriptor,
        k.record (.keventChange Handle.closed.fd c.fd c.filter c.flags c.tag)) := by
  have hr := h.record (.keventChange Handle.closed.fd c.fd c.filter c.flags c.tag)
  simp only [Kernel.keventChange, nextVerdict_of_nil hr.verdicts, attemptChange, hr.closed]
  rfl

theorem Faultless.keventWait_closed (h : k.Faultless) (room : Int32)
    (timeout : Option Timespec) :
    k.keventWait Handle.closed.fd room timeout =
      (.returned (.failed .badDescriptor),
        k.record (.keventWait Handle.closed.fd room timeout)) := by
  rw [keventWait, (h.record (.keventWait Handle.closed.fd room timeout)).closed]
  rfl

/-- Waits leave no fault. -/
theorem epollWait_faultless (handle room timeout : Int32) :
    Progress.Relates (fun k k' => k.Faultless → k'.Faultless)
      (epollWait handle room timeout) := by
  intro k
  unfold epollWait
  dsimp only
  split
  · exact ⟨fun h => h.record _, nofun⟩
  · refine ⟨fun h => h.record _, fun resume he t h => ?_⟩
    obtain rfl := Progress.inside.inj he
    refine (h.obey ?_).2
    split <;> exact ⟨rfl, h.congr rfl rfl⟩

theorem keventWait_faultless (handle room : Int32) (timeout : Option Timespec) :
    Progress.Relates (fun k k' => k.Faultless → k'.Faultless)
      (keventWait handle room timeout) := by
  intro k
  unfold keventWait
  dsimp only
  split
  · exact ⟨fun h => h.record _, nofun⟩
  · refine ⟨fun h => h.record _, fun resume he t h => ?_⟩
    obtain rfl := Progress.inside.inj he
    exact (h.obey ⟨rfl, h.congr rfl rfl⟩).2

theorem poll_faultless (entries : List (Int32 × UInt16)) (timeout : Int32) :
    Progress.Relates (fun k k' => k.Faultless → k'.Faultless) (poll entries timeout) := by
  refine fun k => ⟨fun h => h.record _, fun resume he t h => ?_⟩
  obtain rfl := Progress.inside.inj he
  obtain ⟨hverdicts, hlive⟩ := native_pollEach t entries
  exact (h.obey ⟨rfl, h.congr hverdicts hlive⟩).2

end Kernel

/-! ### Closed facilities -/

/-- A facility that shows whether it was closed. -/
class Closable (β : Type) where
  isClosed : β → Bool

open Closable

namespace Host

variable {β ρ : Type}

/-- Nothing came of a call: the facility and its registrations are as before. -/
structure Unmoved [Registry β] (h h' : Host β) : Prop where
  facility : h'.facility = h.facility
  faultless : h'.kernel.Faultless
  entries : h'.entries = h.entries

/-- The facility refuses at once, and nothing comes of it. -/
structure Rebuffs [Registry β] (h : Host β) (answer : ρ) (r : Progress (Host β) ρ × Host β) :
    Prop where
  answer : r.1 = .returned answer
  unmoved : h.Unmoved r.2

theorem Rebuffs.atOnce [Registry β] {h : Host β} {answer : ρ} {f : Host β → ρ × Host β}
    (hanswer : (f h).1 = answer) (hunmoved : h.Unmoved (f h).2) :
    h.Rebuffs answer (Progress.atOnce f h) := ⟨congrArg _ hanswer, hunmoved⟩

variable [Closable β]

/-- The facility was closed. -/
structure Shut (h : Host β) : Prop where
  faultless : h.kernel.Faultless
  closed : isClosed h.facility = true

/-- A part of a call neither opens nor closes the facility, and leaves no fault. -/
structure Abides (h h' : Host β) : Prop where
  closed : isClosed h'.facility = isClosed h.facility
  faultless : h.kernel.Faultless → h'.kernel.Faultless

theorem Abides.refl (h : Host β) : h.Abides h := ⟨rfl, id⟩

theorem Abides.trans {h₁ h₂ h₃ : Host β} (h : h₁.Abides h₂) (h' : h₂.Abides h₃) : h₁.Abides h₃ :=
  ⟨h'.closed.trans h.closed, fun hk => h'.faultless (h.faultless hk)⟩

theorem Shut.record {h : Host β} (hs : h.Shut) (call : SystemCall) : (h.record call).Shut :=
  ⟨hs.faultless.record call, hs.closed⟩

theorem Shut.abides {h h' : Host β} (hs : h.Shut) (ha : h.Abides h') : h'.Shut :=
  ⟨ha.faultless hs.faultless, ha.closed.trans hs.closed⟩

theorem Shut.congr {h h' : Host β} (hs : h.Shut) (hfacility : h'.facility = h.facility)
    (hkernel : h'.kernel = h.kernel) : h'.Shut :=
  ⟨hkernel ▸ hs.faultless, hfacility ▸ hs.closed⟩

end Host

/-- A facility that stays closed, and refuses everything then. -/
class LawfulClosable (β : Type) [Facility β] [Registry β] [Closable β] : Prop where
  wait : ∀ (b : NativeBuffer) (timeout : Option Duration),
    Progress.Relates Host.Abides (Facility.wait (β := β) b timeout)
  watch_shut : ∀ (fd : Int32) (i : Interests) (t : Tag) (h : Host β), h.Shut →
    h.Rebuffs (.failed .badDescriptor) (Facility.watch fd i t h)
  unwatch_shut : ∀ (fd : Int32) (i : Interests) (h : Host β), h.Shut →
    h.Rebuffs (.failed .badDescriptor) (Facility.unwatch fd i h)
  wait_shut : ∀ (b : NativeBuffer) (timeout : Option Duration) (h : Host β), h.Shut →
    h.Rebuffs (.failed .badDescriptor, b.clear) (Facility.wait b timeout h)
  close_shut : ∀ h : Host β, h.Shut → Facility.close h = (.done (), h)

/-! ### `epoll` -/

namespace Epoll

variable {h : Host Epoll}

instance : Closable Epoll where
  isClosed b := decide (b.handle = .closed)

theorem handle_of_shut (hs : h.Shut) : h.facility.handle = .closed := of_decide_eq_true hs.closed

theorem watch_shut (hs : h.Shut) (fd : Int32) (i : Interests) (t : Tag) :
    watch fd i t h = (.failed .badDescriptor, h.record (.epollAdd (-1) fd (requested i) t)) := by
  rw [watch, handle_of_shut hs, Host.system, hs.faultless.epollAdd_closed]
  rfl

theorem unwatch_shut (hs : h.Shut) (fd : Int32) :
    unwatch fd h = (.failed .badDescriptor, h.record (.epollDelete (-1) fd)) := by
  rw [unwatch, handle_of_shut hs, Host.system, hs.faultless.epollDelete_closed]
  rfl

theorem wait_shut (hs : h.Shut) (b : NativeBuffer) (timeout : Option Duration) :
    wait b timeout h = (.returned (.failed .badDescriptor, b.clear),
      h.record (.epollWait (-1) (room b.capacity) (timeoutMillis timeout))) := by
  rw [wait, handle_of_shut hs, Host.systemWithin, Progress.within, hs.faultless.epollWait_closed]
  rfl

instance : LawfulClosable Epoll where
  wait b timeout h := (Kernel.epollWait_faultless _ _ _).systemWithin (G := Host.Abides)
    Host.Abides.trans (fun _ _ hk => ⟨rfl, hk⟩) (fun _ => Host.Abides.refl) h
  watch_shut fd i t h hs := .atOnce (congrArg Prod.fst (watch_shut hs fd i t)) (by
    rw [watch_shut hs]
    exact ⟨rfl, hs.faultless.record _, rfl⟩)
  unwatch_shut fd i h hs := .atOnce (congrArg Prod.fst (unwatch_shut hs fd)) (by
    rw [unwatch_shut hs]
    exact ⟨rfl, hs.faultless.record _, rfl⟩)
  wait_shut b timeout h hs := by
    have hcall : Facility.wait b timeout h = wait b timeout h := rfl
    rw [hcall, wait_shut hs]
    exact ⟨rfl, rfl, hs.faultless.record _, rfl⟩
  close_shut h hs := by
    have hcall : Facility.close h = close h := rfl
    rw [hcall, close, Handle.close, if_pos (handle_of_shut hs)]

end Epoll

/-! ### `kqueue` -/

namespace Kqueue

variable {h : Host Kqueue}

instance : Closable Kqueue where
  isClosed b := decide (b.handle = .closed)

theorem handle_of_shut (hs : h.Shut) : h.facility.handle = .closed := of_decide_eq_true hs.closed

/-- Without faults a change is not given up. -/
theorem change_faultless (hk : h.kernel.Faultless) (c : KqueueChange) :
    (change c h).1.isHalted = false ∧ (change c h).2.kernel.Faultless := by
  have hgoes := hk.keventChange h.facility.handle.fd c
  cases hc : h.kernel.keventChange h.facility.handle.fd c with
  | mk outcome k =>
      have hsystem : h.system (·.keventChange h.facility.handle.fd c) =
          (outcome, { h with kernel := k }) := by rw [Host.system, hc]
      rw [hc] at hgoes
      obtain ⟨hgoes, hk⟩ := hgoes
      rw [change, hsystem]
      cases outcome with
      | halted cause => cases hgoes
      | failed cause => dsimp only; split <;> exact ⟨rfl, hk⟩
      | done receipt => dsimp only; split <;> exact ⟨rfl, hk⟩

theorem change_shut (hs : h.Shut) (c : KqueueChange) : change c h =
    (.failed .badDescriptor, h.record (.keventChange (-1) c.fd c.filter c.flags c.tag)) := by
  rw [change, handle_of_shut hs, Host.system, hs.faultless.keventChange_closed]
  rfl

/-- The first filter is refused, and there is nothing to roll back. -/
theorem watch_shut (hs : h.Shut) (fd : Int32) (i : Interests) (t : Tag) :
    ∃ call, watch fd i t h = (.failed .badDescriptor, h.record call) := by
  obtain ⟨first, rest, hsplit⟩ : ∃ first rest, i.split = first :: rest := by
    cases i <;> exact ⟨_, _, rfl⟩
  refine ⟨.keventChange (-1) fd (filterFor first) (addFlag ||| receiptFlag) t, ?_⟩
  rw [watch, registerAll, hsplit, registerFrom, register, change_shut hs]
  rfl

/-- Once a deletion was refused, so is everything. -/
theorem unwatchEach_shut (hs : h.Shut) (fd : Int32) (singles : List Interests) :
    (unwatchEach fd singles (.failed .badDescriptor) h).1 = .failed .badDescriptor ∧
      h.Unmoved (unwatchEach fd singles (.failed .badDescriptor) h).2 := by
  induction singles generalizing h with
  | nil => exact ⟨rfl, rfl, hs.faultless, rfl⟩
  | cons i rest ih =>
      obtain ⟨hanswer, hfacility, hk, hentries⟩ := ih (hs.record
        (.keventChange (-1) fd (filterFor i) (deleteFlag ||| receiptFlag) ⟨0⟩))
      rw [unwatchEach, deregister, change_shut hs]
      exact ⟨hanswer, hfacility, hk, hentries⟩

theorem unwatch_shut (hs : h.Shut) (fd : Int32) (i : Interests) :
    (unwatch fd i h).1 = .failed .badDescriptor ∧ h.Unmoved (unwatch fd i h).2 := by
  obtain ⟨first, rest, hsplit⟩ : ∃ first rest, i.split = first :: rest := by
    cases i <;> exact ⟨_, _, rfl⟩
  obtain ⟨hanswer, hfacility, hk, hentries⟩ := unwatchEach_shut (hs.record
    (.keventChange (-1) fd (filterFor first) (deleteFlag ||| receiptFlag) ⟨0⟩)) fd rest
  rw [unwatch, hsplit, unwatchEach, deregister, change_shut hs]
  exact ⟨hanswer, hfacility, hk, hentries⟩

theorem wait_shut (hs : h.Shut) (b : NativeBuffer) (timeout : Option Duration) :
    wait b timeout h = (.returned (.failed .badDescriptor, b.clear),
      h.record (.keventWait (-1) (room b.capacity) (timeout.map Duration.timespec))) := by
  rw [wait, handle_of_shut hs, Host.systemWithin, Progress.within, hs.faultless.keventWait_closed]
  rfl

instance : LawfulClosable Kqueue where
  wait b timeout h := (Kernel.keventWait_faultless _ _ _).systemWithin (G := Host.Abides)
    Host.Abides.trans (fun _ _ hk => ⟨rfl, hk⟩) (fun _ => Host.Abides.refl) h
  watch_shut fd i t h hs := by
    obtain ⟨call, hw⟩ := watch_shut hs fd i t
    refine .atOnce (congrArg Prod.fst hw) ?_
    rw [hw]
    exact ⟨rfl, hs.faultless.record _, rfl⟩
  unwatch_shut fd i h hs := .atOnce (unwatch_shut hs fd i).1 (unwatch_shut hs fd i).2
  wait_shut b timeout h hs := by
    have hcall : Facility.wait b timeout h = wait b timeout h := rfl
    rw [hcall, wait_shut hs]
    exact ⟨rfl, rfl, hs.faultless.record _, rfl⟩
  close_shut h hs := by
    have hcall : Facility.close h = close h := rfl
    rw [hcall, close, Handle.close, if_pos (handle_of_shut hs)]

end Kqueue

/-! ### `poll` -/

namespace Poll

variable {h : Host Poll}

instance : Closable Poll where
  isClosed b := b.closed

/-- Watching, once the descriptor was checked. -/
def enter (fd : Int32) (i : Interests) (t : Tag) (h : Host Poll) :
    Outcome SystemError Unit × Host Poll :=
  if h.facility.closed then (.failed .badDescriptor, h)
  else
    match enlist fd i t h.facility.table with
    | .error cause => (.failed cause, h)
    | .ok table => (.done (), changeTable table h)

/-- Without faults the descriptor is refused, or it enters the table. -/
theorem watch_checked (hk : h.kernel.Faultless) (fd : Int32) (i : Interests) (t : Tag) :
    ∃ kernel : Kernel, kernel.Faultless ∧
      (watch fd i t h = (.failed .badDescriptor, { h with kernel }) ∨
        watch fd i t h = enter fd i t { h with kernel }) := by
  by_cases hfd : fd < 0
  · exact ⟨h.kernel, hk, .inl (by rw [watch, if_pos hfd])⟩
  · have hgoes := hk.getFlags fd
    cases hc : h.kernel.getFlags fd with
    | mk outcome kernel =>
        have hsystem : h.system (·.getFlags fd) = (outcome, { h with kernel }) := by
          rw [Host.system, hc]
        rw [hc] at hgoes
        obtain ⟨hgoes, hk⟩ := hgoes
        refine ⟨kernel, hk, ?_⟩
        rw [watch, if_neg hfd, hsystem]
        cases outcome with
        | halted cause => cases hgoes
        | failed cause => exact .inl rfl
        | done value => exact .inr rfl

theorem conclude_abides (snapshot : List PollEntry) (b : NativeBuffer) (timeout : Option Duration)
    (outcome : Outcome SystemError (List UInt16)) (h : Host Poll) :
    h.Abides (conclude snapshot b timeout outcome h).2 := by
  cases outcome <;> exact ⟨rfl, id⟩

theorem round_abides (b : NativeBuffer) (timeout : Option Duration) :
    Progress.Relates Host.Abides (round b timeout) := by
  intro h
  rw [round_eq]
  split
  · exact ⟨.refl h, nofun⟩
  · exact (Kernel.poll_faultless _ _).systemWithin (G := Host.Abides) Host.Abides.trans
      (fun _ _ hk => ⟨rfl, hk⟩) (conclude_abides _ _ _) h

theorem settle_abides (timeout : Option Duration) (fuel : Nat) (b : NativeBuffer) (h : Host Poll) :
    h.Abides (settle timeout fuel b h).2 := by
  induction fuel generalizing b h with
  | zero => exact .refl h
  | succ fuel ih =>
      have hround := (round_abides b timeout).alone Host.Abides.trans h
      unfold settle
      split
      · rename_i hp
        rwa [hp] at hround
      · rename_i hp
        rw [hp] at hround
        exact hround.trans (ih _ _)

theorem wait_shut (hs : h.Shut) (b : NativeBuffer) (timeout : Option Duration) :
    wait b timeout h = (.returned (.failed .badDescriptor, b.clear), h) := by
  rw [wait, round, if_pos (show h.facility.closed = true from hs.closed)]
  rfl

instance : LawfulClosable Poll where
  wait b timeout := (round_abides b timeout).andThen Host.Abides.trans fun result h => by
    obtain ⟨outcome | _, b⟩ := result
    · exact .refl h
    · exact settle_abides ..
  watch_shut fd i t h hs := by
    obtain ⟨kernel, hk, hw⟩ := watch_checked hs.faultless fd i t
    have hrefused : watch fd i t h = (.failed .badDescriptor, { h with kernel }) := by
      rcases hw with hw | hw
      · exact hw
      · exact hw.trans (if_pos hs.closed)
    refine .atOnce (congrArg Prod.fst hrefused) ?_
    rw [hrefused]
    exact ⟨rfl, hk, rfl⟩
  unwatch_shut fd i h hs := by
    have hrefused : unwatch fd i h = (.failed .badDescriptor, h) := if_pos hs.closed
    refine .atOnce (congrArg Prod.fst hrefused) ?_
    rw [hrefused]
    exact ⟨rfl, hs.faultless, rfl⟩
  wait_shut b timeout h hs := by
    have hcall : Facility.wait b timeout h = wait b timeout h := rfl
    rw [hcall, wait_shut hs]
    exact ⟨rfl, rfl, hs.faultless, rfl⟩
  close_shut h hs := if_pos hs.closed

end Poll

end Readiness
