import Readiness.Proofs.ClosedFacilities
import Readiness.Proofs.Scenes

/-! # Closed facilities, turn by turn

* **Without faults** no turn of a call opens the facility or closes it, apart from those of closing,
  and no change is given up.  The turns of a wait leave the registrations alone.
* **Closing** shuts the facility in its first turn.
* **Calls of a closed facility** (`ClosableTurns`).  A call that is made when the facility is closed is
  refused, and nothing comes of any of its turns.  A call that was made before may find that out in a
  later turn, or not at all: watching with `poll` looks only once whether the facility was closed, and
  changes the table afterwards. -/

namespace Readiness

open Closable

/-- What a call does in each of its parts, it does also in combination. -/
theorem Progress.Relates.and {σ ρ : Type} {R R' : σ → σ → Prop} {call : σ → Progress σ ρ × σ}
    (h : Relates R call) (h' : Relates R' call) : Relates (fun s t => R s t ∧ R' s t) call :=
  fun s => ⟨⟨(h s).1, (h' s).1⟩, fun resume he t => ⟨(h s).2 resume he t, (h' s).2 resume he t⟩⟩

/-- A system call does to the host what it does to the kernel. -/
theorem Strand.Does.of_relates {β ρ α γ : Type} {K : Kernel → Kernel → Prop}
    {R : Host β → Host β → Prop} {Q : Host β → Prop} {P : γ → Prop}
    {call : Kernel → Progress Kernel ρ × Kernel} {see : Host β → α}
    {k : ρ → α → Strand (Host β) γ} (h : Progress.Relates K call)
    (hR : ∀ (g : Host β) (kernel : Kernel), K g.kernel kernel → R g { g with kernel })
    (hk : ∀ r a, (k r a).Does Q R P) : (Strand.system call see k).Does Q R P :=
  .system (fun g _ => hR g _ (h g.kernel).1) (fun _ _ _ _ => hk _ _)
    fun g resume _ hp g' _ => ⟨hR g' _ ((h g.kernel).2 resume hp g'.kernel), hk _ _⟩

/-- A facility whose closing shuts it, and that refuses everything then. -/
class ClosableTurns (β : Type) [Registry β] [Closable β] [Turns β] : Prop where
  watch : ∀ (fd : Int32) (i : Interests) (t : Tag) (h : Host β),
    (Turns.watch fd i t h).Does (·.kernel.Faultless) Host.Abides (·.isHalted = false)
  unwatch : ∀ (fd : Int32) (i : Interests) (h : Host β),
    (Turns.unwatch fd i h).Does (·.kernel.Faultless) Host.Abides (·.isHalted = false)
  wait : ∀ (b : NativeBuffer) (timeout : Option Duration) (h : Host β),
    (Turns.wait b timeout h).Does (fun _ => True)
      (fun g g' => g.Abides g' ∧ g'.entries = g.entries) fun _ => True
  close : ∃ next after, Turns.close (β := β) = .turn next after ∧
    ∀ h : Host β, h.kernel.Faultless → (after h).Shut ∧
      (next h).Does (·.kernel.Faultless) Host.Abides fun _ => True
  watch_shut : ∀ (fd : Int32) (i : Interests) (t : Tag) (h : Host β), h.Shut →
    (Turns.watch fd i t h).Does Host.Shut Host.Unmoved (· = .failed .badDescriptor)
  unwatch_shut : ∀ (fd : Int32) (i : Interests) (h : Host β), h.Shut →
    (Turns.unwatch fd i h).Does Host.Shut Host.Unmoved (· = .failed .badDescriptor)
  wait_shut : ∀ (b : NativeBuffer) (timeout : Option Duration) (h : Host β), h.Shut →
    (Turns.wait b timeout h).Does Host.Shut Host.Unmoved
      fun r => ∃ b', r = (some (.failed .badDescriptor), b')

/-! ### Facilities with a handle -/

section

variable {β ρ α γ : Type} [Closable β]

/-- Closing takes the handle away, which shuts the facility, and then closes it. -/
theorem Strand.closeHandle_turns {take : Host β → Handle × Host β}
    (htake : ∀ h : Host β, h.kernel.Faultless → (take h).2.Shut) :
    ∃ next after, Strand.closeHandle take = .turn next after ∧
      ∀ h : Host β, h.kernel.Faultless → (after h).Shut ∧
        (next h).Does (·.kernel.Faultless) Host.Abides fun _ => True := by
  refine ⟨_, _, rfl, fun h hk => ⟨htake h hk, ?_⟩⟩
  dsimp only
  split
  · trivial
  · exact .act (fun g _ => ⟨rfl, fun hk => (hk.closeHandle _).2⟩) fun _ _ => trivial

/-- A system call that is refused by every kernel without faults does nothing. -/
theorem Strand.Does.of_refused [Registry β] {P : γ → Prop} {answer : ρ} {made : SystemCall}
    {call : Kernel → Progress Kernel ρ × Kernel} {see : Host β → α}
    {k : ρ → α → Strand (Host β) γ}
    (hcall : ∀ kernel : Kernel, kernel.Faultless →
      call kernel = (.returned answer, kernel.record made))
    (hentries : ∀ g : Host β, Host.entries { g with kernel := g.kernel.record made } = g.entries)
    (hk : ∀ a, (k answer a).Does Host.Shut Host.Unmoved P) :
    (Strand.system call see k).Does Host.Shut Host.Unmoved P := by
  refine .system (fun g hg => ?_) (fun g r hg hr => ?_) fun g resume hg hr => ?_
  · rw [hcall _ hg.faultless]
    exact ⟨rfl, hg.faultless.record _, hentries g⟩
  · rw [hcall _ hg.faultless] at hr
    obtain rfl := Progress.returned.inj hr
    exact hk _
  · rw [hcall _ hg.faultless] at hr
    cases hr

end

/-! ### `epoll` -/

namespace Epoll

instance : ClosableTurns Epoll where
  watch _ _ _ _ := .act (fun _ _ => ⟨rfl, fun hk => (hk.epollAdd ..).2⟩)
    fun _ hk => (hk.epollAdd ..).1
  unwatch _ _ _ := .act (fun _ _ => ⟨rfl, fun hk => (hk.epollDelete ..).2⟩)
    fun _ hk => (hk.epollDelete ..).1
  wait _ _ _ := .of_relates
    (K := fun k k' => (k.Faultless → k'.Faultless) ∧ k'.epollRegistrations = k.epollRegistrations)
    ((Kernel.epollWait_faultless _ _ _).and (Kernel.keeps_epollWait _ _ _))
    (fun _ _ hk => ⟨⟨rfl, hk.1⟩, hk.2⟩) fun _ _ => trivial
  close := Strand.closeHandle_turns fun _ hk => ⟨hk, rfl⟩
  watch_shut fd i t h hs := by
    have hturns : Turns.watch fd i t h = watchTurns h.facility.handle fd i t := rfl
    rw [hturns, handle_of_shut hs]
    refine .act (fun g hg => ?_) fun g hg => ?_
    · rw [Host.system, hg.faultless.epollAdd_closed]
      exact ⟨rfl, hg.faultless.record _, rfl⟩
    · rw [Host.system, hg.faultless.epollAdd_closed]
      rfl
  unwatch_shut fd i h hs := by
    have hturns : Turns.unwatch fd i h = unwatchTurns h.facility.handle fd := rfl
    rw [hturns, handle_of_shut hs]
    refine .act (fun g hg => ?_) fun g hg => ?_
    · rw [Host.system, hg.faultless.epollDelete_closed]
      exact ⟨rfl, hg.faultless.record _, rfl⟩
    · rw [Host.system, hg.faultless.epollDelete_closed]
      rfl
  wait_shut b timeout h hs := by
    have hturns : Turns.wait b timeout h = waitTurns h.facility.handle b timeout := rfl
    rw [hturns, handle_of_shut hs]
    exact .of_refused (fun _ hk => hk.epollWait_closed _ _) (fun _ => rfl) fun _ => ⟨_, rfl⟩

end Epoll

/-! ### `kqueue` -/

namespace Kqueue

/-- Without faults a change with any handle is not given up. -/
theorem changeWith_faultless (handle : Handle) (c : KqueueChange) {h : Host Kqueue}
    (hk : h.kernel.Faultless) :
    h.Abides (changeWith handle c h).2 ∧ (changeWith handle c h).1.isHalted = false := by
  obtain ⟨hgoes, hk⟩ := change_faultless (h := { h with facility := ⟨handle⟩ }) hk c
  exact ⟨⟨rfl, fun _ => hk⟩, hgoes⟩

theorem undo_faultless (handle : Handle) (fd : Int32) (t : Tag) (i : Interests) {h : Host Kqueue}
    (hk : h.kernel.Faultless) :
    let r := undo (deregisterWith handle fd t)
      (fun single cause h => h.note (.rollbackFailed single cause)) i h
    h.Abides r.2 ∧ r.1.isHalted = false := by
  have hdelete : h.Abides (deregisterWith handle fd t i h).2 ∧
      (deregisterWith handle fd t i h).1.isHalted = false := changeWith_faultless handle _ hk
  dsimp only [undo]
  split
  · rename_i hd
    rw [hd] at hdelete
    exact ⟨⟨hdelete.1.closed, hdelete.1.faultless⟩, rfl⟩
  · exact hdelete

/-- A change with the number that is left of a handle is refused. -/
theorem changeWith_closed (c : KqueueChange) {h : Host Kqueue} (hs : h.Shut) :
    changeWith .closed c h =
      (.failed .badDescriptor, h.record (.keventChange (-1) c.fd c.filter c.flags c.tag)) := by
  rw [changeWith_self c (handle_of_shut hs), change_shut hs]

theorem unmoved_changeWith_closed (c : KqueueChange) {h : Host Kqueue} (hs : h.Shut) :
    h.Unmoved (changeWith .closed c h).2 := by
  rw [changeWith_closed c hs]
  exact ⟨rfl, hs.faultless.record _, rfl⟩

/-- Once a deletion was refused, so is everything. -/
theorem unwatchTurns_closed (fd : Int32) (singles : List Interests) :
    (unwatchTurns .closed fd singles (.failed .badDescriptor)).Does Host.Shut Host.Unmoved
      (· = .failed .badDescriptor) := by
  induction singles with
  | nil => rfl
  | cons i rest ih =>
      refine .act (fun g hg => unmoved_changeWith_closed _ hg) fun g hg => ?_
      rw [deregisterWith, changeWith_closed _ hg]
      exact ih

instance : ClosableTurns Kqueue where
  watch fd i t h := does_registerTurns (P := (·.isHalted = false))
    (registerWith h.facility.handle fd t) (deregisterWith h.facility.handle fd t)
    (fun single cause h => h.note (.rollbackFailed single cause))
    (fun i g hg => (changeWith_faultless _ _ hg).imp id fun hgoes cause he => he ▸ hgoes)
    (fun i g hg => (undo_faultless _ fd t i hg).imp id fun hgoes cause he => he ▸ hgoes)
    rfl (fun _ => rfl) [] i.split
  unwatch fd i h := does_unwatchTurns (P := (·.isHalted = false))
    (fun i g hg => (changeWith_faultless _ _ hg).imp id fun hgoes cause he => he ▸ hgoes)
    (fun _ => rfl) i.split rfl
  wait _ _ _ := .of_relates
    (K := fun k k' => (k.Faultless → k'.Faultless) ∧ k'.kqueueRegistrations = k.kqueueRegistrations)
    ((Kernel.keventWait_faultless _ _ _).and (keeps_keventWait _ _ _))
    (fun _ _ hk => ⟨⟨rfl, hk.1⟩, hk.2⟩) fun _ _ => trivial
  close := Strand.closeHandle_turns fun _ hk => ⟨hk, rfl⟩
  watch_shut fd i t h hs := by
    have hturns : Turns.watch fd i t h = watchTurns h.facility.handle fd i t := rfl
    obtain ⟨first, rest, hsplit⟩ : ∃ first rest, i.split = first :: rest := by
      cases i <;> exact ⟨_, _, rfl⟩
    rw [hturns, handle_of_shut hs, watchTurns, hsplit]
    refine .act (fun g hg => unmoved_changeWith_closed _ hg) fun g hg => ?_
    rw [registerWith, changeWith_closed _ hg]
    rfl
  unwatch_shut fd i h hs := by
    have hturns : Turns.unwatch fd i h =
      unwatchTurns h.facility.handle fd i.split (.done ()) := rfl
    obtain ⟨first, rest, hsplit⟩ : ∃ first rest, i.split = first :: rest := by
      cases i <;> exact ⟨_, _, rfl⟩
    rw [hturns, handle_of_shut hs, hsplit]
    refine .act (fun g hg => unmoved_changeWith_closed _ hg) fun g hg => ?_
    rw [deregisterWith, changeWith_closed _ hg]
    exact unwatchTurns_closed fd rest
  wait_shut b timeout h hs := by
    have hturns : Turns.wait b timeout h = waitTurns h.facility.handle b timeout := rfl
    rw [hturns, handle_of_shut hs]
    exact .of_refused (fun _ hk => hk.keventWait_closed _ _) (fun _ => rfl) fun _ => ⟨_, rfl⟩

end Kqueue

/-! ### `poll` -/

namespace Poll

/-- Closing sets the flag, and then empties the table. -/
theorem close_turns : ∃ next after, Turns.close (β := Poll) = .turn next after ∧
    ∀ h : Host Poll, h.kernel.Faultless → (after h).Shut ∧
      (next h).Does (·.kernel.Faultless) Host.Abides fun _ => True := by
  refine ⟨_, _, rfl, fun h hk => ⟨⟨hk, rfl⟩, ?_⟩⟩
  dsimp only
  cases h.facility.closed with
  | true => trivial
  | false => exact .act (fun g _ => ⟨rfl, id⟩) fun _ _ => trivial

/-- Others may close the facility between the turns, and the table is changed all the same. -/
theorem does_watchTurns (fd : Int32) (i : Interests) (t : Tag) :
    (watchTurns fd i t).Does (·.kernel.Faultless) Host.Abides (·.isHalted = false) := by
  unfold watchTurns
  split
  · rfl
  refine .act (fun g _ => ⟨rfl, fun hk => (hk.getFlags fd).2⟩) fun g hg => ?_
  have hgoes : (g.system (·.getFlags fd)).1.isHalted = false := (hg.getFlags fd).1
  cases hc : (g.system (·.getFlags fd)).1 with
  | halted cause =>
      rw [hc] at hgoes
      cases hgoes
  | failed cause => rfl
  | done value =>
      refine .look (fun g _ => .refl g) fun g _ => ?_
      cases g.facility.closed with
      | true => rfl
      | false =>
          refine .act (fun g _ => ?_) fun g _ => ?_
          · split <;> exact ⟨rfl, id⟩
          · split
            · rfl
            · exact .act (fun _ _ => ⟨rfl, id⟩) fun _ _ => rfl

theorem does_unwatchTurns (fd : Int32) (i : Interests) :
    (unwatchTurns fd i).Does (·.kernel.Faultless) Host.Abides (·.isHalted = false) := by
  refine .act (fun g _ => ?_) fun g _ => ?_
  · split <;> exact ⟨rfl, id⟩
  · split
    · rfl
    · refine .act (fun _ _ => ⟨rfl, id⟩) fun _ _ => ?_
      split <;> rfl

theorem does_concludeTurns (snapshot : List PollEntry) (b : NativeBuffer)
    (timeout : Option Duration) (outcome : Outcome SystemError (List UInt16)) (woken : Bool) :
    (concludeTurns snapshot b timeout outcome woken).Does (fun _ => True)
      (fun g g' => g.Abides g' ∧ g'.entries = g.entries) fun _ => True := by
  cases outcome with
  | halted cause | failed cause => trivial
  | done results =>
      cases woken with
      | true =>
          rw [concludeTurns, if_pos rfl]
          exact .act (fun _ _ => ⟨⟨rfl, id⟩, rfl⟩) fun _ _ => trivial
      | false => trivial

instance : ClosableTurns Poll where
  watch fd i t _ := does_watchTurns fd i t
  unwatch fd i h := by
    have hturns : Turns.unwatch fd i h =
        if h.facility.closed then .returned (.failed .badDescriptor) else unwatchTurns fd i := rfl
    rw [hturns]
    split
    · rfl
    · exact does_unwatchTurns fd i
  wait b timeout h := by
    have hturns : Turns.wait b timeout h =
        if h.facility.closed then .returned (some (.failed .badDescriptor), b.clear)
        else roundTurns b.clear timeout := rfl
    rw [hturns]
    split
    · trivial
    · exact .look (fun g _ => ⟨.refl g, rfl⟩) fun g _ =>
        .of_relates (Kernel.poll_faultless _ _) (fun _ _ hk => ⟨⟨rfl, hk⟩, rfl⟩) fun _ _ =>
          does_concludeTurns ..
  close := close_turns
  watch_shut fd i t h _ := by
    have hturns : Turns.watch fd i t h = watchTurns fd i t := rfl
    rw [hturns]
    unfold watchTurns
    split
    · rfl
    refine .act (fun g hg => ⟨rfl, (hg.faultless.getFlags fd).2, rfl⟩) fun g hg => ?_
    have hgoes : (g.system (·.getFlags fd)).1.isHalted = false := (hg.faultless.getFlags fd).1
    cases hc : (g.system (·.getFlags fd)).1 with
    | halted cause =>
        rw [hc] at hgoes
        cases hgoes
    | failed cause => rfl
    | done value =>
        -- now the flag is looked at, and it was set before the call was made
        refine .look (fun g hg => ⟨rfl, hg.faultless, rfl⟩) fun g hg => ?_
        rw [show g.facility.closed = true from hg.closed]
        rfl
  unwatch_shut fd i h hs := by
    have hrefused : Turns.unwatch fd i h = .returned (.failed .badDescriptor) := if_pos hs.closed
    rw [hrefused]
    rfl
  wait_shut b timeout h hs := by
    have hrefused : Turns.wait b timeout h =
        .returned (some (.failed .badDescriptor), b.clear) := if_pos hs.closed
    rw [hrefused]
    exact ⟨_, rfl⟩

end Poll

end Readiness
