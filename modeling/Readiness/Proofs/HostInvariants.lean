import Readiness.Proofs.Registry

/-! # What the calls of a facility never undo

A property of the host that no call of the facility undoes, and the world does not undo either, holds
in every run.

* **Calls** (`Progress.Preserves`).  A call preserves a property if it does so before others run
  inside, and after that from whatever they left with the property.
* **Relations** (`Progress.Relates`).  What a call does may also be said as a relation between the
  state before a part of it and the one after.
* **Facilities** (`Preserved`).  All calls of the facility preserve it, and writing to the log does.
* **Runs** (`Moment.Maintains.run`).  The invariant says it of the host and of the calls that wait
  inside the system. -/

namespace Readiness

namespace Progress

variable {σ ρ γ : Type} {Q : σ → Prop} {call : σ → Progress σ ρ × σ}

/-- The rest of a call preserves a property. -/
def Rests (Q : σ → Prop) : Progress σ ρ → Prop
  | returned _ => True
  | inside resume => ∀ t, Q t → Q (resume t).2

/-- A call never undoes a property. -/
def Preserves (Q : σ → Prop) (call : σ → Progress σ ρ × σ) : Prop :=
  ∀ s, Q s → Q (call s).2 ∧ Rests Q (call s).1

theorem Preserves.atOnce {f : σ → ρ × σ} (h : ∀ s, Q s → Q (f s).2) :
    Preserves Q (Progress.atOnce f) := fun s hs => ⟨h s hs, trivial⟩

theorem Preserves.alone (h : Preserves Q call) {s : σ} (hs : Q s) :
    Q (Progress.alone (call s)).2 := by
  obtain ⟨hcall, hrest⟩ := h s hs
  cases hp : call s with
  | mk p t =>
      rw [hp] at hcall hrest
      cases p with
      | returned r => exact hcall
      | inside resume => exact hrest t hcall

theorem Preserves.andThen {k : ρ → σ → γ × σ} (h : Preserves Q call)
    (hk : ∀ r s, Q s → Q (k r s).2) : Preserves Q fun s => Progress.andThen k (call s) := by
  intro s hs
  obtain ⟨hcall, hrest⟩ := h s hs
  dsimp only
  cases hp : call s with
  | mk p t =>
      rw [hp] at hcall hrest
      cases p with
      | returned r => exact ⟨hk r t hcall, trivial⟩
      | inside resume => exact ⟨hcall, fun u hu => hk _ _ (hrest u hu)⟩

/-- A system call preserves what it preserves of the kernel. -/
theorem Preserves.systemWithin {β ρ' : Type} {R : Kernel → Prop} {G : Host β → Prop}
    {call : Kernel → Progress Kernel ρ × Kernel} {k : ρ → Host β → ρ' × Host β}
    (h : Preserves R call) (hR : ∀ g, G g → R g.kernel)
    (hG : ∀ (g : Host β) (kernel : Kernel), G g → R kernel → G { g with kernel })
    (hk : ∀ r g, G g → G (k r g).2) : Preserves G (Host.systemWithin call k) := by
  intro g hg
  obtain ⟨hcall, hrest⟩ := h g.kernel (hR g hg)
  unfold Host.systemWithin Progress.within
  cases hp : call g.kernel with
  | mk p t =>
      rw [hp] at hcall hrest
      cases p with
      | returned r => exact ⟨hk r _ (hG g t hg hcall), trivial⟩
      | inside resume =>
          exact ⟨hG g t hg hcall, fun u hu => hk _ _ (hG u _ hu (hrest u.kernel (hR u hu)))⟩

/-! ### What a call may do -/

section

variable {σ ρ γ : Type} {R : σ → σ → Prop} {call : σ → Progress σ ρ × σ}

/-- A call that only does to a state what a relation says, before others run inside and after. -/
def Relates (R : σ → σ → Prop) (call : σ → Progress σ ρ × σ) : Prop :=
  ∀ s, R s (call s).2 ∧ ∀ resume, (call s).1 = .inside resume → ∀ t, R t (resume t).2

theorem Relates.atOnce {f : σ → ρ × σ} (h : ∀ s, R s (f s).2) : Relates R (Progress.atOnce f) :=
  fun s => ⟨h s, nofun⟩

theorem Relates.alone (h : Relates R call) (trans : ∀ {s t u}, R s t → R t u → R s u) (s : σ) :
    R s (Progress.alone (call s)).2 := by
  obtain ⟨hcall, hrest⟩ := h s
  cases hp : call s with
  | mk p t =>
      rw [hp] at hcall hrest
      cases p with
      | returned r => exact hcall
      | inside resume => exact trans hcall (hrest resume rfl t)

theorem Relates.andThen {k : ρ → σ → γ × σ} (h : Relates R call)
    (trans : ∀ {s t u}, R s t → R t u → R s u) (hk : ∀ r s, R s (k r s).2) :
    Relates R fun s => Progress.andThen k (call s) := by
  intro s
  obtain ⟨hcall, hrest⟩ := h s
  dsimp only
  cases hp : call s with
  | mk p t =>
      rw [hp] at hcall hrest
      cases p with
      | returned r => exact ⟨trans hcall (hk r t), nofun⟩
      | inside resume =>
          refine ⟨hcall, fun resume' he u => ?_⟩
          obtain rfl := Progress.inside.inj he
          exact trans (hrest resume rfl u) (hk _ _)

/-- A system call does to the host what it does to the kernel. -/
theorem Relates.systemWithin {β ρ' : Type} {K : Kernel → Kernel → Prop}
    {G : Host β → Host β → Prop} {system : Kernel → Progress Kernel ρ × Kernel}
    {k : ρ → Host β → ρ' × Host β} (h : Relates K system)
    (trans : ∀ {g g₁ g₂}, G g g₁ → G g₁ g₂ → G g g₂)
    (hG : ∀ (g : Host β) (kernel : Kernel), K g.kernel kernel → G g { g with kernel })
    (hk : ∀ r g, G g (k r g).2) : Relates G (Host.systemWithin system k) := by
  intro g
  obtain ⟨hcall, hrest⟩ := h g.kernel
  unfold Host.systemWithin Progress.within
  cases hp : system g.kernel with
  | mk p t =>
      rw [hp] at hcall hrest
      cases p with
      | returned r => exact ⟨trans (hG g t hcall) (hk r _), nofun⟩
      | inside resume =>
          refine ⟨hG g t hcall, fun resume' he u => ?_⟩
          obtain rfl := Progress.inside.inj he
          exact trans (hG u _ (hrest resume rfl u.kernel)) (hk _ _)

end

end Progress

/-- A system call that obeys its verdict preserves what it preserves when it passes. -/
theorem Kernel.obey_preserves {α : Type} {R : Kernel → Prop} {name : CallName}
    {act : Kernel → Outcome SystemError α × Kernel}
    (hverdicts : ∀ (k : Kernel) (verdicts : List (CallName × Verdict)), R k → R { k with verdicts })
    (hact : ∀ k, R k → R (act k).2) (k : Kernel) (hk : R k) : R (k.obey name act).2 := by
  have h : k.obey name act = ((k.obey name act).1, (k.obey name act).2) := rfl
  obtain ⟨verdicts, he | ⟨he, -⟩⟩ := obey_eq h
  · rw [← congrArg Prod.snd he]
    exact hact _ (hverdicts k verdicts hk)
  · rw [he]
    exact hverdicts k verdicts hk

/-- No call of the facility undoes a property of the host. -/
structure Preserved {β : Type} [Facility β] (Q : Host β → Prop) : Prop where
  /-- It is a property of the facility and the kernel. -/
  native : ∀ h h' : Host β, h'.facility = h.facility → h'.kernel = h.kernel → Q h → Q h'
  watch : ∀ fd i t, Progress.Preserves Q (Facility.watch fd i t)
  unwatch : ∀ fd i, Progress.Preserves Q (Facility.unwatch fd i)
  wait : ∀ b timeout, Progress.Preserves Q (Facility.wait b timeout)
  close : ∀ h, Q h → Q (Facility.close h).2

variable {β : Type} {Q : Host β → Prop}

theorem Preserved.note [Facility β] (hQ : Preserved Q) {h : Host β} (entry : LogEntry) (hq : Q h) :
    Q (h.note entry) := hQ.native h _ rfl rfl hq

theorem Preserved.destroy [Facility β] (hQ : Preserved Q) {s : WatchSet β} (h : Q s.host) :
    Q s.destroy.2.host := by
  have hclose := hQ.close _ (hQ.note .destroying h)
  rw [WatchSet.destroy]
  split
  · exact h
  · dsimp only [WatchSet.note]
    split
    · rename_i hc
      rwa [hc] at hclose
    · rename_i hc
      rw [hc] at hclose
      exact hQ.note _ hclose
    · rename_i hc
      rwa [hc] at hclose

namespace Moment

/-- A property holds of the host, and the calls that wait inside the system preserve it. -/
structure Maintains (Q : Host β → Prop) (m : Moment β) : Prop where
  host : Q m.set.host
  change : ∀ c p, m.change = some (c, .made p) → p.Rests Q
  poll : ∀ p r, m.poll = some p → p.stage = .made r → r.Rests Q

variable {m m' : Moment β} {a : Label β} {L : List (Label β)}

theorem maintains_start {host : Host β} (h : Q host) (capacity : Nat) (threadSafe : Bool) :
    (start host capacity threadSafe).Maintains Q := ⟨h, nofun, nofun⟩

variable [Facility β] {W : Host β → Host β → Prop}

theorem Maintains.step (hQ : Preserved Q) (hW : ∀ h h', W h h' → Q h → Q h')
    (h : m.Maintains Q) (hs : Step W m a m') : m'.Maintains Q := by
  cases hs with
  | world hw => exact ⟨hW _ _ hw h.host, h.change, h.poll⟩
  | refuseAdd | refuseRemove | refusePoll => exact ⟨hQ.note _ h.host, h.change, h.poll⟩
  | beginAdd d i id hb =>
      obtain ⟨-, -, -, roster, -, rfl⟩ := WatchSet.beginAdd_eq_ok hb
      exact ⟨hQ.note _ h.host, nofun, h.poll⟩
  | beginRemove d hb =>
      obtain ⟨-, -, -, rfl⟩ := WatchSet.beginRemove_eq_ok hb
      exact ⟨hQ.note _ h.host, nofun, h.poll⟩
  | @callChange c p host hc hp =>
      have hcall : Q host ∧ p.Rests Q := by
        have : Progress.Preserves Q c.call := by
          cases c with
          | adding x => exact hQ.watch _ _ _
          | removing d i found => exact hQ.unwatch _ _
        have := this _ h.host
        rwa [hp] at this
      refine ⟨hcall.1, ?_, h.poll⟩
      rintro c' p' ⟨⟩
      exact hcall.2
  | resumeChange hc hp =>
      refine ⟨?_, ?_, h.poll⟩
      · have := h.change _ _ hc _ h.host
        rwa [hp] at this
      · rintro c' p' ⟨⟩
        trivial
  | endChange hc =>
      obtain ⟨hfacility, hkernel⟩ := WatchSet.host_of_native (Change.native_finish ..)
      exact ⟨hQ.native _ _ hfacility hkernel h.host, nofun, h.poll⟩
  | beginPoll timeout hb =>
      obtain ⟨-, -, -, rfl⟩ := WatchSet.beginPoll_eq_ok hb
      refine ⟨hQ.note _ h.host, h.change, ?_⟩
      rintro p r ⟨⟩ ⟨⟩
  | @callWait serial marker timeout p host hp hw =>
      have hcall := hQ.wait m.set.buffer.value timeout _ h.host
      rw [hw] at hcall
      refine ⟨hcall.1, h.change, ?_⟩
      rintro p' r ⟨⟩ ⟨⟩
      exact hcall.2
  | resumeWait hp hw =>
      refine ⟨?_, h.change, ?_⟩
      · have := h.poll _ _ hp rfl _ h.host
        rwa [hw] at this
      · rintro p' r ⟨⟩ ⟨⟩
        trivial
  | endPoll hp he =>
      obtain ⟨hfacility, hkernel⟩ := WatchSet.host_of_native (WatchSet.finishPoll_eq he).1
      exact ⟨hQ.native _ _ hfacility hkernel h.host, h.change, nofun⟩
  | destroy => exact ⟨hQ.destroy h.host, h.change, h.poll⟩

theorem Maintains.run (hQ : Preserved Q) (hW : ∀ h h', W h h' → Q h → Q h')
    (h : m.Maintains Q) (hr : Run W m L m') : m'.Maintains Q := by
  induction hr with
  | refl m => exact h
  | step hs _ ih => exact ih (h.step hQ hW hs)

end Moment

end Readiness
