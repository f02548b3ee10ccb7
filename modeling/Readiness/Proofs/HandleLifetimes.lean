import Readiness.Proofs.FilterLoops
import Readiness.Proofs.Scenes

/-! # The lifetime of a handle

A facility in the kernel opens a handle, uses it, and closes it.  Closing may be asked for by
destroying the set, any number of times and while other calls are in progress, and once more at the
end of the set's life.

* **Calls with a handle** (`SystemCall.handle?`).  A call of the facility makes its system calls with
  the handle that it found when it was made, and none of them closes anything (`Host.Uses`).
* **Holding** (`Scene.Holding`).  The facility has its handle, or destroying has taken it and is about
  to close it, or it was closed.
* **Lives** (`Life`).  Opening a facility may fail or be given up, or the set is refused for want of
  room (`Stillborn`), or the set lives through a run and is disposed of when no call is in progress.

`Scene.Holding` is kept by every step, so a life closes its handle once (`Life.closes_once`).  After
that the handle is used only by calls that had found it before (`Lives.uses_closed`): a call that is
made later finds that it is gone.  A call that was made before may go on with a handle that has been
closed meanwhile (`closed_handle_is_used`). -/

namespace Readiness

namespace SystemCall

/-- The handle that a call is made with. -/
def handle? : SystemCall → Option Int32
  | closeHandle handle => some handle
  | closeOnExec handle => some handle
  | epollAdd handle .. => some handle
  | epollDelete handle _ => some handle
  | epollWait handle .. => some handle
  | keventChange handle .. => some handle
  | keventWait handle .. => some handle
  | _ => none

/-- The call closes a handle. -/
def isClose : SystemCall → Bool
  | closeHandle _ => true
  | _ => false

end SystemCall

/-- A handle is closed once, and no other one is closed. -/
def ClosedOnce (n : Int32) (C : List SystemCall) : Prop :=
  ∃ C₁ C₂, C = C₁ ++ .closeHandle n :: C₂ ∧ (∀ c ∈ C₁, c.isClose = false) ∧
    ∀ c ∈ C₂, c.isClose = false

theorem ClosedOnce.append {n : Int32} {C C' : List SystemCall} (h : ClosedOnce n C)
    (hmore : ∀ c ∈ C', c.isClose = false) : ClosedOnce n (C ++ C') := by
  obtain ⟨C₁, C₂, rfl, hbefore, hafter⟩ := h
  refine ⟨C₁, C₂ ++ C', by simp, hbefore, fun c hc => ?_⟩
  rcases List.mem_append.mp hc with hc | hc
  · exact hafter c hc
  · exact hmore c hc

/-- A handle is closed once, no other one is closed, and no call is made with it afterwards. -/
def ClosedLast (n : Int32) (C : List SystemCall) : Prop :=
  ∃ C₁ C₂, C = C₁ ++ .closeHandle n :: C₂ ∧ (∀ c ∈ C₁, c.isClose = false) ∧
    ∀ c ∈ C₂, c.isClose = false ∧ c.handle? ≠ some n

theorem ClosedLast.once {n : Int32} {C : List SystemCall} (h : ClosedLast n C) : ClosedOnce n C := by
  obtain ⟨C₁, C₂, hC, hbefore, hafter⟩ := h
  exact ⟨C₁, C₂, hC, hbefore, fun c hc => (hafter c hc).1⟩

/-- The last call is not made with the handle, if it is not the one that closes it. -/
theorem ClosedLast.handle?_ne {n : Int32} {C : List SystemCall} {c : SystemCall}
    (h : ClosedLast n (C ++ [c])) (hc : c.isClose = false) : c.handle? ≠ some n := by
  obtain ⟨C₁, C₂, hC, -, hafter⟩ := h
  rcases List.eq_nil_or_concat C₂ with rfl | ⟨C₃, b, rfl⟩
  · obtain rfl := List.singleton_inj.mp (List.append_inj_right' hC rfl)
    cases hc
  · rw [List.concat_eq_append, ← List.cons_append, ← List.append_assoc] at hC
    obtain rfl := List.singleton_inj.mp (List.append_inj_right' hC rfl)
    exact (hafter _ (by simp)).2

/-! ### Calls on the kernel -/

namespace Kernel

theorem calls_obey {α : Type} {name : CallName} {act : Kernel → Outcome SystemError α × Kernel}
    (hact : ∀ k, (act k).2.calls = k.calls) (k : Kernel) : (k.obey name act).2.calls = k.calls :=
  obey_keeps (fun _ _ => rfl) hact k

theorem calls_epollCreate (k : Kernel) : k.epollCreate.2.calls = k.calls.push .epollCreate :=
  calls_obey (fun _ => rfl) (k.record .epollCreate)

theorem calls_kqueue (k : Kernel) : k.kqueue.2.calls = k.calls.push .kqueue :=
  calls_obey (fun _ => rfl) (k.record .kqueue)

theorem calls_closeOnExec (k : Kernel) (handle : Int32) :
    (k.closeOnExec handle).2.calls = k.calls.push (.closeOnExec handle) := by
  refine calls_obey (fun k => ?_) (k.record (.closeOnExec handle))
  split <;> rfl

theorem calls_closeHandle (k : Kernel) (handle : Int32) :
    (k.closeHandle handle).2.calls = k.calls.push (.closeHandle handle) := by
  refine calls_obey (fun k => ?_) (k.record (.closeHandle handle))
  split <;> rfl

theorem calls_epollAdd (k : Kernel) (handle fd : Int32) (events : UInt32) (t : Tag) :
    (k.epollAdd handle fd events t).2.calls = k.calls.push (.epollAdd handle fd events t) := by
  refine calls_obey (fun k => ?_) (k.record (.epollAdd handle fd events t))
  split
  · rfl
  · split <;> rfl

theorem calls_epollDelete (k : Kernel) (handle fd : Int32) :
    (k.epollDelete handle fd).2.calls = k.calls.push (.epollDelete handle fd) := by
  refine calls_obey (fun k => ?_) (k.record (.epollDelete handle fd))
  split
  · rfl
  · split <;> rfl

theorem calls_epollWait (handle room timeout : Int32) (k : Kernel) :
    (k.epollWait handle room timeout).2.calls = k.calls.push (.epollWait handle room timeout) ∧
      ∀ resume, (k.epollWait handle room timeout).1 = .inside resume →
        ∀ t, (resume t).2.calls = t.calls := by
  unfold epollWait
  dsimp only
  split
  · exact ⟨rfl, nofun⟩
  · refine ⟨rfl, fun resume he => ?_⟩
    obtain rfl := Progress.inside.inj he
    refine calls_obey fun k => ?_
    split <;> rfl

theorem calls_keventWait (handle room : Int32) (timeout : Option Timespec) (k : Kernel) :
    (k.keventWait handle room timeout).2.calls = k.calls.push (.keventWait handle room timeout) ∧
      ∀ resume, (k.keventWait handle room timeout).1 = .inside resume →
        ∀ t, (resume t).2.calls = t.calls := by
  unfold keventWait
  dsimp only
  split
  · exact ⟨rfl, nofun⟩
  · refine ⟨rfl, fun resume he => ?_⟩
    obtain rfl := Progress.inside.inj he
    exact calls_obey fun _ => rfl

end Kernel

/-! ### Facilities with a handle -/

/-- A facility that lives in the kernel. -/
class Handled (β : Type) where
  handle : β → Handle
  /-- The call that opens a handle. -/
  opening : Kernel → Outcome SystemError Int32 × Kernel
  /-- Open the facility. -/
  create : Kernel → Outcome SystemError β × Kernel
  /-- Marking the new handle is given up.  It is a function that always returns, but a kernel with
  verdicts can have it given up. -/
  Stranded : Kernel → Prop

open Handled

namespace Host

variable {β : Type} [Handled β] {n : Int32} {h h' : Host β}

/-- The handle of the facility. -/
def handle (h : Host β) : Handle := Handled.handle h.facility

/-- Some calls are made that do not close anything, and the facility keeps its handle or the lack of
one. -/
def Spares (h h' : Host β) : Prop :=
  h'.handle = h.handle ∧ ∃ C, h'.kernel.calls.toList = h.kernel.calls.toList ++ C ∧
    ∀ c ∈ C, c.isClose = false

/-- Some calls are made with a handle, and do not close it. -/
def Uses (n : Int32) (h h' : Host β) : Prop :=
  h'.handle = h.handle ∧ ∃ C, h'.kernel.calls.toList = h.kernel.calls.toList ++ C ∧
    ∀ c ∈ C, c.isClose = false ∧ c.handle? = some n

theorem Uses.spares (h : Uses n h₁ h') : h₁.Spares h' := by
  obtain ⟨hsame, C, hC, huse⟩ := h
  exact ⟨hsame, C, hC, fun c hc => (huse c hc).1⟩

theorem Uses.of_silent (hsame : h'.handle = h.handle) (hcalls : h'.kernel.calls = h.kernel.calls) :
    Uses n h h' := ⟨hsame, [], by rw [hcalls, List.append_nil], nofun⟩

/-- One call. -/
theorem Uses.of_push {c : SystemCall} (hsame : h'.handle = h.handle)
    (hcalls : h'.kernel.calls = h.kernel.calls.push c) (hclose : c.isClose = false)
    (hhandle : c.handle? = some n) : Uses n h h' := by
  refine ⟨hsame, [c], by rw [hcalls, Array.toList_push], fun c' hc => ?_⟩
  obtain rfl := List.mem_singleton.mp hc
  exact ⟨hclose, hhandle⟩

/-- A wait makes one call, and going on with it makes none. -/
theorem Uses.of_wait {ρ α γ : Type} {call : Kernel → Progress Kernel ρ × Kernel}
    {see : Host β → α} {f : ρ → γ} {c : SystemCall}
    (hcall : ∀ k, (call k).2.calls = k.calls.push c ∧
      ∀ resume, (call k).1 = .inside resume → ∀ t, (resume t).2.calls = t.calls)
    (hclose : c.isClose = false) (hhandle : c.handle? = some n) :
    (Strand.system call see fun r _ => .returned (f r)).Does (fun _ => True) (Uses n)
      fun _ => True :=
  .system (fun h _ => .of_push rfl (hcall h.kernel).1 hclose hhandle) (fun _ _ _ _ => trivial)
    fun h resume _ hp g _ => ⟨.of_silent rfl ((hcall h.kernel).2 resume hp g.kernel), trivial⟩

end Host

/-- The handle that was opened, if one was, is closed between two states of the kernel, as `Once`
says; without a handle no call is made with one. -/
def ClosesHandle (β : Type) [Handled β] (Once : Int32 → List SystemCall → Prop) (k k' : Kernel) :
    Prop :=
  ∃ C, k'.calls.toList = k.calls.toList ++ C ∧
    ((∃ n, (opening β k).1 = .done n ∧ Once n C) ∨
      ((∀ n, (opening β k).1 ≠ .done n) ∧ ∀ c ∈ C, c.handle? = none))

/-- A facility that only its closing closes, and that is opened with one handle. -/
class LawfulHandled (β : Type) [Facility β] [Turns β] [Handled β] : Prop where
  /-- A call uses the handle that it finds when it is made. -/
  watch : ∀ (fd : Int32) (i : Interests) (t : Tag) (h : Host β),
    (Turns.watch fd i t h).Does (fun _ => True) (Host.Uses h.handle.fd) fun _ => True
  unwatch : ∀ (fd : Int32) (i : Interests) (h : Host β),
    (Turns.unwatch fd i h).Does (fun _ => True) (Host.Uses h.handle.fd) fun _ => True
  wait : ∀ (b : NativeBuffer) (timeout : Option Duration) (h : Host β),
    (Turns.wait b timeout h).Does (fun _ => True) (Host.Uses h.handle.fd) fun _ => True
  /-- Closing takes the handle away, and then closes it. -/
  closing : ∃ take : Host β → Handle × Host β, Turns.close = .closeHandle take ∧
    ∀ h, (take h).1 = h.handle ∧ (take h).2.handle = .closed ∧ (take h).2.kernel = h.kernel
  close : ∀ h : Host β, (Facility.close h).2.handle = (h.handle.close h.kernel).2.1 ∧
    (Facility.close h).2.kernel = (h.handle.close h.kernel).2.2
  dispose : ∀ h : Host β, (Facility.dispose h).2.facility = (Facility.close h).2.facility ∧
    (Facility.dispose h).2.kernel = (Facility.close h).2.kernel
  /-- The handle is the one that was opened, and it was not closed. -/
  created : ∀ {k k' : Kernel} {b : β}, create k = (.done b, k') →
    ∃ n C, (opening β k).1 = .done n ∧ Handled.handle b = ⟨n⟩ ∧
      k'.calls.toList = k.calls.toList ++ C ∧ ∀ c ∈ C, c.isClose = false
  /-- If there is no facility in the end, no handle was opened or it was closed. -/
  refused : ∀ {k k' : Kernel} {outcome : Outcome SystemError β}, ¬ Stranded β k →
    create k = (outcome, k') → (∀ b, outcome ≠ .done b) → ClosesHandle β ClosedLast k k'

/-! ### Closing at the end -/

section

variable {β : Type} [Facility β] [Turns β] [Handled β] [LawfulHandled β] {base : List SystemCall}
  {n : Int32} {h : Host β}

/-- Closing makes one call if there is a handle, and none otherwise. -/
theorem Host.calls_close (h : Host β) : (Facility.close h).2.handle = .closed ∧
    (Facility.close h).2.kernel.calls.toList = h.kernel.calls.toList ++
      if h.handle = .closed then [] else [.closeHandle h.handle.fd] := by
  obtain ⟨hhandle, hkernel⟩ := LawfulHandled.close h
  rw [hhandle, hkernel, Handle.close]
  split
  · rename_i hclosed
    exact ⟨hclosed, (List.append_nil _).symm⟩
  · exact ⟨rfl, by rw [Kernel.calls_closeHandle, Array.toList_push]⟩

/-- The calls since the handle was opened: it is open and nothing was closed, or it was closed. -/
def Host.Traces (base : List SystemCall) (n : Int32) (h : Host β) : Prop :=
  ∃ C, h.kernel.calls.toList = base ++ C ∧
    ((h.handle = ⟨n⟩ ∧ ∀ c ∈ C, c.isClose = false) ∨ (h.handle = .closed ∧ ClosedOnce n C))

/-- Closing closes the handle unless that was done before, and makes no other call. -/
theorem Host.Traces.close (hn : n ≠ -1) (ht : h.Traces base n) :
    ∃ C, (Facility.close h).2.kernel.calls.toList = base ++ C ∧ ClosedOnce n C ∧
      (h.handle = ⟨n⟩ → ClosedLast n C) := by
  obtain ⟨C, hC, ⟨hopen, hnone⟩ | ⟨hclosed, honce⟩⟩ := ht
  · have hne : h.handle ≠ .closed := by
      rw [hopen]
      exact fun he => hn (congrArg Handle.fd he)
    have hlast : ClosedLast n (C ++ [.closeHandle n]) := ⟨C, [], by simp, hnone, nofun⟩
    refine ⟨C ++ [.closeHandle n], ?_, hlast.once, fun _ => hlast⟩
    rw [(calls_close h).2, if_neg hne, hopen, hC, List.append_assoc]
  · refine ⟨C, ?_, honce, fun hopen => ?_⟩
    · rw [(calls_close h).2, if_pos hclosed, List.append_nil, hC]
    · exact absurd (congrArg Handle.fd (hopen.symm.trans hclosed)) hn

/-- Disposing of a facility closes its handle. -/
theorem Host.Traces.dispose (hn : n ≠ -1) (ht : h.Traces base n) :
    ∃ C, (Facility.dispose h).2.kernel.calls.toList = base ++ C ∧ ClosedOnce n C ∧
      (h.handle = ⟨n⟩ → ClosedLast n C) := by
  rw [(LawfulHandled.dispose h).2]
  exact ht.close hn

/-- Destroying a set leaves it with its handle closed, if it was not destroyed before. -/
theorem Host.Traces.destroy (hn : n ≠ -1) {s : WatchSet β} (ht : s.host.Traces base n) :
    s.destroy.2.host.Traces base n := by
  cases hd : s.destroyed with
  | true => rwa [WatchSet.destroy, if_pos hd]
  | false =>
      have ht' : (s.host.note .destroying).Traces base n := ht
      obtain ⟨C, hC, honce, -⟩ := ht'.close hn
      have hclosed := (calls_close (s.host.note .destroying)).1
      rw [WatchSet.destroy_eq hd]
      cases (Facility.close (s.host.note .destroying)).1 <;> exact ⟨C, hC, .inr ⟨hclosed, honce⟩⟩

end

/-! ### While other calls are in progress -/

namespace Scene

section

variable {β : Type} [Turns β] [Handled β]

/-- What became of the handle `n` in the calls made after `base`.

* The facility has it, and if destroying has begun it has not done anything yet.
* Destroying has taken it, and is about to close it.
* It was closed. -/
inductive Holding (base : List SystemCall) (n : Int32) (v : Scene β) : Prop
  | held (C : List SystemCall) : v.set.host.kernel.calls.toList = base ++ C →
      (∀ c ∈ C, c.isClose = false) → v.set.host.handle = ⟨n⟩ →
      (∀ p, v.closing = some p → p = Turns.close ∧ v.set.destroyed = true) → Holding base n v
  | taken (C : List SystemCall) : v.set.host.kernel.calls.toList = base ++ C →
      (∀ c ∈ C, c.isClose = false) → v.set.host.handle = .closed → v.set.destroyed = true →
      v.closing = some (.act (Host.system (·.closeHandle n)) .returned) → Holding base n v
  | closed (C : List SystemCall) : v.set.host.kernel.calls.toList = base ++ C →
      ClosedOnce n C → v.set.host.handle = .closed → v.set.destroyed = true →
      (∀ p, v.closing = some p → ∃ outcome, p = .returned outcome) → Holding base n v

variable {base : List SystemCall} {n : Int32} {v v' : Scene β}

/-- Calls that close nothing, with the facility keeping its handle. -/
theorem Holding.spares (h : v.Holding base n) (hhost : v.set.host.Spares v'.set.host)
    (hclosing : v'.closing = v.closing) (hdestroyed : v'.set.destroyed = v.set.destroyed) :
    v'.Holding base n := by
  obtain ⟨hsame, C', hC', hnone'⟩ := hhost
  cases h with
  | held C hC hnone hhandle hp =>
      refine .held (C ++ C') (by rw [hC', hC, List.append_assoc]) (fun c hc => ?_)
        (hsame.trans hhandle) (by rw [hclosing, hdestroyed]; exact hp)
      exact (List.mem_append.mp hc).elim (hnone c) (hnone' c)
  | taken C hC hnone hhandle hd hp =>
      refine .taken (C ++ C') (by rw [hC', hC, List.append_assoc]) (fun c hc => ?_)
        (hsame.trans hhandle) (hdestroyed.trans hd) (hclosing.trans hp)
      exact (List.mem_append.mp hc).elim (hnone c) (hnone' c)
  | closed C hC honce hhandle hd hp =>
      exact .closed (C ++ C') (by rw [hC', hC, List.append_assoc]) (honce.append hnone')
        (hsame.trans hhandle) (hdestroyed.trans hd) (hclosing ▸ hp)

/-- When destroying is not in progress. -/
theorem Holding.traces (h : v.Holding base n) (hc : v.closing = none) :
    v.set.host.Traces base n := by
  cases h with
  | held C hC hnone hhandle hp => exact ⟨C, hC, .inl ⟨hhandle, hnone⟩⟩
  | taken C hC hnone hhandle hd hp => cases hc.symm.trans hp
  | closed C hC honce hhandle hd hp => exact ⟨C, hC, .inr ⟨hhandle, honce⟩⟩

/-- Others do not touch the facility and make no calls of their own. -/
def Aloof (W : Host β → Host β → Prop) : Prop :=
  ∀ h h', W h h' → h'.facility = h.facility ∧ h'.kernel.calls = h.kernel.calls

/-- No call of the facility in progress closes anything. -/
abbrev Sparing (v : Scene β) : Prop :=
  v.Ruled (fun _ => True) (fun _ => Host.Spares) (fun _ _ => True) (fun _ => True) 0

/-- Only closing closes anything. -/
theorem Sparing.spares {W : Host β → Host β → Prop} {a : Act β} (hW : Aloof W) (h : v.Sparing)
    (hs : Step W v a v') (ha : ∀ before after, a ≠ .closing before after) :
    v.set.host.Spares v'.set.host := by
  have hsilent : v'.set.host.facility = v.set.host.facility →
      v'.set.host.kernel.calls = v.set.host.kernel.calls → v.set.host.Spares v'.set.host :=
    fun hfacility hcalls =>
      (Host.Uses.of_silent (n := 0) (congrArg Handled.handle hfacility) hcalls).spares
  rcases hs.host with hturn | ⟨-, hnative | hw⟩
  · cases a with
    | turned serial c before after =>
        obtain ⟨rfl, rfl⟩ := Prod.mk.inj (Option.some.inj hturn)
        exact h.turned trivial hs (Nat.zero_le _)
    | closing before after => exact absurd rfl (ha before after)
    | part | called => cases hturn
  · obtain ⟨hfacility, hkernel⟩ := WatchSet.host_of_native hnative
    exact hsilent hfacility (congrArg Kernel.calls hkernel)
  · exact hsilent (hW _ _ hw).1 (hW _ _ hw).2

/-- A handle that is gone does not come back. -/
theorem Holding.gone_step {W : Host β → Host β → Prop} {a : Act β} (hn : n ≠ -1) (hW : Aloof W)
    (hcalls : v.Sparing) (h : v.Holding base n) (hgone : v.set.host.handle = .closed)
    (hs : Step W v a v') : v'.set.host.handle = .closed := by
  rcases hs.destroying with ⟨-, -, ha, -⟩ | ⟨-, -, rfl⟩ | ⟨next, after, hc, -, rfl⟩ |
      ⟨outcome, -, -, rfl⟩
  · exact (hcalls.spares hW hs ha).1.trans hgone
  · exact hgone
  · cases h with
    | held C hC hnone hhandle hp =>
        exact absurd (congrArg Handle.fd (hhandle.symm.trans hgone)) hn
    | taken C hC hnone hhandle hd hp =>
        obtain ⟨rfl, rfl⟩ := Strand.turn.inj (Option.some.inj (hc.symm.trans hp))
        exact hgone
    | closed C hC honce hhandle hd hp =>
        obtain ⟨outcome, he⟩ := hp _ hc
        cases he
  · cases outcome <;> exact hgone

end

section

variable {β : Type} [Facility β] [Turns β] [Handled β] [LawfulHandled β]
  {W : Host β → Host β → Prop} {base : List SystemCall} {n : Int32} {v v' : Scene β} {a : Act β}
  {A : List (Act β)}

theorem rules_sparing : Rules (β := β) (fun _ => True) (fun _ => Host.Spares) (fun _ _ => True)
    fun _ => True where
  change c h _ := by
    cases c with
    | adding x =>
        exact (LawfulHandled.watch ..).mono (fun _ => id) (fun _ _ => Host.Uses.spares) fun _ => id
    | removing d i found =>
        exact (LawfulHandled.unwatch ..).mono (fun _ => id) (fun _ _ => Host.Uses.spares)
          fun _ => id
  wait _ _ _ _ :=
    (LawfulHandled.wait ..).mono (fun _ => id) (fun _ _ => Host.Uses.spares) fun _ => id
  timeUp _ := id

/-- **One step.**  What became of the handle is still known. -/
theorem Holding.step (hn : n ≠ -1) (hW : Aloof W) (hcalls : v.Sparing) (h : v.Holding base n)
    (hs : Step W v a v') : v'.Holding base n := by
  obtain ⟨take, hclose, htake⟩ := LawfulHandled.closing (β := β)
  rw [Strand.closeHandle, Strand.act] at hclose
  rcases hs.destroying with ⟨hclosing, hd, ha, -⟩ | ⟨hd, -, rfl⟩ | ⟨next, after, hc, -, rfl⟩ |
      ⟨outcome, hc, -, rfl⟩
  · exact h.spares (hcalls.spares hW hs ha) hclosing hd
  · cases h with
    | held C hC hnone hhandle hp =>
        refine .held C hC hnone hhandle ?_
        rintro p ⟨⟩
        exact ⟨rfl, rfl⟩
    | taken C hC hnone hhandle hd' | closed C hC honce hhandle hd' => cases hd.symm.trans hd'
  · cases h with
    | held C hC hnone hhandle hp =>
        obtain ⟨hturn, hd⟩ := hp _ hc
        obtain ⟨rfl, rfl⟩ := Strand.turn.inj (hturn.trans hclose)
        obtain ⟨hfound, hgone, hkernel⟩ := htake v.set.host
        refine .taken C (by rw [← hC, ← hkernel]) hnone hgone hd ?_
        dsimp only
        rw [hfound, hhandle, if_neg]
        exact fun he => hn (congrArg Handle.fd he)
    | taken C hC hnone hhandle hd hp =>
        obtain ⟨rfl, rfl⟩ := Strand.turn.inj (Option.some.inj (hc.symm.trans hp))
        refine .closed (C ++ [.closeHandle n]) ?_ ⟨C, [], by simp, hnone, by simp⟩ hhandle hd ?_
        · show (v.set.host.kernel.closeHandle n).2.calls.toList = _
          rw [Kernel.calls_closeHandle, Array.toList_push, hC, List.append_assoc]
        · rintro p ⟨⟩
          exact ⟨_, rfl⟩
    | closed C hC honce hhandle hd hp =>
        obtain ⟨outcome, he⟩ := hp _ hc
        cases he
  · cases h with
    | held C hC hnone hhandle hp => cases (hp _ hc).1.trans hclose
    | taken C hC hnone hhandle hd hp => cases hc.symm.trans hp
    | closed C hC honce hhandle hd hp =>
        cases outcome <;> exact .closed C hC honce hhandle hd (by rintro p ⟨⟩)

/-- **A run.** -/
theorem Holding.run (hn : n ≠ -1) (hW : Aloof W) (hcalls : v.Sparing) (h : v.Holding base n)
    (hr : Run W v A v') : v'.Sparing ∧ v'.Holding base n := by
  induction hr with
  | refl v => exact ⟨hcalls, h⟩
  | step hs _ ih =>
      exact ih (hcalls.step rules_sparing trivial hs) (h.step hn hW hcalls hs)

/-- A call that is made when the handle is gone makes its system calls with the number that is left of
it. -/
abbrev Late (since : Nat) (v : Scene β) : Prop :=
  v.Ruled (fun h => h.handle = .closed) (fun _ => Host.Uses Handle.closed.fd) (fun _ _ => True)
    (fun _ => True) since

theorem rules_late : Rules (β := β) (fun h => h.handle = .closed)
    (fun _ => Host.Uses Handle.closed.fd) (fun _ _ => True) fun _ => True where
  change c h hgone := by
    cases c with
    | adding x =>
        have hdoes := LawfulHandled.watch x.descriptor.fd x.interests x.tag h
        exact (hgone ▸ hdoes).mono (fun _ _ => trivial) (fun _ _ => id) fun _ => id
    | removing d i found =>
        have hdoes := LawfulHandled.unwatch d.fd i h
        exact (hgone ▸ hdoes).mono (fun _ _ => trivial) (fun _ _ => id) fun _ => id
  wait b timeout h hgone :=
    (hgone ▸ LawfulHandled.wait b timeout h).mono (fun _ _ => trivial) (fun _ _ => id) fun _ => id
  timeUp _ := id

/-- **A run** without the handle.  Calls that are made from then on do not use it. -/
theorem Late.run (hn : n ≠ -1) (hW : Aloof W) (hcalls : v.Sparing) (hv : v.Holding base n)
    (hgone : v.set.host.handle = .closed) {since : Nat} (h : v.Late since) (hr : Run W v A v') :
    ∀ serial c before after, .turned serial c before after ∈ A → since ≤ serial →
      before.Uses Handle.closed.fd after := by
  induction hr with
  | refl v => nofun
  | step hs _ ih =>
      intro serial c before after hmem hsince
      rcases List.mem_cons.mp hmem with rfl | hmem
      · exact h.turned hgone hs hsince
      · exact ih (hcalls.step rules_sparing trivial hs) (hv.step hn hW hcalls hs)
          (hv.gone_step hn hW hcalls hgone hs) (h.step rules_late hgone hs) _ _ _ _ hmem hsince

end

end Scene

/-! ### Lives -/

section

variable (β : Type) [Facility β] [Turns β] [Handled β] (W : Host β → Host β → Prop)

/-- A life that ends before there is a set, and what it makes of the kernel.

* The facility is not opened.
* The set is refused, and the facility is disposed of at once. -/
inductive Stillborn (k : Kernel) : Kernel → Prop
  | unopened {outcome : Outcome SystemError β} {k' : Kernel} :
      create k = (outcome, k') → (∀ b, outcome ≠ .done b) → Stillborn k k'
  | refused {b : β} {k₁ : Kernel} {log : Array LogEntry} {capacity : Nat} {threadSafe : Bool}
      {outcome : Outcome Error (WatchSet β)} {host : Host β} :
      create k = (.done b, k₁) → WatchSet.create ⟨b, k₁, log⟩ capacity threadSafe = (outcome, host) →
        (∀ s, outcome ≠ .done s) → Stillborn k host.kernel

/-- A set is created on a new facility, and a run leads to a scene. -/
def Lives (k : Kernel) (v : Scene β) : Prop :=
  ∃ (b : β) (k₁ : Kernel) (log : Array LogEntry) (capacity : Nat) (threadSafe : Bool)
    (s : WatchSet β) (host : Host β) (A : List (Act β)), create k = (.done b, k₁) ∧
      WatchSet.create ⟨b, k₁, log⟩ capacity threadSafe = (.done s, host) ∧
      Scene.Run W (.ofSet s) A v

/-- A life, from opening the facility to the end, and what it makes of the kernel.  A set is disposed
of when no call is in progress. -/
inductive Life (k : Kernel) : Kernel → Prop
  | stillborn {k' : Kernel} : Stillborn β k k' → Life k k'
  | lived {v : Scene β} : Lives β W k v → v.change = none → v.poll = none → v.closing = none →
      Life k v.set.dispose.2.kernel

end

namespace WatchSet

variable {β : Type} [Facility β]

/-- The end of a set disposes of the facility, whatever becomes of the closing before. -/
theorem dispose_snd (s : WatchSet β) :
    s.dispose.2 = (Facility.dispose s.destroy.2.host).2 := by
  unfold WatchSet.dispose
  dsimp only
  split <;> rfl

/-- A new set is on the host it was created on, apart from the log. -/
theorem create_eq_done {host host' : Host β} {capacity : Nat} {threadSafe : Bool}
    {s : WatchSet β} (hc : WatchSet.create host capacity threadSafe = (.done s, host')) :
    s = ofHost (host.note (.creating capacity threadSafe)) capacity threadSafe := by
  unfold WatchSet.create at hc
  split at hc
  · cases hc
  · exact (Outcome.done.inj (Prod.mk.inj hc).1).symm

/-- A set that is refused has had its facility disposed of. -/
theorem create_ne_done {host host' : Host β} {capacity : Nat} {threadSafe : Bool}
    {outcome : Outcome Error (WatchSet β)}
    (hc : WatchSet.create host capacity threadSafe = (outcome, host'))
    (hne : ∀ s, outcome ≠ .done s) : host' = (Facility.dispose host).2 := by
  unfold WatchSet.create at hc
  split at hc
  · exact (Prod.mk.inj hc).2.symm
  · exact absurd (Prod.mk.inj hc).1.symm (hne _)

end WatchSet

section

variable {β : Type} [Facility β] [Turns β] [Handled β] [LawfulHandled β] {W : Host β → Host β → Prop}
  {k k' : Kernel} {v v' : Scene β} {A : List (Act β)}

/-- Before there is a set, a handle that was opened is closed and not used afterwards. -/
theorem Stillborn.closes_last (hvalid : ∀ n, (opening β k).1 = .done n → n ≠ -1)
    (hstranded : ¬ Stranded β k) (hl : Stillborn β k k') : ClosesHandle β ClosedLast k k' := by
  cases hl with
  | unopened hc hne => exact LawfulHandled.refused hstranded hc hne
  | @refused b k₁ log capacity threadSafe outcome host hc hs hne =>
      obtain ⟨n, C, hopening, hhandle, hC, hnone⟩ := LawfulHandled.created hc
      have ht : Host.Traces k.calls.toList n ⟨b, k₁, log⟩ := ⟨C, hC, .inl ⟨hhandle, hnone⟩⟩
      obtain ⟨C', hC', -, hlast⟩ := ht.dispose (hvalid n hopening)
      rw [WatchSet.create_ne_done hs hne]
      exact ⟨C', hC', .inl ⟨n, hopening, hlast hhandle⟩⟩

/-- In the life of a set it is known what became of the handle. -/
theorem Lives.holding (hW : Scene.Aloof W) (hvalid : ∀ n, (opening β k).1 = .done n → n ≠ -1)
    (hl : Lives β W k v) :
    ∃ n, (opening β k).1 = .done n ∧ n ≠ -1 ∧ v.Sparing ∧ v.Holding k.calls.toList n ∧
      v.Numbered := by
  obtain ⟨b, k₁, log, capacity, threadSafe, s, host, A, hc, hs, hr⟩ := hl
  obtain ⟨n, C, hopening, hhandle, hC, hnone⟩ := LawfulHandled.created hc
  obtain rfl := WatchSet.create_eq_done hs
  have hn := hvalid n hopening
  have hstart : (Scene.ofSet (WatchSet.ofHost (Host.note ⟨b, k₁, log⟩ (.creating capacity threadSafe))
      capacity threadSafe)).Holding k.calls.toList n := .held C hC hnone hhandle nofun
  obtain ⟨hcalls, hholding⟩ := hstart.run hn hW (Scene.ruled_ofSet _) hr
  exact ⟨n, hopening, hn, hcalls, hholding, (Scene.numbered_ofSet _).run hr⟩

/-- **A life** closes the handle once if it has opened one, and otherwise it has none. -/
theorem Life.closes_once (hW : Scene.Aloof W)
    (hvalid : ∀ n, (opening β k).1 = .done n → n ≠ -1) (hstranded : ¬ Stranded β k)
    (hl : Life β W k k') : ClosesHandle β ClosedOnce k k' := by
  cases hl with
  | stillborn hs =>
      obtain ⟨C, hC, ⟨n, hopening, hlast⟩ | hnone⟩ := hs.closes_last hvalid hstranded
      · exact ⟨C, hC, .inl ⟨n, hopening, hlast.once⟩⟩
      · exact ⟨C, hC, .inr hnone⟩
  | lived hv _ _ hclosing =>
      obtain ⟨n, hopening, hn, -, hholding, -⟩ := hv.holding hW hvalid
      obtain ⟨C, hC, honce, -⟩ := ((hholding.traces hclosing).destroy hn).dispose hn
      rw [WatchSet.dispose_snd]
      exact ⟨C, hC, .inl ⟨n, hopening, honce⟩⟩

/-- **Late calls** do not use a handle that is gone. -/
theorem Lives.uses_closed (hW : Scene.Aloof W)
    (hvalid : ∀ n, (opening β k).1 = .done n → n ≠ -1) (hl : Lives β W k v)
    (hgone : v.set.host.handle = .closed) (hr : Scene.Run W v A v') :
    ∀ serial c before after, .turned serial c before after ∈ A → v.calls ≤ serial →
      before.Uses Handle.closed.fd after := by
  obtain ⟨n, -, hn, hcalls, hholding, hnumbered⟩ := hl.holding hW hvalid
  exact Scene.Late.run hn hW hcalls hholding hgone hnumbered.ruled hr

end

/-! ### `epoll` -/

namespace Epoll

instance : Handled Epoll where
  handle b := b.handle
  opening := Kernel.epollCreate
  create := create
  Stranded _ := False

theorem dispose_eq (h : Host Epoll) :
    (dispose h).2.facility = (close h).2.facility ∧ (dispose h).2.kernel = (close h).2.kernel := by
  unfold dispose
  cases close h with
  | mk outcome g => cases outcome <;> exact ⟨rfl, rfl⟩

instance : LawfulHandled Epoll where
  watch _ _ _ _ := .act (fun _ _ => .of_push rfl (Kernel.calls_epollAdd ..) rfl rfl)
    fun _ _ => trivial
  unwatch _ _ _ := .act (fun _ _ => .of_push rfl (Kernel.calls_epollDelete ..) rfl rfl)
    fun _ _ => trivial
  wait _ _ _ := Host.Uses.of_wait (Kernel.calls_epollWait _ _ _) rfl rfl
  closing := ⟨takeHandle, rfl, fun _ => ⟨rfl, rfl, rfl⟩⟩
  close _ := ⟨rfl, rfl⟩
  dispose := dispose_eq
  created {k k' b} hc := by
    have hcalls := Kernel.calls_epollCreate k
    cases ho : k.epollCreate with
    | mk outcome k₁ =>
        rw [ho] at hcalls
        rw [show Handled.create k = create k from rfl, create, ho] at hc
        obtain ⟨hb, rfl⟩ := Prod.mk.inj hc
        cases outcome with
        | failed cause | halted cause => cases hb
        | done n =>
            obtain rfl := Outcome.done.inj hb
            refine ⟨n, [.epollCreate], congrArg Prod.fst ho, rfl, by rw [hcalls]; simp, ?_⟩
            simp [SystemCall.isClose]
  refused {k k' outcome} _ hc hne := by
    have hcalls := Kernel.calls_epollCreate k
    cases ho : k.epollCreate with
    | mk opened k₁ =>
        rw [ho] at hcalls
        rw [show Handled.create k = create k from rfl, create, ho] at hc
        obtain ⟨rfl, rfl⟩ := Prod.mk.inj hc
        refine ⟨[.epollCreate], by rw [hcalls]; simp, .inr ⟨fun n hn => ?_, ?_⟩⟩
        · obtain rfl := (congrArg Prod.fst ho).symm.trans hn
          exact hne _ rfl
        · simp [SystemCall.handle?]

end Epoll

/-! ### `kqueue` -/

namespace Kqueue

instance : Handled Kqueue where
  handle b := b.handle
  opening := Kernel.kqueue
  create := create
  Stranded k := ∃ n k₁ cause, k.kqueue = (.done n, k₁) ∧ (k₁.closeOnExec n).1 = .halted cause

theorem uses_changeWith (handle : Handle) (c : KqueueChange) (h : Host Kqueue) :
    Host.Uses handle.fd h (changeWith handle c h).2 :=
  .of_push rfl (changed rfl).calls rfl rfl

theorem uses_undo (handle : Handle) (fd : Int32) (t : Tag) (i : Interests) (h : Host Kqueue) :
    Host.Uses handle.fd h (undo (deregisterWith handle fd t)
      (fun single cause h => h.note (.rollbackFailed single cause)) i h).2 := by
  have huse : Host.Uses handle.fd h (deregisterWith handle fd t i h).2 := uses_changeWith ..
  unfold undo
  split
  · rename_i hd
    rwa [hd] at huse
  · exact huse

/-- How opening ends.

* No handle is opened.
* The facility is open with the handle.
* Marking the handle was given up.
* Marking the handle failed, and it is closed. -/
theorem create_cases (k : Kernel) :
    (∀ n, k.kqueue.1 ≠ .done n) ∧ (∀ b, (create k).1 ≠ .done b) ∧
        (create k).2.calls.toList = k.calls.toList ++ [.kqueue] ∨
      ∃ n, k.kqueue.1 = .done n ∧
        ((create k).1 = .done ⟨⟨n⟩⟩ ∧
            (create k).2.calls.toList = k.calls.toList ++ [.kqueue, .closeOnExec n] ∨
          (∀ b, (create k).1 ≠ .done b) ∧ (Stranded Kqueue k ∨
            (create k).2.calls.toList =
              k.calls.toList ++ [.kqueue, .closeOnExec n, .closeHandle n])) := by
  have hopen := Kernel.calls_kqueue k
  unfold create
  cases ho : k.kqueue with
  | mk opened k₁ =>
      rw [ho] at hopen
      dsimp only at hopen
      cases opened with
      | failed cause | halted cause => exact .inl ⟨nofun, nofun, by simp [hopen]⟩
      | done n =>
          refine .inr ⟨n, rfl, ?_⟩
          have hmark := Kernel.calls_closeOnExec k₁ n
          dsimp only
          cases hm : k₁.closeOnExec n with
          | mk marked k₂ =>
              rw [hm] at hmark
              dsimp only at hmark
              cases marked with
              | done value => exact .inl ⟨rfl, by simp [hmark, hopen]⟩
              | halted cause => exact .inr ⟨nofun, .inl ⟨n, k₁, cause, ho, congrArg Prod.fst hm⟩⟩
              | failed cause =>
                  have hclose := Kernel.calls_closeHandle k₂ n
                  dsimp only
                  split
                  · rename_i hc
                    rw [hc] at hclose
                    dsimp only at hclose
                    exact .inr ⟨nofun, .inr (by simp [hclose, hmark, hopen])⟩
                  · rename_i hc
                    rw [hc] at hclose
                    dsimp only at hclose
                    exact .inr ⟨nofun, .inr (by simp [hclose, hmark, hopen])⟩

/-- If marking the handle fails, that is the error of opening, whatever closing says. -/
theorem create_fst {k k₁ k₂ : Kernel} {n : Int32} {cause : SystemError}
    (hopen : k.kqueue = (.done n, k₁)) (hmark : k₁.closeOnExec n = (.failed cause, k₂))
    (hclose : (k₂.closeHandle n).1.isHalted = false) : (create k).1 = .failed cause := by
  simp only [create, hopen, hmark]
  split
  · rename_i hc
    rw [hc] at hclose
    cases hclose
  · rfl

theorem dispose_eq (h : Host Kqueue) :
    (dispose h).2.facility = (close h).2.facility ∧ (dispose h).2.kernel = (close h).2.kernel := by
  unfold dispose
  cases close h with
  | mk outcome g => cases outcome <;> exact ⟨rfl, rfl⟩

instance : LawfulHandled Kqueue where
  watch fd i t h := does_registerTurns (registerWith h.facility.handle fd t)
    (deregisterWith h.facility.handle fd t)
    (fun single cause h => h.note (.rollbackFailed single cause))
    (fun _ _ _ => ⟨uses_changeWith .., fun _ _ => trivial⟩)
    (fun _ _ _ => ⟨uses_undo .., fun _ _ => trivial⟩) trivial (fun _ => trivial) [] i.split
  unwatch fd i h := does_unwatchTurns (fun _ _ _ => ⟨uses_changeWith .., fun _ _ => trivial⟩)
    (fun _ => trivial) i.split trivial
  wait _ _ _ := Host.Uses.of_wait (Kernel.calls_keventWait _ _ _) rfl rfl
  closing := ⟨takeHandle, rfl, fun _ => ⟨rfl, rfl, rfl⟩⟩
  close _ := ⟨rfl, rfl⟩
  dispose := dispose_eq
  created {k k' b} hc := by
    have hc : create k = (.done b, k') := hc
    rcases create_cases k with ⟨-, hnone, -⟩ | ⟨n, hopen, ⟨hdone, hcalls⟩ | ⟨hnone, -⟩⟩
    · exact absurd (congrArg Prod.fst hc) (hnone b)
    · rw [hc] at hdone hcalls
      obtain rfl := Outcome.done.inj hdone
      exact ⟨n, _, hopen, rfl, hcalls, by simp [SystemCall.isClose]⟩
    · exact absurd (congrArg Prod.fst hc) (hnone b)
  refused {k k' outcome} hstranded hc hne := by
    have hc : create k = (outcome, k') := hc
    rcases create_cases k with ⟨hopen, -, hcalls⟩ | ⟨n, hopen, ⟨hdone, -⟩ | ⟨-, hend⟩⟩
    · rw [hc] at hcalls
      exact ⟨_, hcalls, .inr ⟨hopen, by simp [SystemCall.handle?]⟩⟩
    · rw [hc] at hdone
      exact absurd hdone (hne _)
    · rcases hend with hs | hcalls
      · exact absurd hs hstranded
      · rw [hc] at hcalls
        exact ⟨_, hcalls, .inl ⟨n, hopen, [.kqueue, .closeOnExec n], [], rfl,
          by simp [SystemCall.isClose], nofun⟩⟩

end Kqueue

/-! ### All lives -/

/-- Every life closes its handle once, and no other one.  A life that ends before there is a set does
not use the handle afterwards, and the life of a set does so only in calls of the facility that were
made before the handle was given up.  Others do not touch the facility and make no calls of their own,
no handle has the number that stands for a closed one, and marking a handle returns. -/
structure ClosesHandles (β : Type) [Facility β] [Turns β] [Handled β] : Prop where
  /-- A call that nobody disturbs is a call of the facility. -/
  whole : WholeCalls β
  once : ∀ (W : Host β → Host β → Prop) (k k' : Kernel), Scene.Aloof W →
    (∀ n, (opening β k).1 = .done n → n ≠ -1) → ¬ Stranded β k → Life β W k k' →
      ClosesHandle β ClosedOnce k k'
  last : ∀ k k' : Kernel, (∀ n, (opening β k).1 = .done n → n ≠ -1) → ¬ Stranded β k →
    Stillborn β k k' → ClosesHandle β ClosedLast k k'
  late : ∀ (W : Host β → Host β → Prop) (k : Kernel) (v v' : Scene β) (A : List (Act β)),
    Scene.Aloof W → (∀ n, (opening β k).1 = .done n → n ≠ -1) → Lives β W k v →
      v.set.host.handle = .closed → Scene.Run W v A v' →
        ∀ serial c before after, .turned serial c before after ∈ A → v.calls ≤ serial →
          before.Uses (-1) after

theorem ClosesHandles.of_lawful (β : Type) [Facility β] [Turns β] [FaithfulTurns β] [Handled β]
    [LawfulHandled β] : ClosesHandles β where
  whole := .of_faithful β
  once _ _ _ hW hvalid hstranded hl := hl.closes_once hW hvalid hstranded
  last _ _ hvalid hstranded hl := hl.closes_last hvalid hstranded
  late _ _ _ _ _ hW hvalid hl hgone hr := hl.uses_closed hW hvalid hgone hr

/-- **Handles are closed once** in every life of `epoll` and `kqueue`, whatever becomes of closing, and
calls that are made afterwards do not use them.  That includes a handle of `kqueue` that cannot be
marked, and then that error is the answer, unless closing the handle is given up. -/
theorem handles_closed_once :
    ClosesHandles Epoll ∧ ClosesHandles Kqueue ∧
    ∀ (k k₁ k₂ : Kernel) (n : Int32) (cause : SystemError), k.kqueue = (.done n, k₁) →
      k₁.closeOnExec n = (.failed cause, k₂) → (k₂.closeHandle n).1.isHalted = false →
      (Kqueue.create k).1 = .failed cause :=
  ⟨.of_lawful Epoll, .of_lawful Kqueue, fun _ _ _ _ _ => Kqueue.create_fst⟩

/-- A set on `epoll` is destroyed twice during a wait, and closing is given up; a descriptor is removed
after that.  And a handle of `kqueue` cannot be marked. -/
theorem handles_closed_once_during_wait :
    (∃ k k' : Kernel, Life Epoll (fun _ _ => False) k k' ∧
      k'.calls.toList = [.epollCreate, .epollWait 1000 4 (-1), .closeHandle 1000,
        .epollDelete (-1) 50] ∧
      ClosesHandle Epoll ClosedOnce k k') ∧
    (∃ (k : Kernel) (v v' : Scene Epoll) (A : List (Act Epoll)) (c : Option Change)
      (before after : Host Epoll), Lives Epoll (fun _ _ => False) k v ∧
      v.set.host.handle = .closed ∧ Scene.Run (fun _ _ => False) v A v' ∧
      .turned 1 c before after ∈ A ∧ before.Uses (-1) after) ∧
    ∃ k k' : Kernel, Stillborn Kqueue k k' ∧
      k'.calls.toList = [.kqueue, .closeOnExec 1000, .closeHandle 1000] ∧
      ClosesHandle Kqueue ClosedLast k k' ∧ (Kqueue.create k).1 = .failed .badDescriptor := by
  have hopened : ∀ n, (Outcome.done 1000 : Outcome SystemError Int32) = .done n → n ≠ -1 := by
    rintro n ⟨⟩
    decide
  obtain ⟨k, v, v', A, c, before, after, hopen, hv, hgone, hr, hmem, hcalls, hend, hpoll, hclosing,
      hlast⟩ :
      ∃ (k : Kernel) (v v' : Scene Epoll) (A : List (Act Epoll)) (c : Option Change)
        (before after : Host Epoll), k.epollCreate.1 = .done 1000 ∧
        Lives Epoll (fun _ _ => False) k v ∧
        v.set.host.handle = .closed ∧ Scene.Run (fun _ _ => False) v A v' ∧
        .turned 1 c before after ∈ A ∧ v.calls = 1 ∧ v'.change = none ∧ v'.poll = none ∧
        v'.closing = none ∧ v'.set.dispose.2.kernel.calls.toList =
          [.epollCreate, .epollWait 1000 4 (-1), .closeHandle 1000, .epollDelete (-1) 50] := by
    refine ⟨{ verdicts := [(.close, .giveUp)] }, _, _, _, _, _, _, rfl,
      ⟨_, _, #[], 4, true, _, _, _, rfl, rfl,
        .step (.beginPoll none rfl) <| .step (.callWait rfl) <| .step (.turnWait rfl) <|
        .step (.beginDestroy rfl) <| .step (.turnClosing rfl) <| .step (.turnClosing rfl) <|
        .step (.endDestroy rfl) <| .step (.refuseDestroy rfl) <| .refl _⟩, rfl,
      .step (.turnWait rfl) <| .step (.endPoll rfl rfl) <|
      .step (.beginRemove (.socket 50) rfl) <| .step (.callChange rfl) <|
      .step (.turnChange rfl) <| .step (.endChange rfl) <| .refl _,
      .tail _ (.tail _ (.tail _ (.tail _ (.head _)))), rfl, rfl, rfl, rfl, rfl⟩
  have hvalid : ∀ n, (opening Epoll k).1 = .done n → n ≠ -1 := hopen ▸ hopened
  refine ⟨⟨k, v'.set.dispose.2.kernel, ?_⟩, ⟨k, v, v', A, c, before, after, hv, hgone, hr, hmem, ?_⟩,
    ?_⟩
  · have hl : Life Epoll (fun _ _ => False) k v'.set.dispose.2.kernel := by
      obtain ⟨b, k₁, log, capacity, threadSafe, s, host, A₀, hc, hs, hr₀⟩ := hv
      exact .lived ⟨b, k₁, log, capacity, threadSafe, s, host, _, hc, hs, hr₀.trans hr⟩ hend hpoll
        hclosing
    exact ⟨hl, hlast, handles_closed_once.1.once _ k _ nofun hvalid id hl⟩
  · exact handles_closed_once.1.late _ k v v' A nofun hvalid hv hgone hr 1 c before after hmem
      (Nat.le_of_eq hcalls)
  · obtain ⟨k, k₁, k₂, hopen, hmark, hclose, hcreate, hcalls⟩ : ∃ k k₁ k₂ : Kernel,
        k.kqueue = (.done 1000, k₁) ∧ k₁.closeOnExec 1000 = (.failed .badDescriptor, k₂) ∧
        (k₂.closeHandle 1000).1.isHalted = false ∧ (∀ b, (Kqueue.create k).1 ≠ .done b) ∧
        (Kqueue.create k).2.calls.toList = [.kqueue, .closeOnExec 1000, .closeHandle 1000] :=
      ⟨{ invalid := [1000] }, _, _, rfl, rfl, rfl, nofun, rfl⟩
    have hl : Stillborn Kqueue k (Kqueue.create k).2 := .unopened rfl hcreate
    refine ⟨k, _, hl, hcalls, handles_closed_once.2.1.last k _ ?_ ?_ hl,
      handles_closed_once.2.2 k k₁ k₂ 1000 _ hopen hmark hclose⟩
    · rw [show opening Kqueue k = k.kqueue from rfl, hopen]
      exact hopened
    · rintro ⟨n, k₁', cause, hopen', hgivenUp⟩
      rw [hopen] at hopen'
      obtain ⟨⟨⟩, rfl⟩ := Prod.mk.inj hopen'
      rw [hmark] at hgivenUp
      cases hgivenUp

/-- **A call may use a handle that was closed.**  With `kqueue` a descriptor is added for both
directions, and between its two filters another thread destroys the set: the second filter, and the
rollback of the first, are asked for with a number that is not the facility's any more.  And if marking
a handle fails and closing it is given up, the answer is not the error of marking. -/
theorem closed_handle_is_used :
    (∃ k k' : Kernel, k.kqueue.1 = .done 1000 ∧ Life Kqueue (fun _ _ => False) k k' ∧
      k'.calls.toList = [.kqueue, .closeOnExec 1000, .keventChange 1000 50 (-1) 65 ⟨0⟩,
        .closeHandle 1000, .keventChange 1000 50 (-2) 65 ⟨0⟩,
        .keventChange 1000 50 (-1) 66 ⟨0⟩] ∧
      ¬ ClosesHandle Kqueue ClosedLast k k') ∧
    ∃ k k₁ k₂ : Kernel, k.kqueue = (.done 1000, k₁) ∧
      k₁.closeOnExec 1000 = (.failed (.os 12), k₂) ∧
      (Kqueue.create k).1 = .halted .scripted := by
  constructor
  · obtain ⟨k, k', hnone, hopen, hl, hcalls⟩ : ∃ k k' : Kernel, k.calls.toList = [] ∧
        k.kqueue.1 = .done 1000 ∧ Life Kqueue (fun _ _ => False) k k' ∧
        k'.calls.toList = [.kqueue, .closeOnExec 1000, .keventChange 1000 50 (-1) 65 ⟨0⟩,
          .closeHandle 1000, .keventChange 1000 50 (-2) 65 ⟨0⟩,
          .keventChange 1000 50 (-1) 66 ⟨0⟩] := by
      refine ⟨{}, _, rfl, rfl, .lived ⟨_, _, #[], 4, true, _, _, _, rfl, rfl,
        .step (.beginAdd (.socket 50) .both ⟨50⟩ rfl) <| .step (.callChange rfl) <|
        .step (.turnChange rfl) <|
        .step (.beginDestroy rfl) <| .step (.turnClosing rfl) <| .step (.turnClosing rfl) <|
        .step (.endDestroy rfl) <|
        .step (.turnChange rfl) <| .step (.turnChange rfl) <| .step (.endChange rfl) <|
        .refl _⟩ rfl rfl rfl, ?_⟩
      rfl
    refine ⟨k, k', hopen, hl, hcalls, ?_⟩
    rintro ⟨C, hC, ⟨n, hn, hlast⟩ | ⟨hunopened, -⟩⟩
    · obtain rfl := Outcome.done.inj (hopen.symm.trans hn)
      rw [hcalls, hnone, List.nil_append] at hC
      rw [← hC] at hlast
      exact hlast.handle?_ne (C := [_, _, _, _, _]) rfl rfl
    · exact hunopened 1000 hopen
  · exact ⟨{ verdicts := [(.fcntl, .fail 12 (by decide)), (.close, .giveUp)] }, _, _, rfl, rfl, rfl⟩

end Readiness
