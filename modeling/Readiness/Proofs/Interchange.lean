import Readiness.Proofs.TwinSets

/-! # Facilities that can be interchanged

As long as nothing is scripted and nobody else runs, it does not matter whether a set is on `poll`
or on `epoll`.

* **Stimuli** (`Stimulus.Harmless`) change levels and valid descriptors, and leave twins twins.
* **Steps** (`SetStep.Plain`) that a scenario may take.  They fail no call, inject and force nothing,
  set no level that `poll` does not know, and invalidate no descriptor that is added.  Each step
  shows the same on twins, but for the order of events, and leaves twins (`WatchSet.Twin.step`).
* **Scenarios** (`SetRun.poll_agrees_with_epoll`).  A scenario of plain steps shows the same on
  `poll` and on `epoll`. -/

namespace Readiness

open Levelled

variable {β β' : Type}

/-! ### Stimuli -/

/-- A stimulus that fails no call, injects and forces nothing, sets no level that a facility would
not know, and invalidates no descriptor that is added. -/
def Stimulus.Harmless (added : List Addition) : Stimulus → Prop
  | level _ bits => Epoll.hasBit bits Epoll.rdhupBit = false
  | clear _ => True
  | validate _ => True
  | invalidate fd => ∀ x ∈ added, x.descriptor.fd ≠ fd
  | _ => False

namespace Stimulus

variable {added : List Addition} {k k' : Kernel} {x : Stimulus}

/-- Harmless stimuli do the same to the same world. -/
theorem Harmless.world (hx : x.Harmless added) (h : k'.world = k.world) :
    (x.apply k').world = (x.apply k).world := by
  obtain ⟨hlevels, hinvalid⟩ : k'.levels = k.levels ∧ k'.invalid = k.invalid :=
    ⟨congrArg Kernel.World.levels h, congrArg Kernel.World.invalid h⟩
  cases x with
  | level | clear | validate | invalidate =>
      simp only [apply, Kernel.world, Kernel.setLevel, Kernel.clearLevel, Kernel.validate,
        Kernel.invalidate, hlevels, hinvalid]
  | _ => exact hx.elim

theorem Harmless.dry (hx : x.Harmless added) (h : k.Dry) : (x.apply k).Dry := by
  cases x with
  | level fd bits =>
      intro entry hentry
      rcases List.mem_cons.mp hentry with rfl | hentry
      · exact hx
      · exact h entry (List.mem_of_mem_filter hentry)
  | clear fd => exact fun entry hentry => h entry (List.mem_of_mem_filter hentry)
  | validate | invalidate => exact h
  | _ => exact hx.elim

theorem Harmless.valid (hx : x.Harmless added)
    (h : ∀ y ∈ added, k.isInvalid y.descriptor.fd = false) :
    ∀ y ∈ added, (x.apply k).isInvalid y.descriptor.fd = false := by
  intro y hy
  have hvalid := h y hy
  cases x with
  | level | clear => exact hvalid
  | validate fd =>
      simp only [apply, Kernel.isInvalid, Kernel.validate, Bool.or_eq_false_iff,
        List.contains_eq_mem, decide_eq_false_iff_not, List.mem_filter] at hvalid ⊢
      exact ⟨hvalid.1, fun hm => hvalid.2 hm.1⟩
  | invalidate fd =>
      simp only [apply, Kernel.isInvalid, Kernel.invalidate, Bool.or_eq_false_iff,
        List.contains_eq_mem, decide_eq_false_iff_not, List.mem_cons, List.mem_filter] at hvalid ⊢
      exact ⟨hvalid.1, fun hm => hm.elim (hx y hy) fun hm => hvalid.2 hm.1⟩
  | _ => exact hx.elim

variable [Facility β] [Registry β] [Levelled β] [LawfulLevelled β] [LawfulRegistry β]

/-- A facility that serves the additions still does after a harmless stimulus. -/
theorem Harmless.served {isOpen : Bool} {h : Host β} (hx : x.Harmless added)
    (hs : Served isOpen h added) : Served isOpen { h with kernel := x.apply h.kernel } added := by
  have hu := hs.serving.unscripted
  refine hs.congr rfl (x.registrations_apply h.kernel).1 ?_ ?_ (hx.valid hs.valid) (hx.dry hs.dry)
  · cases x with
    | level | clear | validate | invalidate => rfl
    | _ => exact hx.elim
  · cases x with
    | level | clear | validate | invalidate => exact ⟨hu.verdicts, hu.forced, hu.injected⟩
    | _ => exact hx.elim

end Stimulus

/-- Stimuli act on the kernel only. -/
class KernelStimulated (β : Type) [Stimulated β Stimulus] : Prop where
  stimulate : ∀ (x : Stimulus) (h : Host β), Stimulated.stimulate x h = x.stimulate h

instance : KernelStimulated Epoll := ⟨fun _ _ => rfl⟩

instance : KernelStimulated Poll := ⟨fun _ _ => rfl⟩

/-! ### What is seen -/

/-- Two steps show the same, but for the order of events and for the calls and log lines. -/
inductive SetObservation.Agree : SetObservation → SetObservation → Prop
  | ended {outcome : Outcome Error Answer} {events events' : Option (List Event)}
      {stats : Option RosterSizes} {trace trace' : Trace} :
      Option.Rel List.Perm events events' →
      Agree (.mk (.ended outcome events none) stats trace)
        (.mk (.ended outcome events' none) stats trace')
  | response {r : Response} {stats : Option RosterSizes} {trace trace' : Trace} :
      Agree (.mk (.response r) stats trace) (.mk (.response r) stats trace')

/-! ### Steps -/

namespace SetStep

/-- A step inside which nobody else runs, and a harmless stimulus. -/
def Plain (s : WatchSet β) : SetStep Stimulus → Prop
  | add _ _ _ others => others = none
  | remove _ others => others = none
  | poll _ others => others = none
  | destroy => True
  | ask q => q ≠ .text
  | stimulus x => x.Harmless s.roster.value.added
  | rounds .. => False
  | malformed .. => False

/-- Each step is plain when it is taken. -/
def PlainAll [Facility β] [Stimulated β Stimulus] : List (SetStep Stimulus) → WatchSet β → Prop
  | [], _ => True
  | step :: rest, s => step.Plain s ∧ PlainAll rest (step.run s).2

end SetStep

namespace WatchSet

variable [Facility β] [Registry β] [Levelled β] [LawfulLevelled β] [LawfulRegistry β]
  [Facility β'] [Registry β'] [Levelled β'] [LawfulLevelled β'] [LawfulRegistry β']
  {s : WatchSet β} {s' : WatchSet β'}

theorem Twin.take (ht : Twin s s') :
    Twin { s with host := (Trace.take s.host).2 } { s' with host := (Trace.take s'.host).2 } := by
  refine ⟨ht.rosters, ht.threadSafe, ht.held, ht.capacity, ht.destroyed, ht.world, ?_, ?_⟩
  · exact ht.left.congr rfl rfl rfl ht.left.serving.unscripted.shown ht.left.valid ht.left.dry
  · exact ht.right.congr rfl rfl rfl ht.right.serving.unscripted.shown ht.right.valid ht.right.dry

/-- What is seen of a step on twins agrees, if their replies do. -/
theorem Twin.observe (ht : Twin s s') {reply reply' : SetReply SetObservation}
    (hagree : ∀ stats trace trace',
      SetObservation.Agree (.mk reply stats trace) (.mk reply' stats trace')) :
    SetObservation.Agree (SetStep.observe reply s).1 (SetStep.observe reply' s').1 ∧
      Twin (SetStep.observe reply s).2 (SetStep.observe reply' s').2 := by
  refine ⟨?_, ht.take⟩
  simp only [SetStep.observe, ht.stats]
  exact hagree ..

theorem Twin.stimulate (ht : Twin s s') {x : Stimulus}
    (hx : x.Harmless s.roster.value.added) :
    Twin { s with host := (x.stimulate s.host).2 } { s' with host := (x.stimulate s'.host).2 } := by
  obtain ⟨l, hl⟩ := ht.rosters
  refine ⟨⟨l, hl⟩, ht.threadSafe, ht.held, ht.capacity, ht.destroyed, hx.world ht.world,
    hx.served ht.left, ?_⟩
  rw [hl.added] at hx
  exact hx.served ht.right

variable [Stimulated β Stimulus] [KernelStimulated β] [Stimulated β' Stimulus]
  [KernelStimulated β']

/-- **A step** on twins shows the same, but for the order of events, and leaves twins. -/
theorem Twin.step (ht : Twin s s') (hs : s.Settled) (hs' : s'.Settled) (hpos : 0 < s.capacity)
    (hmax : s.capacity ≤ 2147483647) {step : SetStep Stimulus} (hplain : step.Plain s) :
    SetObservation.Agree (step.run s).1 (step.run s').1 ∧ Twin (step.run s).2 (step.run s').2 := by
  rw [SetStep.run.eq_def, SetStep.run.eq_def]
  simp only [hs.blocks, hs'.blocks, Bool.false_eq_true, if_false]
  cases step with
  | add d i id others =>
      obtain rfl : others = none := hplain
      obtain ⟨outcome, t, t', hadd, hadd', htwin⟩ := ht.add hs hs' d i id
      simp only [finishWith, hadd, hadd']
      exact htwin.observe fun _ _ _ => .ended .none
  | remove d others =>
      obtain rfl : others = none := hplain
      obtain ⟨outcome, t, t', hremove, hremove', htwin⟩ := ht.remove hs hs' d
      simp only [finishWith, hremove, hremove']
      exact htwin.observe fun _ _ _ => .ended .none
  | poll timeout others =>
      obtain rfl : others = none := hplain
      obtain ⟨answer, answer', t, t', hpoll, hpoll', hsame, htwin⟩ :=
        ht.poll hs hs' hpos hmax SetStep.leftOver timeout
      obtain ⟨outcome, events⟩ := answer
      obtain ⟨outcome', events'⟩ := answer'
      obtain ⟨rfl, hperm⟩ := hsame
      simp only [finishWith, hpoll, hpoll']
      refine htwin.observe fun _ _ _ => .ended ?_
      cases outcome' with
      | done _ | failed _ => exact .some hperm.symm
      | halted _ => exact .none
  | destroy =>
      obtain ⟨hsame, htwin⟩ := ht.destroy
      simp only [hsame]
      exact htwin.observe fun _ _ _ => .ended .none
  | ask q =>
      simp only [ht.answer hplain]
      exact ht.observe fun _ _ _ => .ended .none
  | stimulus x =>
      simp only [KernelStimulated.stimulate]
      exact (ht.stimulate hplain).observe fun _ _ _ => .response
  | rounds | malformed => exact hplain.elim

/-- **Plain steps** on twins show the same, but for the order of events. -/
theorem Twin.steps (hroom : KeepsRoom β) (hroom' : KeepsRoom β') (ht : Twin s s') (hs : s.Settled)
    (hs' : s'.Settled) (hpos : 0 < s.capacity) (hmax : s.capacity ≤ 2147483647)
    {steps : List (SetStep Stimulus)} (hplain : SetStep.PlainAll steps s) :
    List.Forall₂ SetObservation.Agree (SetStep.runAll steps s).1 (SetStep.runAll steps s').1 := by
  induction steps generalizing s s' with
  | nil =>
      simp only [SetStep.runAll]
      exact .nil
  | cons step rest ih =>
      obtain ⟨hfirst, hrest⟩ := hplain
      obtain ⟨hagree, htwin⟩ := ht.step hs hs' hpos hmax hfirst
      obtain ⟨hsettled, hcapacity⟩ := hs.step hroom step
      simp only [SetStep.runAll]
      refine .cons hagree (ih htwin hsettled (hs'.step hroom' step).1 ?_ ?_ hrest)
      · rwa [hcapacity]
      · rwa [hcapacity]

end WatchSet

/-! ### Scenarios -/

/-- A new set on `poll`. -/
def Poll.newSet (capacity : Nat) (threadSafe : Bool) : WatchSet Poll :=
  .ofHost ⟨{}, {}, #[]⟩ capacity threadSafe

/-- A new set on `epoll`. -/
def Epoll.newSet (capacity : Nat) (threadSafe : Bool) : WatchSet Epoll :=
  .ofHost ⟨⟨⟨1000⟩⟩, { live := [1000], nextHandle := 1001 }, #[]⟩ capacity threadSafe

theorem twin_newSet (capacity : Nat) (threadSafe : Bool) :
    (Poll.newSet capacity threadSafe).Twin (Epoll.newSet capacity threadSafe) := by
  refine ⟨⟨{}, Roster.twins_empty⟩, rfl, rfl, rfl, rfl, rfl, ?_, ?_⟩
  · refine ⟨⟨⟨rfl, rfl, rfl⟩, rfl, fun _ => ⟨⟨List.nodup_nil, nofun⟩, nofun⟩⟩, nofun, nofun⟩
  · refine ⟨⟨⟨rfl, rfl, rfl⟩, ⟨rfl, rfl⟩, fun _ => ⟨⟨List.nodup_nil, nofun⟩, nofun⟩⟩, nofun, nofun⟩

namespace SetRun

theorem play_poll {capacity : Nat} (hpos : 0 < capacity) (threadSafe : Bool)
    (steps : List (SetStep Stimulus)) :
    (play Poll.create {} capacity threadSafe steps).rest.map Prod.fst =
      some (SetStep.runAll steps (Poll.newSet capacity threadSafe)).1 := by
  simp only [play, Poll.create, WatchSet.create, if_neg (Nat.ne_of_gt hpos)]
  rfl

theorem play_epoll {capacity : Nat} (hpos : 0 < capacity) (threadSafe : Bool)
    (steps : List (SetStep Stimulus)) :
    (play Epoll.create {} capacity threadSafe steps).rest.map Prod.fst =
      some (SetStep.runAll steps (Epoll.newSet capacity threadSafe)).1 := by
  have hcreate : Epoll.create {} =
      (.done ⟨⟨1000⟩⟩, { calls := #[.epollCreate], live := [1000], nextHandle := 1001 }) := rfl
  simp only [play, hcreate, WatchSet.create, if_neg (Nat.ne_of_gt hpos)]
  rfl

/-- **`poll` and `epoll` can be interchanged.**  A scenario of plain steps shows the same on both:
every call has the same result, the rings have the same sizes, and each poll reports the same events
in some order. -/
theorem poll_agrees_with_epoll {capacity : Nat} (hpos : 0 < capacity)
    (hmax : capacity ≤ 2147483647) (threadSafe : Bool) {steps : List (SetStep Stimulus)}
    (hplain : SetStep.PlainAll steps (Poll.newSet capacity threadSafe)) :
    ∃ seen seen',
      (play Poll.create {} capacity threadSafe steps).rest.map Prod.fst = some seen ∧
      (play Epoll.create {} capacity threadSafe steps).rest.map Prod.fst = some seen' ∧
      List.Forall₂ SetObservation.Agree seen seen' :=
  ⟨_, _, play_poll hpos threadSafe steps, play_epoll hpos threadSafe steps,
    (twin_newSet capacity threadSafe).steps Poll.keepsRoom Epoll.keepsRoom
      (WatchSet.settled_ofHost ..) (WatchSet.settled_ofHost ..) hpos hmax hplain⟩

/-- An invalid and a negative descriptor are refused.  Two descriptors are ready, one is removed
between two polls, and the set is destroyed before a last one. -/
theorem poll_agrees_with_epoll_destroyed :
    let steps := [.stimulus (.invalidate 9), .stimulus (.level 5 1), .stimulus (.level 6 4),
      .add (.socket 9) .both ⟨0⟩ none, .add (.socket (-1)) .both ⟨0⟩ none,
      .add (.socket 5) .readable ⟨1⟩ none, .add (.socket 6) .both ⟨2⟩ none, .poll none none,
      .remove (.socket 5) none, .poll none none, .ask .len, .destroy, .poll none none,
      .remove (.socket 6) none]
    SetStep.PlainAll steps (Poll.newSet 2 true) ∧
      ∃ seen seen', (play Poll.create {} 2 true steps).rest.map Prod.fst = some seen ∧
        (play Epoll.create {} 2 true steps).rest.map Prod.fst = some seen' ∧
        List.Forall₂ SetObservation.Agree seen seen' := by
  intro steps
  have hplain : SetStep.PlainAll steps (Poll.newSet 2 true) :=
    ⟨nofun, rfl, rfl, rfl, rfl, rfl, rfl, rfl, rfl, rfl, nofun, trivial, rfl, rfl, trivial⟩
  exact ⟨hplain, poll_agrees_with_epoll (by decide) (by decide) true hplain⟩

end SetRun

end Readiness
