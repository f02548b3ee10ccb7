import Readiness.Proofs.Registrations
import Readiness.Scenario.SetSteps

/-! # Scenarios are runs

What a scenario does to a set is what a run of `Moment.Step` does to it, so that all that holds of
runs holds of scenarios.

* **Realizing** (`Realized`).  A function on sets is realized if from every moment a run leads to
  its value, and leaves the change and the poll in progress as they were.
* **Calls.**  `WatchSet.add`, `WatchSet.remove` and `WatchSet.poll` are realized, with whatever runs
  inside them, if that is realized.
* **Scenarios.**  `realized_run` and `realized_runAll` say it of all steps, by induction on the
  steps that run inside others.
* **Registrations.**  What a scenario does besides, it does not do to the registrations of `epoll`,
  `poll` or `kqueue`. -/

namespace Readiness

open Moment

variable {β α : Type} [Facility β]

/-- A run leads from a moment to a set, with the same calls in progress. -/
def Moment.Reaches (W : Host β → Host β → Prop) (m : Moment β) (s : WatchSet β) : Prop :=
  ∃ L m', Run W m L m' ∧ m'.set = s ∧ m'.change = m.change ∧ m'.poll = m.poll

/-- What a function does to sets can be done by runs. -/
def Realized (W : Host β → Host β → Prop) (f : WatchSet β → WatchSet β) : Prop :=
  ∀ (m : Moment β) (l : RosterLists), m.Shows l → m.Reaches W (f m.set)

variable {W : Host β → Host β → Prop} {f g : WatchSet β → WatchSet β}

theorem realized_id : Realized W id := fun m _ _ => ⟨[], m, .refl m, rfl, rfl, rfl⟩

theorem Realized.comp (hg : Realized W g) (hf : Realized W f) : Realized W fun s => g (f s) := by
  intro m l hm
  obtain ⟨L, m₁, hr, hset, hchange, hpoll⟩ := hf m l hm
  obtain ⟨l₁, hm₁, -⟩ := hm.run hr
  obtain ⟨L', m₂, hr', hset', hchange', hpoll'⟩ := hg m₁ l₁ hm₁
  exact ⟨L ++ L', m₂, hr.trans hr', by rw [hset', hset], hchange'.trans hchange,
    hpoll'.trans hpoll⟩

theorem realized_world (act : Host β → Host β) (h : ∀ host, W host (act host)) :
    Realized W fun s => { s with host := act s.host } :=
  fun m _ _ => ⟨_, _, .single (.world (h m.set.host)), rfl, rfl, rfl⟩

theorem realized_destroy : Realized W fun s => s.destroy.2 :=
  fun _ _ _ => ⟨_, _, .single .destroy, rfl, rfl, rfl⟩

/-! ### Calls with others inside -/

/-- What others leave that run inside a call. -/
def leftBy {σ : Type} (others : Option (σ → α × σ)) (s : σ) : σ :=
  match others with
  | none => s
  | some others => (others s).2

theorem finishWith_returned {σ ρ : Type} (others : Option (σ → α × σ)) (r : ρ) (s : σ) :
    (finishWith others (.returned r, s)).2 = s := by
  cases others <;> rfl

theorem finishWith_inside {σ ρ : Type} (others : Option (σ → α × σ)) (resume : σ → ρ × σ) (s : σ) :
    (finishWith others (.inside resume, s)).2 = (resume (leftBy others s)).2 := by
  cases others <;> rfl

variable {others : Option (WatchSet β → α × WatchSet β)} {m : Moment β} {l : RosterLists}

/-- A change that is about to call the facility can be carried to its end. -/
theorem reaches_end_of_change {c : Change} {ρ : Type}
    {k : Outcome SystemError Unit → WatchSet β → ρ × WatchSet β} (hm : m.Shows l)
    (hc : m.change = some (c, .ready)) (hk : ∀ outcome s, (k outcome s).2 = c.finish outcome s)
    (hothers : Realized W (leftBy others)) :
    ∃ L m', Run W m L m' ∧ m'.set = (finishWith others (m.set.within c.call k)).2 ∧
      m'.change = none ∧ m'.poll = m.poll := by
  cases hp : c.call m.set.host with
  | mk p host =>
      have hcall := Step.callChange (W := W) hc hp
      unfold WatchSet.within Progress.within
      rw [hp]
      cases p with
      | returned outcome =>
          refine ⟨_, _, .step hcall (.single (.endChange rfl)), ?_, rfl, rfl⟩
          exact (hk outcome _).symm.trans (finishWith_returned ..).symm
      | inside resume =>
          obtain ⟨l₁, hstep⟩ := hm.step hcall
          obtain ⟨L, m₂, hr, hset, hchange, hpoll⟩ := hothers _ _ hstep.shows
          refine ⟨_, _, .step hcall (hr.trans (.step (.resumeChange hchange rfl)
            (.single (.endChange rfl)))), ?_, rfl, hpoll⟩
          rw [finishWith_inside, hset]
          exact (hk _ _).symm

/-- A poll that is about to wait can be carried to its end. -/
theorem reaches_end_of_poll {serial marker : Nat} {timeout : Option Duration} (hm : m.Shows l)
    (hp : m.poll = some ⟨serial, marker, timeout, .ready⟩) (hothers : Realized W (leftBy others)) :
    ∃ L m', Run W m L m' ∧
      m'.set = (finishWith others (m.set.within (Facility.wait m.set.buffer.value timeout)
        (WatchSet.finishPoll marker []))).2 ∧ m'.change = m.change ∧ m'.poll = none := by
  cases hw : Facility.wait m.set.buffer.value timeout m.set.host with
  | mk p host =>
      have hcall := Step.callWait (W := W) hp hw
      unfold WatchSet.within Progress.within
      rw [hw]
      cases p with
      | returned result =>
          refine ⟨_, _, .step hcall (.single (.endPoll rfl rfl)), ?_, rfl, rfl⟩
          exact (finishWith_returned ..).symm
      | inside resume =>
          obtain ⟨l₁, hstep⟩ := hm.step hcall
          obtain ⟨L, m₂, hr, hset, hchange, hpoll⟩ := hothers _ _ hstep.shows
          refine ⟨_, _, .step hcall (hr.trans (.step (.resumeWait hpoll rfl)
            (.single (.endPoll rfl rfl)))), ?_, hchange, rfl⟩
          rw [finishWith_inside, hset]
          rfl

theorem realized_add (d : Descriptor) (i : Interests) (id : EventId)
    (hothers : Realized W (leftBy others)) :
    Realized W fun s => (finishWith others (s.add d i id)).2 := by
  intro m l hm
  dsimp only [WatchSet.add]
  cases hb : (m.set.note (.adding d i id)).beginAdd d i id with
  | error outcome =>
      exact ⟨_, _, .single (.refuseAdd d i id hb), (finishWith_returned ..).symm, rfl, rfl⟩
  | ok begun =>
      obtain ⟨t, s⟩ := begun
      obtain ⟨hfree, -⟩ := WatchSet.beginAdd_eq_ok hb
      have hbegin := Step.beginAdd (W := W) d i id hb
      obtain ⟨l₁, hstep⟩ := hm.step hbegin
      obtain ⟨L, m', hr, hset, hchange, hpoll⟩ :=
        reaches_end_of_change (k := WatchSet.finishAdd d t) hstep.shows rfl (fun _ _ => rfl) hothers
      exact ⟨_, m', .step hbegin hr, hset, hchange.trans (hm.change_eq_none hfree).symm, hpoll⟩

theorem realized_remove (d : Descriptor) (hothers : Realized W (leftBy others)) :
    Realized W fun s => (finishWith others (s.remove d)).2 := by
  intro m l hm
  dsimp only [WatchSet.remove]
  cases hb : (m.set.note (.removing d)).beginRemove d with
  | error cause =>
      exact ⟨_, _, .single (.refuseRemove d hb), (finishWith_returned ..).symm, rfl, rfl⟩
  | ok begun =>
      obtain ⟨⟨found, i⟩, s⟩ := begun
      obtain ⟨hfree, -⟩ := WatchSet.beginRemove_eq_ok hb
      have hbegin := Step.beginRemove (W := W) d hb
      obtain ⟨l₁, hstep⟩ := hm.step hbegin
      obtain ⟨L, m', hr, hset, hchange, hpoll⟩ :=
        reaches_end_of_change (k := WatchSet.finishRemove d found) hstep.shows rfl
          (fun _ _ => rfl) hothers
      exact ⟨_, m', .step hbegin hr, hset, hchange.trans (hm.change_eq_none hfree).symm, hpoll⟩

theorem realized_poll (events : List Event) (timeout : Option Duration)
    (hothers : Realized W (leftBy others)) :
    Realized W fun s => (finishWith others (s.poll events timeout)).2 := by
  intro m l hm
  dsimp only [WatchSet.poll]
  cases hb : (m.set.note (.polling timeout)).beginPoll with
  | error cause =>
      exact ⟨_, _, .single (.refusePoll timeout hb), (finishWith_returned ..).symm, rfl, rfl⟩
  | ok begun =>
      obtain ⟨marker, s⟩ := begun
      obtain ⟨hfree, -⟩ := WatchSet.beginPoll_eq_ok hb
      have hbegin := Step.beginPoll (W := W) timeout hb
      obtain ⟨l₁, hstep⟩ := hm.step hbegin
      obtain ⟨L, m', hr, hset, hchange, hpoll⟩ := reaches_end_of_poll hstep.shows rfl hothers
      exact ⟨_, m', .step hbegin hr, hset, hchange, hpoll.trans (hm.poll_eq_none hfree).symm⟩

/-! ### Steps of a scenario -/

/-- What a scenario does to the host between the calls of the set: it shows what was seen, and it
changes the world. -/
inductive Around {β γ : Type} [Stimulated β γ] : Host β → Host β → Prop
  | taken (h : Host β) : Around h (Trace.take h).2
  | putBack (t : Trace) (h : Host β) : Around h (t.putBack h)
  | stimulated (x : γ) (h : Host β) : Around h (Stimulated.stimulate x h).2

variable {γ : Type} [Stimulated β γ]

theorem realized_observe (reply : SetReply SetObservation) :
    Realized (β := β) Around fun s => (SetStep.observe reply s).2 :=
  realized_world (fun h => (Trace.take h).2) Around.taken

theorem realized_aside {others : WatchSet β → α × WatchSet β}
    (h : Realized Around fun s => (others s).2) :
    Realized Around (leftBy (some (SetStep.aside others))) := by
  intro m l hm
  have htake : Realized (β := β) Around fun s => { s with host := (Trace.take s.host).2 } :=
    realized_world (fun h => (Trace.take h).2) Around.taken
  have hback : Realized (β := β) Around
      fun s => { s with host := (Trace.take m.set.host).1.putBack s.host } :=
    realized_world _ (Around.putBack _)
  exact hback.comp (h.comp htake) m l hm

theorem realized_repeatRound {round : WatchSet β → α × WatchSet β}
    (h : Realized Around fun s => (round s).2) (n : Nat) (last : Option α) :
    Realized Around fun s => (repeatRound round n last s).2 := by
  induction n generalizing last with
  | zero => exact realized_id
  | succ n ih =>
      intro m l hm
      exact (ih (some (round m.set).1)).comp h m l hm

/-- A step that is shown by its reply, unless it would wait for a lock. -/
theorem realized_shown {step : SetStep γ} (call : WatchSet β → α × WatchSet β)
    {reply : WatchSet β → SetReply SetObservation}
    (hstep : ∀ s : WatchSet β, step.run s =
      if step.kind.blocks s then SetStep.observe (.ended (.halted .deadlock) none none) s
      else SetStep.observe (reply s) (call s).2)
    (hcall : Realized (β := β) Around fun s => (call s).2) :
    Realized (β := β) Around fun s => (step.run s).2 := by
  intro m l hm
  dsimp only
  rw [hstep]
  split
  · exact realized_observe _ m l hm
  · exact (realized_observe (reply m.set)).comp hcall m l hm

mutual

/-- **Steps are runs.**  What a step of a scenario does to the set, with all the steps inside it, is
done by a run. -/
theorem realized_run : (step : SetStep γ) → Realized (β := β) Around fun s => (step.run s).2
  | .add d i id none =>
      realized_shown _ (fun s => by rw [SetStep.run.eq_def]) (realized_add d i id realized_id)
  | .add d i id (some steps) =>
      realized_shown _ (fun s => by rw [SetStep.run.eq_def])
        (realized_add d i id (realized_aside (realized_runAll steps)))
  | .remove d none =>
      realized_shown _ (fun s => by rw [SetStep.run.eq_def]) (realized_remove d realized_id)
  | .remove d (some steps) =>
      realized_shown _ (fun s => by rw [SetStep.run.eq_def])
        (realized_remove d (realized_aside (realized_runAll steps)))
  | .poll timeout none =>
      realized_shown _ (fun s => by rw [SetStep.run.eq_def])
        (realized_poll SetStep.leftOver timeout realized_id)
  | .poll timeout (some steps) =>
      realized_shown _ (fun s => by rw [SetStep.run.eq_def])
        (realized_poll SetStep.leftOver timeout (realized_aside (realized_runAll steps)))
  | .destroy => realized_shown _ (fun s => by rw [SetStep.run.eq_def]) realized_destroy
  | .ask q =>
      realized_shown (fun s => ((), s)) (fun s => by rw [SetStep.run.eq_def]) realized_id
  | .rounds n steps =>
      realized_shown _ (fun s => by rw [SetStep.run.eq_def])
        (realized_repeatRound (realized_runAll steps) n none)
  | .stimulus x =>
      realized_shown (fun s => ((), { s with host := (Stimulated.stimulate x s.host).2 }))
        (fun s => by rw [SetStep.run.eq_def])
        (realized_world (fun h => (Stimulated.stimulate x h).2) (Around.stimulated x))
  | .malformed kind hasOthers =>
      realized_shown (fun s => ((), s)) (fun s => by rw [SetStep.run.eq_def]) realized_id

/-- **Scenarios are runs.** -/
theorem realized_runAll : (steps : List (SetStep γ)) →
    Realized (β := β) Around fun s => (SetStep.runAll steps s).2
  | [] => by
      simp only [SetStep.runAll]
      exact realized_id
  | step :: rest => by
      simp only [SetStep.runAll]
      exact (realized_runAll rest).comp (realized_run step)

end

/-- A scenario on a new set is a run that ends with no call in progress, whatever the world may do
besides. -/
theorem exists_run (hW : ∀ h h', Around h h' → W h h') (host : Host β) (capacity : Nat)
    (threadSafe : Bool) (steps : List (SetStep γ)) :
    ∃ L m, Run W (start host capacity threadSafe) L m ∧
      m.set = (SetStep.runAll steps (.ofHost host capacity threadSafe)).2 ∧
      m.change = none ∧ m.poll = none := by
  obtain ⟨L, m, hr, hset, hchange, hpoll⟩ :=
    realized_runAll steps _ _ (shows_start host capacity threadSafe)
  exact ⟨L, m, hr.mono hW, hset, hchange, hpoll⟩

/-! ### Registrations in scenarios -/

theorem Stimulus.registrations_apply (x : Stimulus) (k : Kernel) :
    (x.apply k).epollRegistrations = k.epollRegistrations ∧
      (x.apply k).kqueueRegistrations = k.kqueueRegistrations := by
  cases x <;> exact ⟨rfl, rfl⟩

theorem Epoll.entries_of_around {h h' : Host Epoll} (ha : Around h h') :
    h'.entries = h.entries := by
  cases ha with
  | taken | putBack => rfl
  | stimulated x => exact (x.registrations_apply h.kernel).1

theorem Poll.entries_of_around {h h' : Host Poll} (ha : Around h h') : h'.entries = h.entries := by
  cases ha with
  | taken | putBack | stimulated => rfl

theorem Kqueue.entries_of_around {h h' : Host Kqueue} (ha : Around h h') :
    h'.entries = h.entries := by
  cases ha with
  | taken | putBack => rfl
  | stimulated x => exact (x.registrations_apply h.kernel).2

end Readiness
