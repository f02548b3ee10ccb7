import Readiness.Facility.Scripted
import Readiness.Proofs.InnerCalls
import Readiness.Proofs.PoisonedLocks

/-! # Broken promises

Whoever uses a set that is not thread safe promises that only one call at a time is in progress.
Calls that are made from inside the facility break the promise.

* **Inside a change** (`Moment.ChangeUndisturbed`).  All of them are refused, and the change ends as
  it would have ended without them.
* **Inside a poll** (`Moment.PollUndisturbed`).  Polls are refused, and the outer poll ends as it
  would have ended without them.  The other calls do what they always do.
* **Afterwards** (`WatchSet.Unlocked`).  The locks are free, and they can be taken although a call
  that was refused may have poisoned the mutex of the buffer.

`Moment.broken_promises_are_harmless` says this of every moment of every run. -/

namespace Readiness

open SetCall

variable {β ρ : Type}

/-! ### Locks that are free -/

/-- A call acquires the locks that it takes at its start. -/
def SetCall.Acquires (s : WatchSet β) : SetCall → Prop
  | add d i => ∀ cause, s.beginAdd d i (.ofDescriptor d) ≠ .error (.halted cause)
  | addWithId d i id => ∀ cause, s.beginAdd d i id ≠ .error (.halted cause)
  | remove d => ∃ begun, s.beginRemove d = .ok begun
  | poll .. => ∃ begun, s.beginPoll = .ok begun
  | len => ∃ n, s.len = .ok n
  | isEmpty => ∃ b, s.isEmpty = .ok b
  | stats => ∃ sizes, s.stats = .ok sizes

/-- The locks of a set are free, apart from the one on the buffer if a poll is in progress, and no
mark on a mutex keeps anybody away. -/
structure WatchSet.Unlocked (polling : Bool) (s : WatchSet β) : Prop where
  acquires : ∀ c : SetCall, (c.isPoll = true → polling = false) → c.Acquires s
  roster : s.roster.Available
  buffer : polling = false → s.buffer.Available

namespace WatchSet

variable {s : WatchSet β}

theorem beginAdd_ne_halted (hfree : s.roster.held = false) (d : Descriptor) (i : Interests)
    (id : EventId) (cause : Halt) : s.beginAdd d i id ≠ .error (.halted cause) := by
  intro h
  simp only [beginAdd, Lock.acquire, hfree, Bool.false_eq_true, if_false] at h
  split at h <;> cases h

theorem unlocked_of_free {polling : Bool} (hroster : s.roster.held = false)
    (hbuffer : s.buffer.held = polling) : s.Unlocked polling where
  acquires := by
    intro c hc
    have hread : s.roster.read = .ok s.roster.value := by
      simp [Lock.read, Lock.acquire, hroster, Except.map]
    cases c with
    | add d i => exact beginAdd_ne_halted hroster d i _
    | addWithId d i id => exact beginAdd_ne_halted hroster d i id
    | remove d => simp [Acquires, beginRemove, Lock.acquire, hroster]
    | poll events timeout =>
        obtain rfl := hc rfl
        simp [Acquires, beginPoll, Lock.acquire, hbuffer, hread]
    | len => simp [Acquires, WatchSet.len, hread, Except.map]
    | isEmpty => simp [Acquires, WatchSet.isEmpty, WatchSet.len, hread, Except.map]
    | stats => simp [Acquires, WatchSet.stats, hread, Except.map]
  roster := Lock.available_of_free hroster
  buffer := fun hpolling => Lock.available_of_free (hbuffer.trans hpolling)

end WatchSet

variable [Facility β] {W : Host β → Host β → Prop}

namespace Moment

variable {m m' : Moment β} {a : Label β} {l : RosterLists} {L : List (Label β)}

/-- The locks of the set never wait. -/
structure NeverWaits (m : Moment β) : Prop where
  roster : m.set.roster.threadSafe = false
  buffer : m.set.buffer.threadSafe = false

theorem NeverWaits.step (h : m.NeverWaits) (hs : Step W m a m') : m'.NeverWaits := by
  cases hs with
  | world | refuseAdd | refuseRemove | refusePoll => exact ⟨h.roster, h.buffer⟩
  | callChange | resumeChange | callWait | resumeWait => exact ⟨h.roster, h.buffer⟩
  | beginAdd d i id hb =>
      obtain ⟨-, -, -, roster, -, rfl⟩ := WatchSet.beginAdd_eq_ok hb
      exact ⟨h.roster, h.buffer⟩
  | beginRemove d hb =>
      obtain ⟨-, -, -, rfl⟩ := WatchSet.beginRemove_eq_ok hb
      exact ⟨h.roster, h.buffer⟩
  | endChange hc =>
      constructor
      · rw [Change.roster_finish]
        exact h.roster
      · rw [Change.buffer_finish]
        exact h.buffer
  | beginPoll timeout hb =>
      obtain ⟨-, -, -, rfl⟩ := WatchSet.beginPoll_eq_ok hb
      exact ⟨h.roster, h.buffer⟩
  | endPoll hp he =>
      obtain ⟨-, hbuffer, ⟨-, hroster, -⟩ | ⟨-, -, hroster, -⟩⟩ := WatchSet.finishPoll_eq he
      · exact ⟨by rw [hroster]; exact h.roster, by rw [hbuffer]; exact h.buffer⟩
      · exact ⟨by rw [hroster]; exact h.roster, by rw [hbuffer]; exact h.buffer⟩
  | destroy =>
      constructor
      · rw [WatchSet.roster_destroy]
        exact h.roster
      · rw [WatchSet.buffer_destroy]
        exact h.buffer

theorem NeverWaits.run (h : m.NeverWaits) (hr : Run W m L m') : m'.NeverWaits := by
  induction hr with
  | refl m => exact h
  | step hs _ ih => exact ih (h.step hs)

/-- What is reached while no change is in progress is unlocked. -/
theorem Reaches.unlocked {s : WatchSet β} (h : m.Reaches W s) (hm : m.Shows l)
    (hchange : m.change = none) : s.Unlocked m.poll.isSome := by
  obtain ⟨L, m', hr, rfl, hchange', hpoll⟩ := h
  obtain ⟨l', hm', -⟩ := hm.run hr
  refine WatchSet.unlocked_of_free ?_ ?_
  · rw [hm'.roster_held, hchange', hchange]
    rfl
  · rw [hm'.buffer_held, hpoll]

end Moment

/-! ### Calls inside a change -/

/-- Each call is refused, and writes its line to the log; nothing else happens. -/
def SetCall.AllRefused (calls : List SetCall) (s : WatchSet β) : Prop :=
  makeAll calls s = (calls.map fun c => (c, c.refusal), s.notes (calls.filterMap line?))

namespace Moment

variable {m : Moment β} {l : RosterLists}

/-- Calls inside a change do not disturb it. -/
structure ChangeUndisturbed (calls : List SetCall)
    (call : WatchSet β → Progress (WatchSet β) ρ × WatchSet β) (m : Moment β) : Prop where
  /-- If they are made, they are refused. -/
  refused : ∀ resume s, call m.set = (.inside resume, s) → AllRefused calls s
  /-- The change has the outcome that it has without them. -/
  outcome : (Progress.among (makeAll calls) (call m.set)).1.1 = (Progress.alone (call m.set)).1
  /-- It leaves the set that it leaves without them, up to the log. -/
  left : (Progress.alone (call m.set)).2.Alike (Progress.among (makeAll calls) (call m.set)).2
  unlocked : (Progress.among (makeAll calls) (call m.set)).2.Unlocked m.poll.isSome

theorem changeUndisturbed (hsafe : m.NeverWaits) (hm : m.Shows l) (hchange : m.change = none)
    (calls : List SetCall) {call : WatchSet β → Progress (WatchSet β) ρ × WatchSet β}
    (hcall : m.set.IsChange call)
    (hreaches : m.Reaches W (Progress.among (makeAll calls) (call m.set)).2) :
    ChangeUndisturbed calls call m := by
  have hrefused : ∀ resume s, call m.set = (.inside resume, s) → AllRefused calls s := by
    intro resume s hinside
    obtain ⟨hheld, hroster, hbuffer⟩ := hcall.held hinside
    exact makeAll_of_held ⟨hheld, hroster.trans hsafe.roster⟩ (by rw [hbuffer]; exact hsafe.buffer)
      calls
  -- the calls inside have changed nothing but the log, and the change does not read it
  have hsame := (hcall.matches (.refl m.set)).alone_among (makeAll calls)
    fun resume s hinside => by
      rw [hrefused resume s hinside]
      exact WatchSet.alike_notes ..
  exact ⟨hrefused, hsame.1.symm, hsame.2, hreaches.unlocked hm hchange⟩

/-! ### Calls inside a poll -/

/-- Polls inside a poll do not disturb it, and other calls are not disturbed by it. -/
structure PollUndisturbed (calls : List SetCall) (events : List Event) (timeout : Option Duration)
    (m : Moment β) : Prop where
  /-- If they are made, each poll is refused in its turn. -/
  refused : ∀ resume s, m.set.poll events timeout = (.inside resume, s) →
    ∀ before c after, calls = before ++ c :: after → c.isPoll = true →
      c.make (makeAll before s).2 = (c.refusal, (makeAll before s).2.notes c.line?.toList)
  /-- The other calls answer and do what they would if no poll were in progress. -/
  others : ∀ resume s, m.set.poll events timeout = (.inside resume, s) →
    (makeAll calls s).1.filter (fun p => !p.1.isPoll) =
        (makeAll (dropPolls calls) (s.withBuffer m.set.buffer)).1 ∧
      ((makeAll (dropPolls calls) (s.withBuffer m.set.buffer)).2.withBuffer s.buffer).Alike
        (makeAll calls s).2
  /-- The outer poll has the result that it has without the polls. -/
  outcome : (Progress.among (makeAll calls) (m.set.poll events timeout)).1.1 =
    (Progress.among (makeAll (dropPolls calls)) (m.set.poll events timeout)).1.1
  /-- It leaves the set that it leaves without them, up to the log. -/
  left : (Progress.among (makeAll (dropPolls calls)) (m.set.poll events timeout)).2.Alike
    (Progress.among (makeAll calls) (m.set.poll events timeout)).2
  unlocked : (Progress.among (makeAll calls) (m.set.poll events timeout)).2.Unlocked false

variable [LogBlind β]

theorem pollUndisturbed (hsafe : m.NeverWaits) (hm : m.Shows l) (hchange : m.change = none)
    (hpoll : m.poll = none) (calls : List SetCall) (events : List Event)
    (timeout : Option Duration)
    (hreaches : m.Reaches W (Progress.among (makeAll calls) (m.set.poll events timeout)).2) :
    PollUndisturbed calls events timeout m := by
  have hlock : ∀ resume s, m.set.poll events timeout = (.inside resume, s) →
      s.buffer.Refusing := by
    intro resume s hinside
    rw [WatchSet.poll_held hinside]
    exact ⟨rfl, hsafe.buffer⟩
  have hsame := (WatchSet.blind_poll events timeout _ _ (.refl m.set)).among
    (makeAll (dropPolls calls)) (makeAll calls) fun resume s hinside =>
      (makeAll_dropPolls (.refl s) (hlock resume s hinside) calls).2
  refine { refused := ?_, others := ?_, outcome := hsame.1.symm, left := hsame.2, unlocked := ?_ }
  · -- no call before it has given the buffer free
    intro resume s hinside before c after _ hc
    have hheld := hlock resume s hinside
    have hbuffer := buffer_makeAll_of_held hheld before
    exact make_poll_of_held (by rwa [hbuffer]) hc
  · intro resume s hinside
    have hdrop : ∀ c ∈ dropPolls calls, c.isPoll = false := by
      intro c hc
      simpa using (List.mem_filter.mp hc).2
    have hbuffer : makeAll (dropPolls calls) s = Prod.map id (WatchSet.withBuffer s.buffer)
        (makeAll (dropPolls calls) (s.withBuffer m.set.buffer)) :=
      makeAll_withBuffer hdrop s.buffer (s.withBuffer m.set.buffer)
    have hothers := makeAll_dropPolls (.refl s) (hlock resume s hinside) calls
    rwa [hbuffer] at hothers
  · have hunlocked := hreaches.unlocked hm hchange
    rwa [hpoll] at hunlocked

/-! ### The main result -/

/-- **Broken promises do no harm.**  Take any moment of any run of a set that is not thread safe,
and any calls.  While a change is in progress all of them are refused, whatever the facility is, and
a poll among them that gets the buffer poisons its mutex.  While a poll is in progress all polls are
refused.  Made inside a change, or inside a poll, the calls leave it undisturbed, and after it every
call acquires its locks again. -/
theorem broken_promises_are_harmless {host : Host β} {capacity : Nat} {L : List (Label β)}
    (hr : Run W (start host capacity false) L m) (calls : List SetCall) :
    (m.change.isSome = true → AllRefused calls m.set ∧
      ∀ (roster : Mutex Roster) (buffer : Mutex NativeBuffer), roster.toLock = m.set.roster →
        buffer.toLock = m.set.buffer → m.poll = none →
        Mutex.startPoll roster buffer =
          (.error .concurrentUse, roster, { buffer with poisoned := true })) ∧
      (m.poll.isSome = true → ∀ c : SetCall, c.isPoll = true →
        c.make m.set = (c.refusal, m.set.notes c.line?.toList)) ∧
      (m.change = none →
        (∀ d i id, ChangeUndisturbed calls (WatchSet.add d i id) m) ∧
          ∀ d, ChangeUndisturbed calls (WatchSet.remove d) m) ∧
      (m.change = none → m.poll = none →
        ∀ events timeout, PollUndisturbed calls events timeout m) := by
  obtain ⟨l, hm, -⟩ := (shows_start host capacity false).run hr
  have hsafe : m.NeverWaits := NeverWaits.run ⟨rfl, rfl⟩ hr
  have hothers : Realized W (leftBy (some (makeAll calls))) := realized_makeAll calls
  refine ⟨fun hchange => ⟨?_, ?_⟩, fun hpoll c hc => ?_,
    fun hchange => ⟨fun d i id => ?_, fun d => ?_⟩, fun hchange hpoll events timeout => ?_⟩
  · exact makeAll_of_held ⟨hm.roster_held.trans hchange, hsafe.roster⟩ hsafe.buffer calls
  · intro roster buffer hroster hbuffer hpoll
    refine Mutex.startPoll_of_held ?_ ?_
    · rw [hroster]
      exact ⟨hm.roster_held.trans hchange, hsafe.roster⟩
    · rw [hbuffer, hm.buffer_held, hpoll]
      rfl
  · exact make_poll_of_held ⟨hm.buffer_held.trans hpoll, hsafe.buffer⟩ hc
  · have hreaches : m.Reaches W (Progress.among (makeAll calls) (m.set.add d i id)).2 :=
      realized_add d i id hothers m l hm
    exact changeUndisturbed hsafe hm hchange calls (m.set.isChange_add d i id) hreaches
  · have hreaches : m.Reaches W (Progress.among (makeAll calls) (m.set.remove d)).2 :=
      realized_remove d hothers m l hm
    exact changeUndisturbed hsafe hm hchange calls (m.set.isChange_remove d) hreaches
  · have hreaches : m.Reaches W (Progress.among (makeAll calls) (m.set.poll events timeout)).2 :=
      realized_poll events timeout hothers m l hm
    exact pollUndisturbed hsafe hm hchange hpoll calls events timeout hreaches

/-- The set is asked for its length, polled and added to, from inside an adding and from inside a
poll. -/
theorem broken_promises_are_harmless_inside_both :
    ∃ (m m' : Moment Scripted) (L L' : List (Label Scripted)) (calls : List SetCall),
      calls = [.len, .poll [] none, .add (.socket 51) .readable] ∧
      Run (fun _ _ => False) (start ⟨{ pending := [⟨.pack 0 0, .readable⟩] }, {}, #[]⟩ 4 false)
        L m ∧
      Run (fun _ _ => False) (start ⟨{ pending := [⟨.pack 0 0, .readable⟩] }, {}, #[]⟩ 4 false)
        L' m' ∧
      AllRefused calls m'.set ∧
      (Progress.among (makeAll calls) (m.set.add (.socket 52) .readable ⟨7⟩)).1 =
        (.done (), some (calls.map fun c => (c, c.refusal))) ∧
      (Progress.among (makeAll calls) (m.set.poll [] none)).1 =
        ((.done 1, [⟨.socket 50, ⟨50⟩, .readable⟩]), some [(.len, .counted (.ok 1)),
          (.poll [] none, .polled (.halted .concurrentUse) []),
          (.add (.socket 51) .readable, .added (.done ()))]) ∧
      (Progress.among (makeAll calls) (m.set.poll [] none)).2.Unlocked false := by
  obtain ⟨m, m', L, L', calls, hcalls, h, h', hchange, hpoll, hchange', hadd, hrefusals, hreport,
      hanswers⟩ :
      ∃ (m m' : Moment Scripted) (L L' : List (Label Scripted)) (calls : List SetCall),
        calls = [.len, .poll [] none, .add (.socket 51) .readable] ∧
        Run (fun _ _ => False) (start ⟨{ pending := [⟨.pack 0 0, .readable⟩] }, {}, #[]⟩ 4 false)
          L m ∧
        Run (fun _ _ => False) (start ⟨{ pending := [⟨.pack 0 0, .readable⟩] }, {}, #[]⟩ 4 false)
          L' m' ∧
        m.change = none ∧ m.poll = none ∧ m'.change.isSome = true ∧
        (Progress.alone (m.set.add (.socket 52) .readable ⟨7⟩)).1 = .done () ∧
        (Progress.among (makeAll calls) (m.set.add (.socket 52) .readable ⟨7⟩)).1.2 =
          some (calls.map fun c => (c, c.refusal)) ∧
        (Progress.among (makeAll (dropPolls calls)) (m.set.poll [] none)).1.1 =
          (.done 1, [⟨.socket 50, ⟨50⟩, .readable⟩]) ∧
        (Progress.among (makeAll calls) (m.set.poll [] none)).1.2 = some [(.len, .counted (.ok 1)),
          (.poll [] none, .polled (.halted .concurrentUse) []),
          (.add (.socket 51) .readable, .added (.done ()))] := by
    exact ⟨_, _, _, _, _, rfl,
      .step (.beginAdd (.socket 50) .readable ⟨50⟩ rfl) <| .step (.callChange rfl rfl) <|
      .step (.resumeChange rfl rfl) <| .step (.endChange rfl) <| .refl _,
      .step (.beginAdd (.socket 50) .readable ⟨50⟩ rfl) <| .step (.callChange rfl rfl) <| .refl _,
      rfl, rfl, rfl, rfl, rfl, rfl, rfl⟩
  obtain ⟨-, -, hchanges, hpolls⟩ := broken_promises_are_harmless h calls
  obtain ⟨hrefused, -⟩ := (broken_promises_are_harmless h' calls).1 hchange'
  have hundisturbed := (hchanges hchange).1 (.socket 52) .readable ⟨7⟩
  have hundisturbed' := hpolls hchange hpoll [] none
  exact ⟨m, m', L, L', calls, hcalls, h, h', hrefused,
    Prod.ext (hundisturbed.outcome.trans hadd) hrefusals,
    Prod.ext (hundisturbed'.outcome.trans hreport) hanswers, hundisturbed'.unlocked⟩

end Moment

end Readiness
