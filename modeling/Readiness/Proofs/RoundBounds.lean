import Readiness.Proofs.TableRace

/-! # A bound on the rounds of a wait

A wait with `Poll` goes round after round without a counter, and every wake-up that others write
may make it go round once more.

* **Deeds.**  What others do during a wait is a schedule of deeds, each of which comes at any
  moment: the table is changed in any way, a wake-up is written, the facility is closed.  Watching
  and unwatching are such deeds (`exists_after_watch`, `exists_after_unwatch`).
* **Steps** (`Waiting.Step`).  The wait is cut as in `Race`, and in addition it may find the
  facility closed, be told that the waker is not readable although it is, and fail to drain it.  The
  kernel always answers, and says that the waker is readable only if a wake-up is pending.
* **Credit.**  A wake-up pays for one more call of the kernel, and draining uses up all of them
  (`Waiting.credit`).  The steps of a round are counted in the same way (`Waiting.stepsLeft`).
* **Rounds.**  What a round did can be read off the labels since its call (`Waiting.Traced`).

The wait of the facility is such a wait (`Waiting.exists_run_wait`). -/

namespace Readiness

theorem Kernel.calls_pollEach (k : Kernel) (entries : List (Int32 × UInt16)) :
    (k.pollEach entries).2.calls = k.calls := by
  induction entries generalizing k with
  | nil => rfl
  | cons entry rest ih =>
      refine (ih (k.pollOne entry).2).trans ?_
      unfold pollOne
      split
      · rfl
      · split <;> rfl

namespace Poll

theorem calls_answered (snapshot : List PollEntry) (k : Kernel) :
    (answered snapshot k).2.calls = k.calls :=
  Kernel.obey_keeps (fun _ _ => rfl) (fun k => k.calls_pollEach _) k

/-- What others do to the facility during a wait. -/
inductive Deed where
  /-- The table becomes another one. -/
  | change (table : List PollEntry)
  /-- A wake-up is written.  One that finds the pipe full is no deed. -/
  | wake
  | close
deriving DecidableEq, Repr

/-- The facility after a deed. -/
def Deed.apply (p : Poll) : Deed → Poll
  | change table => { p with table }
  | wake => p.wake
  | close => { p with table := [], closed := true }

/-- The facility after some deeds. -/
def after (schedule : List Deed) (p : Poll) : Poll := schedule.foldl Deed.apply p

/-- Watching changes the table and writes a wake-up, or does neither. -/
theorem exists_after_watch (fd : Int32) (i : Interests) (t : Tag) (h : Host Poll) :
    ∃ schedule, (watch fd i t h).2.facility = after schedule h.facility := by
  have hcheck : ∃ valid kernel, (if fd < 0 then (.failed .badDescriptor, h)
      else h.system (·.getFlags fd)) = (valid, { h with kernel }) := by
    split
    · exact ⟨_, h.kernel, rfl⟩
    · exact ⟨_, _, rfl⟩
  obtain ⟨valid, kernel, hcheck⟩ := hcheck
  rw [watch, hcheck]
  cases valid with
  | halted cause | failed cause => exact ⟨[], rfl⟩
  | done value =>
      dsimp only
      split
      · exact ⟨[], rfl⟩
      · split
        · exact ⟨[], rfl⟩
        · exact ⟨[.change _, .wake], rfl⟩

/-- So does unwatching. -/
theorem exists_after_unwatch (fd : Int32) (i : Interests) (h : Host Poll) :
    ∃ schedule, (unwatch fd i h).2.facility = after schedule h.facility := by
  unfold unwatch
  split
  · exact ⟨[], rfl⟩
  · split
    · exact ⟨[], rfl⟩
    · dsimp only
      split <;> exact ⟨[.change _, .wake], rfl⟩

theorem exists_after_close (h : Host Poll) :
    ∃ schedule, (close h).2.facility = after schedule h.facility := by
  unfold close
  split
  · exact ⟨[], rfl⟩
  · exact ⟨[.close], rfl⟩

/-- A facility with a wait in progress, and what others are still going to do. -/
structure Waiting where
  poll : Poll
  stage : WaitStage
  ahead : List Deed
deriving DecidableEq, Repr

/-- What may be left of a timeout.  A deadline that is too far away counts as none. -/
inductive Remains : Option Duration → Option Duration → Prop
  | endless : Remains none none
  | tooFar {d : Duration} : d ≠ .zero → Remains (some d) none
  | part {d left : Duration} : left.totalNanos ≤ d.totalNanos → Remains (some d) (some left)

theorem Remains.whole (timeout : Option Duration) : Remains timeout timeout := by
  cases timeout with
  | none => exact .endless
  | some d => exact .part (Nat.le_refl _)

namespace Waiting

/-- What a step means. -/
inductive Label where
  | others (d : Deed)
  | called (snapshot : List PollEntry)
  | answered (results : List UInt16) (woken : Bool)
  /-- So many wake-ups were drained. -/
  | drained (n : Nat)
  | again (remaining : Option Duration)
  | returned (outcome : Outcome SystemError Unit) (b : NativeBuffer)
deriving DecidableEq, Repr

/-- The table that the kernel is called with. -/
def Label.snapshot? : Label → Option (List PollEntry)
  | called snapshot => some snapshot
  | _ => none

/-- The kernel is called. -/
def Label.isCall (a : Label) : Bool := a.snapshot?.isSome

/-- A wake-up is written. -/
def Label.isWrite (a : Label) : Bool := a == .others .wake

/-- A part of the wait itself. -/
def Label.isOwn : Label → Bool
  | others _ => false
  | _ => true

/-- The tables that the kernel was called with. -/
def snapshots (L : List Label) : List (List PollEntry) := L.filterMap Label.snapshot?

/-- How often the kernel was called. -/
def calls (L : List Label) : Nat := L.countP Label.isCall

/-- How many wake-ups were written. -/
def writes (L : List Label) : Nat := L.countP Label.isWrite

/-- One part of a wait, or a deed of others. -/
inductive Step (timeout : Option Duration) : Waiting → Label → Waiting → Prop
  | others {w : Waiting} {d : Deed} {rest : List Deed} : w.ahead = d :: rest →
      Step timeout w (.others d) { w with poll := d.apply w.poll, ahead := rest }
  | refuse {w : Waiting} {b : NativeBuffer} : w.stage = .begun b → w.poll.closed = true →
      Step timeout w (.returned (.failed .badDescriptor) b.clear) { w with stage := .idle }
  | call {w : Waiting} {b : NativeBuffer} : w.stage = .begun b → w.poll.closed = false →
      Step timeout w (.called w.poll.table) { w with stage := .calling b.clear w.poll.table }
  | fail {w : Waiting} {b : NativeBuffer} {snapshot : List PollEntry}
      (outcome : Outcome SystemError Unit) : w.stage = .calling b snapshot → outcome ≠ .done () →
      Step timeout w (.returned outcome b) { w with stage := .idle }
  | answer {w : Waiting} {b : NativeBuffer} {snapshot : List PollEntry} (results : List UInt16)
      (woken : Bool) : w.stage = .calling b snapshot → (woken = true → w.poll.woken = true) →
      Step timeout w (.answered results woken)
        { w with stage := .answered (b.extend ((found snapshot results).take b.capacity)) woken }
  | drain {w : Waiting} {b : NativeBuffer} {woken : Bool} : w.stage = .answered b woken →
      Step timeout w (.drained (if woken then w.poll.wakeups else 0))
        { w with poll := if woken then w.poll.drain else w.poll, stage := .drained b woken }
  | undrained {w : Waiting} {b : NativeBuffer} (cause : SystemError) : w.stage = .answered b true →
      Step timeout w (.returned (.failed cause) b.clear) { w with stage := .idle }
  | again {w : Waiting} {b : NativeBuffer} {woken : Bool} {remaining : Option Duration} :
      w.stage = .drained b woken → Remains timeout remaining → goesOn woken b remaining = true →
      Step timeout w (.again remaining) { w with stage := .begun b }
  | finish {w : Waiting} {b : NativeBuffer} {woken : Bool} {remaining : Option Duration} :
      w.stage = .drained b woken → Remains timeout remaining → goesOn woken b remaining = false →
      Step timeout w (.returned (.done ()) b) { w with stage := .idle }

/-- Some steps, with their labels. -/
inductive Run (timeout : Option Duration) : Waiting → List Label → Waiting → Prop
  | refl (w : Waiting) : Run timeout w [] w
  | step {w w₁ w₂ : Waiting} {a : Label} {L : List Label} :
      Step timeout w a w₁ → Run timeout w₁ L w₂ → Run timeout w (a :: L) w₂

/-- A wait begins. -/
def start (p : Poll) (b : NativeBuffer) (schedule : List Deed) : Waiting where
  poll := p
  stage := .begun b
  ahead := schedule

variable {timeout : Option Duration} {w w₁ w₂ w' : Waiting} {a : Label} {L L' R : List Label}
  {b b' : NativeBuffer} {snapshot : List PollEntry} {woken : Bool}

theorem Run.trans (h : Run timeout w L w₁) (h' : Run timeout w₁ L' w₂) :
    Run timeout w (L ++ L') w₂ := by
  induction h with
  | refl w => exact h'
  | step hs _ ih => exact .step hs (ih h')

theorem Run.single (h : Step timeout w a w') : Run timeout w [a] w' := .step h (.refl w')

/-- A run can be stopped before any of its steps. -/
theorem Run.split (h : Run timeout w (L ++ a :: L') w') :
    ∃ w₁ w₂, Run timeout w L w₁ ∧ Step timeout w₁ a w₂ ∧ Run timeout w₂ L' w' := by
  induction L generalizing w with
  | nil =>
      cases h with
      | step hs hrest => exact ⟨w, _, .refl w, hs, hrest⟩
  | cons c L ih =>
      cases h with
      | step hs hrest =>
          obtain ⟨w₁, w₂, hbefore, hstep, hafter⟩ := ih hrest
          exact ⟨w₁, w₂, .step hs hbefore, hstep, hafter⟩

/-! ### The invariant -/

/-- If the wait was told that the waker is readable, it still is. -/
def Sound (w : Waiting) : Prop := ∀ b, w.stage = .answered b true → w.poll.woken = true

theorem Sound.step (h : Sound w) (hs : Step timeout w a w') : Sound w' := by
  intro b hstage
  cases hs with
  | @others d _ _ =>
      cases d with
      | wake => exact Race.woken_wake _
      | change table | close => exact h b hstage
  | answer results woken _ htold =>
      obtain ⟨-, rfl⟩ := WaitStage.answered.inj hstage
      exact htold rfl
  | refuse | call | fail | drain | undrained | again | finish => cases hstage

/-! ### Credit -/

/-- A number that grows by at most `gain` when a label brings something, and shrinks whenever a label
is paid for, bounds the labels of a run that are paid for. -/
theorem Run.countP_le {F : Waiting → Nat} {paid brings : Label → Bool} {gain : Nat}
    (hstep : ∀ {w a w'}, Sound w → Step timeout w a w' →
      F w' + (if paid a then 1 else 0) ≤ F w + if brings a then gain else 0)
    (hs : Sound w) (hr : Run timeout w L w') :
    F w' + L.countP paid ≤ F w + gain * L.countP brings := by
  induction hr with
  | refl w => simp
  | @step w w₁ w₂ a L hfirst hrest ih =>
      have hone := hstep hs hfirst
      have hmore := ih (hs.step hfirst)
      have hgain : gain * (if brings a then 1 else 0) = if brings a then gain else 0 := by
        split <;> simp
      rw [List.countP_cons, List.countP_cons, Nat.mul_add]
      omega

/-- How many calls of the kernel are paid for when `n` wake-ups are pending. -/
def credit (n : Nat) : WaitStage → Nat
  | .idle => 0
  | .begun _ => n + 1
  | .calling _ _ => n
  | .answered _ woken => if woken then n else 0
  | .drained _ woken => if woken then n + 1 else 0

theorem credit_succ (n : Nat) (stage : WaitStage) : credit (n + 1) stage ≤ credit n stage + 1 := by
  cases stage with
  | idle | begun | calling => simp [credit]
  | answered b woken | drained b woken => cases woken <;> simp [credit]

/-- A deed leaves the wake-ups that are pending, unless it writes one. -/
theorem wakeups_apply (p : Poll) (d : Deed) :
    (d.apply p).wakeups = p.wakeups + if (Label.others d).isWrite then 1 else 0 := by
  cases d <;> rfl

/-- A round goes on only if it was woken, has found nothing and has time left. -/
theorem goesOn_eq_true {remaining : Option Duration} :
    goesOn woken b remaining = true ↔
      woken = true ∧ b.isEmpty = true ∧ expired remaining = false := by
  simp [goesOn, and_assoc]

/-- **Paying for calls.**  A call of the kernel uses up credit, and only a wake-up brings some. -/
theorem Step.credit_le (hw : Sound w) (hs : Step timeout w a w') :
    credit w'.poll.wakeups w'.stage + (if a.isCall then 1 else 0) ≤
      credit w.poll.wakeups w.stage + if a.isWrite then 1 else 0 := by
  cases hs with
  | @others d rest h =>
      rw [wakeups_apply]
      split
      · exact credit_succ ..
      · exact Nat.le_refl _
  | call h => rw [h]; simp [credit, Label.isCall, Label.snapshot?]
  | @answer b snapshot results woken h htold =>
      rw [h]
      cases woken <;> simp [credit, Label.isCall, Label.snapshot?]
  | @drain b woken h =>
      rw [h]
      cases woken with
      | true =>
          -- the round to come is paid for by a wake-up that is drained
          have hpending : w.poll.wakeups ≠ 0 := by simpa [Poll.woken] using hw b h
          simp [credit, Label.isCall, Label.snapshot?, Poll.drain]
          omega
      | false => simp [credit, Label.isCall, Label.snapshot?]
  | again h _ hgoes =>
      obtain ⟨rfl, -, -⟩ := goesOn_eq_true.mp hgoes
      rw [h]
      simp [credit, Label.isCall, Label.snapshot?]
  | refuse | fail | undrained | finish => simp [credit, Label.isCall, Label.snapshot?]

/-- How many steps of its round a wait has before it, up to the next call. -/
def stepsLeft : WaitStage → Nat
  | .idle => 0
  | .begun _ => 1
  | .drained _ _ => 2
  | .answered _ _ => 3
  | .calling _ _ => 4

/-- **Paying for steps.**  Only a call brings new steps. -/
theorem Step.stepsLeft_le (hs : Step timeout w a w') :
    stepsLeft w'.stage + (if a.isOwn then 1 else 0) ≤
      stepsLeft w.stage + if a.isCall then 4 else 0 := by
  cases hs with
  | others h => simp [Label.isOwn, Label.isCall, Label.snapshot?]
  | refuse h | call h | fail _ h | answer _ _ h | drain h | undrained _ h | again h | finish h =>
      rw [h]
      simp [stepsLeft, Label.isOwn, Label.isCall, Label.snapshot?]

/-- Others do what they are going to do, one deed after the other. -/
theorem Run.length_ahead (hr : Run timeout w L w') :
    w'.ahead.length + L.countP (fun a => !a.isOwn) = w.ahead.length := by
  induction hr with
  | refl w => rfl
  | @step w w₁ w₂ a L hs _ ih =>
      rw [List.countP_cons, ← Nat.add_assoc, ih]
      cases hs with
      | others h => rw [h]; rfl
      | refuse | call | fail | answer | drain | undrained | again | finish => rfl

theorem sound_start (p : Poll) (b : NativeBuffer) (schedule : List Deed) :
    (start p b schedule).Sound := nofun

variable {p : Poll} {schedule : List Deed}

/-- Every call of the kernel but the first is paid for by a wake-up. -/
theorem calls_le (hr : Run timeout (start p b schedule) L w) :
    calls L ≤ p.wakeups + writes L + 1 := by
  have hcredit := hr.countP_le (F := fun w => credit w.poll.wakeups w.stage) Step.credit_le
    (sound_start p b schedule)
  simp only [start, credit] at hcredit
  unfold calls writes
  omega

/-- The steps of a run: the deeds of others, and at most four for each call. -/
theorem length_le (hr : Run timeout (start p b schedule) L w) :
    L.length ≤ schedule.length + 4 * calls L + 1 := by
  have hsteps := hr.countP_le (F := fun w => stepsLeft w.stage) (fun _ => Step.stepsLeft_le)
    (sound_start p b schedule)
  have hothers := hr.length_ahead
  simp only [start, stepsLeft] at hsteps hothers
  have hsplit : L.length = L.countP Label.isOwn + L.countP (fun a => !a.isOwn) := by
    rw [List.length_eq_countP_add_countP Label.isOwn]
    simp
  unfold calls
  omega

/-! ### Going on -/

/-- A wait that has not returned goes on, whatever others do. -/
theorem exists_step (hw : w.stage ≠ .idle) :
    ∃ a w', a.isOwn = true ∧ Step timeout w a w' := by
  cases h : w.stage with
  | idle => exact absurd h hw
  | begun b =>
      cases hclosed : w.poll.closed with
      | true => exact ⟨_, _, rfl, .refuse h hclosed⟩
      | false => exact ⟨_, _, rfl, .call h hclosed⟩
  | calling b snapshot => exact ⟨_, _, rfl, .answer [] false h nofun⟩
  | answered b woken => exact ⟨_, _, rfl, .drain h⟩
  | drained b woken =>
      cases hgoes : goesOn woken b timeout with
      | true => exact ⟨_, _, rfl, .again h (.whole timeout) hgoes⟩
      | false => exact ⟨_, _, rfl, .finish h (.whole timeout) hgoes⟩

/-- A wait is over only when it has returned. -/
theorem Run.returned (hr : Run timeout w L w') (hw : w.stage ≠ .idle) (hw' : w'.stage = .idle) :
    ∃ outcome b', .returned outcome b' ∈ L := by
  induction hr with
  | refl w => exact absurd hw' hw
  | @step w w₁ w₂ a L hs _ ih =>
      have hrest : w₁.stage ≠ .idle → ∃ outcome b', .returned outcome b' ∈ a :: L := by
        intro hne
        obtain ⟨outcome, b', hmem⟩ := ih hne hw'
        exact ⟨outcome, b', List.mem_cons_of_mem _ hmem⟩
      cases hs with
      | refuse | fail | undrained | finish => exact ⟨_, _, List.mem_cons_self⟩
      | others => exact hrest hw
      | call | answer | drain | again => exact hrest nofun

/-! ### What a round did -/

/-- The steps since the last call of the kernel, which had this snapshot. -/
def Since (L : List Label) (snapshot : List PollEntry) (R : List Label) : Prop :=
  (∃ L₀, L = L₀ ++ .called snapshot :: R) ∧ ∀ a ∈ R, a.isCall = false

theorem Since.snoc (h : Since L snapshot R) (ha : a.isCall = false) :
    Since (L ++ [a]) snapshot (R ++ [a]) := by
  obtain ⟨⟨L₀, rfl⟩, hR⟩ := h
  refine ⟨⟨L₀, by simp⟩, fun c hc => ?_⟩
  rcases List.mem_append.mp hc with hc | hc
  · exact hR c hc
  · exact List.mem_singleton.mp hc ▸ ha

/-- What the labels of a run tell about the round that the wait is in. -/
def Traced (b : NativeBuffer) (L : List Label) : WaitStage → Prop
  | .idle => True
  | .begun c => c.clear = b.clear
  | .calling c snapshot => c = b.clear ∧ ∃ R, Since L snapshot R
  | .answered c woken => ∃ snapshot R results, Since L snapshot R ∧ .answered results woken ∈ R ∧
      c = b.clear.extend ((found snapshot results).take b.capacity)
  | .drained c woken => ∃ snapshot R results n, Since L snapshot R ∧ .answered results woken ∈ R ∧
      .drained n ∈ R ∧ (woken = true → 0 < n) ∧
      c = b.clear.extend ((found snapshot results).take b.capacity)

/-- Other steps than calls tell nothing else. -/
theorem Traced.snoc {stage : WaitStage} (h : Traced b L stage) (ha : a.isCall = false) :
    Traced b (L ++ [a]) stage := by
  cases stage with
  | idle | begun => exact h
  | calling c snapshot =>
      obtain ⟨hc, R, hR⟩ := h
      exact ⟨hc, _, hR.snoc ha⟩
  | answered c woken =>
      obtain ⟨snapshot, R, results, hR, hanswered, hc⟩ := h
      exact ⟨snapshot, _, results, hR.snoc ha, List.mem_append_left _ hanswered, hc⟩
  | drained c woken =>
      obtain ⟨snapshot, R, results, n, hR, hanswered, hdrained, hn, hc⟩ := h
      exact ⟨snapshot, _, results, n, hR.snoc ha, List.mem_append_left _ hanswered,
        List.mem_append_left _ hdrained, hn, hc⟩

theorem Traced.step (h : Traced b L w.stage) (hw : Sound w) (hs : Step timeout w a w') :
    Traced b (L ++ [a]) w'.stage := by
  cases hs with
  | others => exact h.snoc rfl
  | refuse | fail | undrained | finish => trivial
  | call hstage =>
      rw [hstage] at h
      exact ⟨h, [], ⟨L, rfl⟩, nofun⟩
  | answer results woken hstage =>
      rw [hstage] at h
      obtain ⟨rfl, R, hR⟩ := h
      exact ⟨_, _, results, hR.snoc rfl, List.mem_append_right _ (List.mem_singleton.mpr rfl), rfl⟩
  | @drain c woken hstage =>
      rw [hstage] at h
      obtain ⟨snapshot, R, results, hR, hanswered, hc⟩ := h
      refine ⟨snapshot, _, results, _, hR.snoc rfl, List.mem_append_left _ hanswered,
        List.mem_append_right _ (List.mem_singleton.mpr rfl), ?_, hc⟩
      rintro rfl
      have hpending : w.poll.wakeups ≠ 0 := by simpa [Poll.woken] using hw c hstage
      exact Nat.pos_of_ne_zero hpending
  | again hstage =>
      rw [hstage] at h
      obtain ⟨_, _, _, _, -, -, -, -, rfl⟩ := h
      rfl

theorem Traced.run {L₀ : List Label} (h : Traced b L₀ w.stage) (hw : Sound w)
    (hr : Run timeout w L w') : Traced b (L₀ ++ L) w'.stage := by
  induction hr generalizing L₀ with
  | refl w => rwa [List.append_nil]
  | step hs _ ih =>
      have hrest := ih (h.step hw hs) (hw.step hs)
      rwa [List.append_assoc] at hrest

/-- **Going round again.**  The round before has drained a wake-up and found nothing that there was
room for, and there is time left. -/
theorem again_of_run {L₁ L₂ : List Label} {remaining : Option Duration}
    (hr : Run timeout (start p b schedule) (L₁ ++ .again remaining :: L₂) w) :
    ∃ snapshot R results n, Since L₁ snapshot R ∧ .answered results true ∈ R ∧ .drained n ∈ R ∧
      0 < n ∧ (found snapshot results).take b.capacity = [] ∧ expired remaining = false := by
  obtain ⟨w₁, w₂, hbefore, hs, -⟩ := hr.split
  have hfirst : Traced b [] (start p b schedule).stage := rfl
  have htraced := hfirst.run (sound_start p b schedule) hbefore
  cases hs with
  | again hstage _ hgoes =>
      obtain ⟨rfl, hempty, htime⟩ := goesOn_eq_true.mp hgoes
      rw [hstage] at htraced
      obtain ⟨snapshot, R, results, n, hR, hanswered, hdrained, hn, rfl⟩ := htraced
      refine ⟨snapshot, R, results, n, hR, hanswered, hdrained, hn rfl, ?_, htime⟩
      simpa [NativeBuffer.isEmpty, NativeBuffer.extend, NativeBuffer.clear] using hempty

/-! ### The wait of the facility -/

variable {h h' left : Host Poll} {outcome : Outcome SystemError Unit}
  {may : Host Poll → Host Poll → Prop}

/-- The calls of the kernel as it writes them down, when no time passes. -/
def polls (timeout : Option Duration) (L : List Label) : List SystemCall :=
  (snapshots L).map fun snapshot => .poll (shown snapshot) (timeoutMillis timeout)

theorem polls_append (timeout : Option Duration) (L L' : List Label) :
    polls timeout (L ++ L') = polls timeout L ++ polls timeout L' := by
  simp [polls, snapshots]

theorem length_polls (timeout : Option Duration) (L : List Label) :
    (polls timeout L).length = calls L := by
  rw [polls, List.length_map, snapshots, List.length_filterMap_eq_countP]
  rfl

theorem Run.others (poll : Poll) (stage : WaitStage) (ahead : List Deed) :
    Run timeout ⟨poll, stage, ahead⟩ (ahead.map .others) ⟨after ahead poll, stage, []⟩ := by
  induction ahead generalizing poll with
  | nil => exact .refl _
  | cons d rest ih => exact .step (.others rfl) (ih (d.apply poll))

theorem polls_others (timeout : Option Duration) (schedule : List Deed) :
    polls timeout (schedule.map .others) = [] := by
  induction schedule with
  | nil => rfl
  | cons d rest ih => exact ih

/-- The end of a round is a run, in which the kernel is not called. -/
theorem exists_run_conclude (ahead : List Deed) {results : Outcome SystemError (List UInt16)}
    {ended : Round} (hc : conclude snapshot b timeout results h = ((ended, b'), h')) :
    ∃ L, polls timeout L = [] ∧
      match ended with
      | .over outcome => .returned outcome b' ∈ L ∧
          Run timeout ⟨h.facility, .calling b snapshot, ahead⟩ L ⟨h'.facility, .idle, ahead⟩
      | .again =>
          Run timeout ⟨h.facility, .calling b snapshot, ahead⟩ L ⟨h'.facility, .begun b', ahead⟩ := by
  cases results with
  | halted cause =>
      obtain ⟨hround, rfl⟩ := Prod.mk.inj hc
      obtain ⟨rfl, rfl⟩ := Prod.mk.inj hround
      exact ⟨_, rfl, List.mem_cons_self, .single (.fail (.halted cause) rfl nofun)⟩
  | failed cause =>
      obtain ⟨hround, rfl⟩ := Prod.mk.inj hc
      obtain ⟨rfl, rfl⟩ := Prod.mk.inj hround
      exact ⟨_, rfl, List.mem_cons_self, .single (.fail (.failed cause) rfl nofun)⟩
  | done results =>
      obtain ⟨hround, rfl⟩ := Prod.mk.inj hc
      obtain ⟨hended, rfl⟩ := Prod.mk.inj hround
      have hanswer : Step timeout ⟨h.facility, .calling b snapshot, ahead⟩ _ _ :=
        .answer results h.facility.woken rfl id
      have hpoll : (if h.facility.woken then h.facility.drain else h.facility) =
          h.facility.drain := by
        cases hwoken : h.facility.woken with
        | true => rfl
        | false => exact (drain_of_quiet hwoken).symm
      have hdrain : Step timeout ⟨h.facility,
          .answered (b.extend ((found snapshot results).take b.capacity)) h.facility.woken, ahead⟩
          _ _ := .drain rfl
      dsimp only at hdrain
      rw [hpoll] at hdrain
      cases hgoes : goesOn h.facility.woken (b.extend ((found snapshot results).take b.capacity))
          timeout with
      | true =>
          rw [hgoes] at hended
          obtain rfl := hended
          exact ⟨_, rfl, .step hanswer (.step hdrain (.single (.again rfl (.whole _) hgoes)))⟩
      | false =>
          rw [hgoes] at hended
          obtain rfl := hended
          exact ⟨_, rfl, by simp, .step hanswer (.step hdrain (.single (.finish rfl (.whole _) hgoes)))⟩

theorem kernel_of_conclude {results : Outcome SystemError (List UInt16)}
    {result : Round × NativeBuffer} (hc : conclude snapshot b timeout results h = (result, h')) :
    h'.kernel = h.kernel := by
  have hkernel := (conclude_facility snapshot b timeout results h).2.2
  rwa [hc] at hkernel

/-- The rounds after one that has drained the waker. -/
theorem exists_run_settle (hdrained : h.facility.wakeups = 0)
    (hs : settle timeout (h.facility.wakeups + 1) b h = ((outcome, b'), h')) :
    ∃ L, Run timeout ⟨h.facility, .begun b, []⟩ L ⟨h'.facility, .idle, []⟩ ∧
      .returned outcome b' ∈ L ∧
      h'.kernel.calls.toList = h.kernel.calls.toList ++ polls timeout L := by
  cases hopen : h.facility.closed with
  | true =>
      rw [settle, round_of_closed b timeout hopen] at hs
      obtain ⟨hresult, rfl⟩ := Prod.mk.inj hs
      obtain ⟨rfl, rfl⟩ := Prod.mk.inj hresult
      exact ⟨_, .single (.refuse rfl hopen), List.mem_cons_self, (List.append_nil _).symm⟩
  | false =>
      obtain ⟨ended, c, g, hc, hsettled⟩ := settle_of_drained b timeout hopen hdrained
      obtain ⟨hresult, rfl⟩ := Prod.mk.inj (hsettled.symm.trans hs)
      obtain ⟨rfl, rfl⟩ := Prod.mk.inj hresult
      obtain ⟨L, hpolls, hmem, hrun⟩ := exists_run_conclude [] hc
      refine ⟨_, .step (.call rfl hopen) hrun, List.mem_cons_of_mem _ hmem, ?_⟩
      have hasked : g.kernel.calls = h.kernel.calls.push
          (.poll (shown h.facility.table) (timeoutMillis timeout)) :=
        (congrArg Kernel.calls (kernel_of_conclude hc)).trans (calls_answered ..)
      rw [hasked, Array.toList_push]
      exact congrArg (h.kernel.calls.toList ++ _ :: ·) hpolls.symm

/-- One round of the facility, from the moment at which its call goes on, and those after it. -/
theorem exists_run_next {result : Round × NativeBuffer} {g : Host Poll}
    (hc : conclude snapshot b timeout (answered snapshot left.kernel).1
      { left with kernel := (answered snapshot left.kernel).2 } = (result, g))
    (hn : next timeout result g = ((outcome, b'), h')) :
    ∃ L, Run timeout ⟨left.facility, .calling b snapshot, []⟩ L ⟨h'.facility, .idle, []⟩ ∧
      .returned outcome b' ∈ L ∧
      h'.kernel.calls.toList = left.kernel.calls.toList ++ polls timeout L := by
  have hcalls : g.kernel.calls = left.kernel.calls :=
    (congrArg Kernel.calls (kernel_of_conclude hc)).trans (calls_answered ..)
  obtain ⟨ended | _, c⟩ := result
  · obtain ⟨L, hpolls, hmem, hrun⟩ := exists_run_conclude [] hc
    obtain ⟨hresult, rfl⟩ := Prod.mk.inj hn
    obtain ⟨rfl, rfl⟩ := Prod.mk.inj hresult
    exact ⟨L, hrun, hmem, by rw [hcalls, hpolls, List.append_nil]⟩
  · obtain ⟨L, hpolls, hrun⟩ := exists_run_conclude [] hc
    obtain ⟨L', hrun', hmem, hcalls'⟩ := exists_run_settle (conclude_again hc).1 hn
    refine ⟨L ++ L', hrun.trans hrun', List.mem_append_right _ hmem, ?_⟩
    rw [hcalls', hcalls, polls_append, hpolls, List.nil_append]

/-- **The wait of the facility** is a run that returns.  Others do their deeds in its first round,
and the calls of the kernel that are written down are those of the run. -/
theorem exists_run_wait (hleft : left.facility = after schedule h.facility)
    (hw : Progress.Ends may (wait b timeout h) left (outcome, b') h') :
    ∃ L first rest, Run timeout (start h.facility b schedule) L ⟨h'.facility, .idle, []⟩ ∧
      .returned outcome b' ∈ L ∧
      (wait b timeout h).2.kernel.calls.toList = h.kernel.calls.toList ++ first ∧
      h'.kernel.calls.toList = left.kernel.calls.toList ++ rest ∧
      first ++ rest = polls timeout L := by
  cases hopen : h.facility.closed with
  | true =>
      have hwait : wait b timeout h = (.returned (.failed .badDescriptor, b.clear), h) := by
        rw [wait, round_of_closed b timeout hopen]
        rfl
      rw [hwait] at hw ⊢
      cases hw
      have hothers : Run timeout ⟨h.facility, .idle, schedule⟩ _ _ := .others ..
      rw [← hleft] at hothers
      refine ⟨_, [], [], .step (.refuse rfl hopen) hothers, by simp, by simp, by simp, ?_⟩
      exact (polls_others timeout schedule).symm
  | false =>
      have hwait : wait b timeout h = (.inside fun g =>
          let (result, g) := conclude h.facility.table b.clear timeout
            (answered h.facility.table g.kernel).1
            { g with kernel := (answered h.facility.table g.kernel).2 }
          next timeout result g,
          h.record (.poll (shown h.facility.table) (timeoutMillis timeout))) := by
        rw [wait, round_of_open b timeout hopen]
        rfl
      rw [hwait] at hw ⊢
      cases hw with
      | resumed _ hr =>
          dsimp only at hr
          obtain ⟨L, hrun, hmem, hcalls⟩ := exists_run_next rfl hr
          have hothers : Run timeout ⟨h.facility, .calling b.clear h.facility.table, schedule⟩ _ _ :=
            .others ..
          rw [← hleft] at hothers
          refine ⟨_, [_], _, .step (.call rfl hopen) (hothers.trans hrun), by simp [hmem],
            Array.toList_push, hcalls, ?_⟩
          have hquiet := polls_append timeout (schedule.map .others) L
          rw [polls_others, List.nil_append] at hquiet
          exact congrArg (_ :: ·) hquiet.symm

/-- **A wait ends.**  Whatever others do, as long as they do finitely much, and whatever the kernel
answers, a wait calls the kernel at most once more than there are wake-ups, those that are pending
when it begins and those written meanwhile.  It takes at most four steps for each call, and it goes
on until it has returned.  It goes round again only after a round that drained a wake-up, found
nothing that there was room for, and left some time.  The facility's own wait is such a wait, and the
calls that it makes are those of the run. -/
theorem wait_ends (timeout : Option Duration) (b : NativeBuffer) :
    (∀ (p : Poll) (schedule : List Deed) (L : List Label) (w : Waiting),
      Run timeout (start p b schedule) L w →
        calls L ≤ p.wakeups + writes L + 1 ∧
        L.length ≤ schedule.length + 4 * calls L + 1 ∧
        (w.stage = .idle ∧ (∃ outcome b', .returned outcome b' ∈ L) ∨
          ∃ a w', a.isOwn = true ∧ Step timeout w a w') ∧
        ∀ L₁ L₂ remaining, L = L₁ ++ .again remaining :: L₂ →
          ∃ snapshot R results n, Since L₁ snapshot R ∧ .answered results true ∈ R ∧
            .drained n ∈ R ∧ 0 < n ∧ (found snapshot results).take b.capacity = [] ∧
            expired remaining = false) ∧
    ∀ (may : Host Poll → Host Poll → Prop) (h left h' : Host Poll) (schedule : List Deed)
      (outcome : Outcome SystemError Unit) (b' : NativeBuffer),
      left.facility = after schedule h.facility →
      Progress.Ends may (Facility.wait b timeout h) left (outcome, b') h' →
        ∃ L first rest, Run timeout (start h.facility b schedule) L ⟨h'.facility, .idle, []⟩ ∧
          .returned outcome b' ∈ L ∧
          (Facility.wait b timeout h).2.kernel.calls.toList = h.kernel.calls.toList ++ first ∧
          h'.kernel.calls.toList = left.kernel.calls.toList ++ rest ∧
          first ++ rest = polls timeout L ∧
          first.length + rest.length ≤ h.facility.wakeups + writes L + 1 := by
  constructor
  · intro p schedule L w hr
    refine ⟨calls_le hr, length_le hr, ?_, ?_⟩
    · by_cases hidle : w.stage = .idle
      · exact .inl ⟨hidle, hr.returned nofun hidle⟩
      · exact .inr (exists_step hidle)
    · rintro L₁ L₂ remaining rfl
      exact again_of_run hr
  · intro may h left h' schedule outcome b' hleft hw
    obtain ⟨L, first, rest, hrun, hmem, hfirst, hrest, hpolls⟩ := exists_run_wait hleft hw
    refine ⟨L, first, rest, hrun, hmem, hfirst, hrest, hpolls, ?_⟩
    rw [← List.length_append, hpolls, length_polls]
    exact calls_le hrun

/-- Nothing is watched, but a descriptor is ready. -/
def readyPoll : Host Poll where
  facility := {}
  kernel := { levels := [(5, 1)] }

/-- What is left of it when the descriptor is watched during a wait. -/
def joinedPoll : Host Poll :=
  (watch 5 .readable (.pack 0 0) (Facility.wait { capacity := 4 } none readyPoll).2).2

/-- A descriptor is ready, but the buffer has no room.  With one wake-up pending and one that is
written during the second round, the kernel is called three times, which is as often as it may be.
And a wait for the empty table, during which a descriptor is watched, calls the kernel twice and
reports it. -/
theorem wait_ends_woken_twice :
    (∃ L w, Run none (start { table := [⟨5, .readable, .pack 0 0⟩], wakeups := 1 } ⟨0, [], 0⟩
        [.change [], .wake]) L w ∧
      w.stage = .idle ∧ writes L = 1 ∧ calls L = 3 ∧ calls L ≤ 1 + writes L + 1 ∧
      ∃ L₁ L₂ snapshot R results n, L = L₁ ++ .again none :: L₂ ∧ Since L₁ snapshot R ∧
        .answered results true ∈ R ∧ .drained n ∈ R ∧ 0 < n ∧
        (found snapshot results).take 0 = []) ∧
    ∃ (h' : Host Poll) (schedule : List Deed) (L : List Label) (first : List SystemCall),
      joinedPoll.facility = after schedule readyPoll.facility ∧
      Progress.Ends (fun _ _ => True) (Facility.wait { capacity := 4 } none readyPoll) joinedPoll
        (.done (), NativeBuffer.extend { capacity := 4 } [⟨.pack 0 0, .readable⟩]) h' ∧
      first ++ [.poll [(5, 3)] (-1)] = polls none L ∧ first.length + 1 ≤ 0 + writes L + 1 := by
  constructor
  · obtain ⟨L, w, L₁, L₂, hr, hidle, hwrites, hcalls, hL⟩ : ∃ L w L₁ L₂,
        Run none (start { table := [⟨5, .readable, .pack 0 0⟩], wakeups := 1 } ⟨0, [], 0⟩
          [.change [], .wake]) L w ∧
        w.stage = .idle ∧ writes L = 1 ∧ calls L = 3 ∧ L = L₁ ++ .again none :: L₂ :=
      ⟨_, _, [_, _, _], _, .step (.call rfl rfl) <| .step (.answer [1] true rfl fun _ => rfl) <|
        .step (.drain rfl) <| .step (.again rfl .endless rfl) <| .step (.call rfl rfl) <|
        .step (.others rfl) <| .step (.others rfl) <| .step (.answer [1] true rfl fun _ => rfl) <|
        .step (.drain rfl) <| .step (.again rfl .endless rfl) <| .step (.call rfl rfl) <|
        .step (.answer [] false rfl nofun) <| .step (.drain rfl) <|
        .single (.finish rfl .endless rfl), rfl, rfl, rfl, rfl⟩
    obtain ⟨hbound, -, -, hagain⟩ := (wait_ends none ⟨0, [], 0⟩).1 _ _ L w hr
    obtain ⟨snapshot, R, results, n, hR, hanswered, hdrained, hn, hfound, -⟩ := hagain L₁ L₂ none hL
    exact ⟨L, w, hr, hidle, hwrites, hcalls, hbound, L₁, L₂, snapshot, R, results, n, hL, hR,
      hanswered, hdrained, hn, hfound⟩
  · obtain ⟨h', hw, hcalls⟩ : ∃ h' : Host Poll,
        Progress.Ends (fun _ _ => True) (Facility.wait { capacity := 4 } none readyPoll) joinedPoll
          (.done (), NativeBuffer.extend { capacity := 4 } [⟨.pack 0 0, .readable⟩]) h' ∧
        h'.kernel.calls.toList = joinedPoll.kernel.calls.toList ++ [.poll [(5, 3)] (-1)] :=
      ⟨_, .resumed (t := joinedPoll) trivial rfl, rfl⟩
    obtain ⟨schedule, hleft⟩ := exists_after_watch 5 .readable (.pack 0 0)
      (Facility.wait { capacity := 4 } none readyPoll).2
    obtain ⟨L, first, rest, -, -, -, hrest, hpolls, hbound⟩ :=
      (wait_ends none { capacity := 4 }).2 _ readyPoll joinedPoll h' schedule _ _ hleft hw
    obtain rfl : rest = [.poll [(5, 3)] (-1)] := List.append_cancel_left (hrest.symm.trans hcalls)
    exact ⟨h', schedule, L, first, hleft, hw, hpolls, hbound⟩

end Waiting

end Poll

end Readiness
