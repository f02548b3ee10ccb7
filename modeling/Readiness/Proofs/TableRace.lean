import Readiness.Proofs.PollRounds

/-! # Changing the table during a wait

`Poll.watch` and `Poll.unwatch` change the table that a wait may be waiting on, and the wait holds no
lock while the kernel has its turn.  Here the calls are cut into the parts between which any other
part may come.

* **Changing calls** change the table, and write their wake-up later (`Race.Step.change`,
  `Race.Step.write`).  A wake-up that finds the pipe full adds nothing to it
  (`Race.Step.writeFull`).  A call that is refused does neither.
* **The wait** takes a snapshot of the table, is in the kernel, gets its results together with the
  state of the waker, drains the waker if it was readable, and decides whether to go round again.
  Only the results are collected in one step with the answer, since nobody else sees them.
* **Time.**  How much time is left when a round is over is anything, and is written on the label.
* **Unwritten wake-ups.**  The changes are numbered, and `Race.unwritten` lists those whose calls
  have not written their wake-up.

The order *change, then wake* in the changing calls and *drain, then snapshot* in the wait is what
makes `Race.Guarded` an invariant: a table that is not the one shown to the kernel is announced, or
is going to be.  The calls of the facility are runs of the race (`Race.RunsCalls`). -/

namespace Readiness

namespace Poll

/-- A call that changes the table. -/
inductive TableCall where
  | watch (fd : Int32) (i : Interests) (t : Tag)
  | unwatch (fd : Int32) (i : Interests)
deriving DecidableEq, Repr

/-- The table after a call, unless the call is refused. -/
def TableCall.amend? (table : List PollEntry) : TableCall → Option (List PollEntry)
  | watch fd i t => (enlist fd i t table).toOption
  | unwatch fd i =>
    ( entry? table fd).map fun found => lessen table found.1 found.2 (.ofInterests i)

/-- How far a wait has come. -/
inductive WaitStage where
  | idle
  /-- A round begins. -/
  | begun (b : NativeBuffer)
  /-- The snapshot is in the kernel, or on its way there. -/
  | calling (b : NativeBuffer) (snapshot : List PollEntry)
  /-- The kernel has answered, and the waker was readable or not. -/
  | answered (b : NativeBuffer) (woken : Bool)
  /-- The waker is drained if it was readable. -/
  | drained (b : NativeBuffer) (woken : Bool)
deriving DecidableEq, Repr

/-- A facility with one wait and any number of changing calls in progress. -/
structure Race where
  poll : Poll
  stage : WaitStage := .idle
  /-- The changes whose wake-ups are not written yet. -/
  unwritten : List Nat := []
  /-- How many changes were made. -/
  changes : Nat := 0
deriving DecidableEq, Repr

namespace Race

/-- What a step means. -/
inductive Label where
  | silent
  | changed (n : Nat)
  | wrote (n : Nat)
  | snapshot
  | answered
  | again (remaining : Option Duration)
  | returned (outcome : Outcome SystemError Unit) (b : NativeBuffer) (remaining : Option Duration)
deriving DecidableEq, Repr

/-- One part of a call. -/
inductive Step : Race → Label → Race → Prop
  | change {r : Race} (call : TableCall) {table : List PollEntry} :
      call.amend? r.poll.table = some table →
      Step r (.changed r.changes)
        { r with
          poll := { r.poll with table }
          unwritten := r.changes :: r.unwritten
          changes := r.changes + 1 }
  | refuse {r : Race} (call : TableCall) : call.amend? r.poll.table = none → Step r .silent r
  | write {r : Race} {n : Nat} : n ∈ r.unwritten →
      Step r (.wrote n) { r with poll := r.poll.wake, unwritten := r.unwritten.erase n }
  | writeFull {r : Race} {n : Nat} : n ∈ r.unwritten → r.poll.woken = true →
      Step r (.wrote n) { r with unwritten := r.unwritten.erase n }
  | begin {r : Race} (b : NativeBuffer) : r.stage = .idle →
      Step r .silent { r with stage := .begun b }
  | snapshot {r : Race} {b : NativeBuffer} : r.stage = .begun b →
      Step r .snapshot { r with stage := .calling b.clear r.poll.table }
  | answer {r : Race} {b : NativeBuffer} {snapshot : List PollEntry} (results : List UInt16) :
      r.stage = .calling b snapshot →
      Step r .answered
        { r with
          stage := .answered (b.extend ((found snapshot results).take b.capacity)) r.poll.woken }
  | fail {r : Race} {b : NativeBuffer} {snapshot : List PollEntry}
      (outcome : Outcome SystemError Unit) (remaining : Option Duration) :
      r.stage = .calling b snapshot → outcome ≠ .done () →
      Step r (.returned outcome b remaining) { r with stage := .idle }
  | drain {r : Race} {b : NativeBuffer} {woken : Bool} : r.stage = .answered b woken →
      Step r .silent
        { r with poll := if woken then r.poll.drain else r.poll, stage := .drained b woken }
  | again {r : Race} {b : NativeBuffer} {woken : Bool} (remaining : Option Duration) :
      r.stage = .drained b woken → goesOn woken b remaining = true →
      Step r (.again remaining) { r with stage := .begun b }
  | finish {r : Race} {b : NativeBuffer} {woken : Bool} (remaining : Option Duration) :
      r.stage = .drained b woken → goesOn woken b remaining = false →
      Step r (.returned (.done ()) b remaining) { r with stage := .idle }

/-- Some steps, with their labels. -/
inductive Run : Race → List Label → Race → Prop
  | refl (r : Race) : Run r [] r
  | step {r r₁ r₂ : Race} {a : Label} {L : List Label} :
      Step r a r₁ → Run r₁ L r₂ → Run r (a :: L) r₂

variable {r r₁ r₂ r₃ r₄ r₅ r' : Race} {a : Label} {L L' L₁ L₂ : List Label} {b : NativeBuffer}
  {snapshot : List PollEntry} {woken : Bool} {n : Nat} {remaining : Option Duration}

theorem Run.trans (h : Run r₁ L r₂) (h' : Run r₂ L' r₃) : Run r₁ (L ++ L') r₃ := by
  induction h with
  | refl r => exact h'
  | step hs _ ih => exact .step hs (ih h')

theorem Run.single (h : Step r a r') : Run r [a] r' := .step h (.refl r')

/-! ### The invariant -/

/-- If the table in the kernel is out of date, then the waker is readable or a wake-up is still to
be written. -/
def Guarded (r : Race) : Prop :=
  ∀ b snapshot, r.stage = .calling b snapshot → r.poll.table ≠ snapshot →
    r.poll.woken = true ∨ r.unwritten ≠ []

theorem woken_wake (p : Poll) : p.wake.woken = true := by
  simp [woken, wake]

theorem Guarded.step (h : Guarded r) (hs : Step r a r') : Guarded r' := by
  intro b snapshot hstage hold
  cases hs with
  | change call hamend => exact .inr nofun
  | refuse call hamend => exact h b snapshot hstage hold
  | write hn => exact .inl (woken_wake _)
  | writeFull hn hwoken => exact .inl hwoken
  | begin => cases hstage
  | snapshot hbegun =>
      -- the snapshot is the table
      obtain ⟨-, rfl⟩ := WaitStage.calling.inj hstage
      exact absurd rfl hold
  | answer | fail | drain | again | finish => cases hstage

theorem Guarded.run (h : Guarded r) (hr : Run r L r') : Guarded r' := by
  induction hr with
  | refl r => exact h
  | step hs _ ih => exact ih (h.step hs)

/-- No call is in progress. -/
def start (p : Poll) : Race where
  poll := p

theorem guarded_start (p : Poll) : (start p).Guarded := nofun

/-! ### From one snapshot to the next -/

/-- While the kernel has the snapshot, the waker stays readable once it is, and a wake-up that is
written makes it so. -/
theorem Step.calling (hs : Step r a r') (h : r.stage = .calling b snapshot) :
    (r'.stage = .calling b snapshot ∧
        (r.poll.woken = true ∨ (∃ n, a = .wrote n) → r'.poll.woken = true)) ∨
      ∀ b' snapshot', r'.stage ≠ .calling b' snapshot' := by
  cases hs with
  | change call hamend => exact .inl ⟨h, fun hw => hw.elim id nofun⟩
  | refuse call hamend => exact .inl ⟨h, fun hw => hw.elim id nofun⟩
  | write hn => exact .inl ⟨h, fun _ => woken_wake _⟩
  | writeFull hn hwoken => exact .inl ⟨h, fun _ => hwoken⟩
  | answer | fail => exact .inr nofun
  | begin _ h' | snapshot h' | drain h' | again _ h' _ | finish _ h' _ => cases h.symm.trans h'

/-- Without a snapshot the kernel gets none. -/
theorem Step.not_calling (hs : Step r a r') (ha : a ≠ .snapshot)
    (h : ∀ b snapshot, r.stage ≠ .calling b snapshot) :
    ∀ b snapshot, r'.stage ≠ .calling b snapshot := by
  cases hs with
  | change | refuse | write | writeFull => exact h
  | snapshot => exact absurd rfl ha
  | begin | answer | fail | drain | again | finish => exact nofun

theorem Run.not_calling (hr : Run r L r') (hL : .snapshot ∉ L)
    (h : ∀ b snapshot, r.stage ≠ .calling b snapshot) :
    ∀ b snapshot, r'.stage ≠ .calling b snapshot := by
  induction hr with
  | refl r => exact h
  | step hs _ ih =>
      obtain ⟨ha, hL⟩ := List.ne_and_not_mem_of_not_mem_cons hL
      exact ih hL (hs.not_calling ha.symm h)

/-- **In the kernel.**  From a snapshot to the answer for it, one wake-up is enough to make the
waker readable for good. -/
theorem Run.calling {b' : NativeBuffer} {snapshot' : List PollEntry} (hr : Run r L r')
    (hL : .snapshot ∉ L) (h : r.stage = .calling b snapshot)
    (h' : r'.stage = .calling b' snapshot') (hw : r.poll.woken = true ∨ ∃ n, .wrote n ∈ L) :
    r'.poll.woken = true := by
  induction hr with
  | refl r => exact hw.resolve_right (by rintro ⟨n, hn⟩; cases hn)
  | @step r r₁ r₂ a L hs hrest ih =>
      obtain ⟨ha, hL⟩ := List.ne_and_not_mem_of_not_mem_cons hL
      rcases hs.calling h with ⟨h₁, hwoken⟩ | hnot
      · refine ih hL h₁ h' ?_
        rcases hw with hw | ⟨n, hn⟩
        · exact .inl (hwoken (.inl hw))
        · rcases List.mem_cons.mp hn with rfl | hn
          · exact .inl (hwoken (.inr ⟨n, rfl⟩))
          · exact .inr ⟨n, hn⟩
      · exact absurd h' (hrest.not_calling hL hnot b' snapshot')

/-- The wait has its results, and the waker was readable or not. -/
def Holds (b : NativeBuffer) (woken : Bool) (r : Race) : Prop :=
  r.stage = .answered b woken ∨ r.stage = .drained b woken

/-- The wait has no results, and the kernel has no snapshot. -/
def Between (r : Race) : Prop := r.stage = .idle ∨ ∃ b, r.stage = .begun b

theorem Step.between (hs : Step r a r') (ha : a ≠ .snapshot) (h : Between r) : Between r' := by
  cases hs with
  | change | refuse | write | writeFull => exact h
  | snapshot => exact absurd rfl ha
  | begin b | again => exact .inr ⟨_, rfl⟩
  | fail | finish => exact .inl rfl
  | answer _ h' | drain h' => rcases h with h | ⟨b, h⟩ <;> cases h.symm.trans h'

theorem Step.holds (hs : Step r a r') (ha : a ≠ .snapshot) (h : Holds b woken r) :
    Holds b woken r' ∨ Between r' := by
  cases hs with
  | change | refuse | write | writeFull => exact .inl h
  | snapshot => exact absurd rfl ha
  | drain h' =>
      refine .inl (.inr ?_)
      rcases h with h | h
      · obtain ⟨rfl, rfl⟩ := WaitStage.answered.inj (h.symm.trans h')
        rfl
      · cases h.symm.trans h'
  | begin b | again => exact .inr (.inr ⟨_, rfl⟩)
  | fail | finish => exact .inr (.inl rfl)
  | answer _ h' => rcases h with h | h <;> cases h.symm.trans h'

theorem Run.holds (hr : Run r L r') (hL : .snapshot ∉ L) (h : Holds b woken r ∨ Between r) :
    Holds b woken r' ∨ Between r' := by
  induction hr with
  | refl r => exact h
  | step hs _ ih =>
      obtain ⟨ha, hL⟩ := List.ne_and_not_mem_of_not_mem_cons hL
      exact ih hL (h.elim (hs.holds ha.symm) fun h => .inr (hs.between ha.symm h))

/-- A wait that went round stays at the start of its round until it takes a snapshot. -/
theorem Run.begun (hr : Run r L r') (hL : .snapshot ∉ L) (h : r.stage = .begun b) :
    r'.stage = .begun b := by
  induction hr with
  | refl r => exact h
  | step hs _ ih =>
      obtain ⟨ha, hL⟩ := List.ne_and_not_mem_of_not_mem_cons hL
      refine ih hL ?_
      cases hs with
      | change | refuse | write | writeFull => exact h
      | snapshot => exact absurd rfl ha
      | begin _ h' | answer _ h' | fail _ _ h' _ | drain h' | again _ h' _ | finish _ h' _ =>
          cases h.symm.trans h'

/-- A wait that is about to decide has the results of its last snapshot. -/
theorem Holds.of_drained {b' : NativeBuffer} {woken' : Bool}
    (h : Holds b woken r ∨ Between r) (hstage : r.stage = .drained b' woken') :
    b' = b ∧ woken' = woken := by
  rcases h with (h | h) | h | ⟨_, h⟩
  · cases h.symm.trans hstage
  · obtain ⟨rfl, rfl⟩ := WaitStage.drained.inj (h.symm.trans hstage)
    exact ⟨rfl, rfl⟩
  · cases h.symm.trans hstage
  · cases h.symm.trans hstage

/-- The answer for a snapshot sees the waker readable if a wake-up was written since. -/
theorem Step.answered_woken (hsnapshot : Step r .snapshot r₁) (h₁ : Run r₁ L₁ r₂)
    (hL₁ : .snapshot ∉ L₁) (hwrote : .wrote n ∈ L₁) (hanswered : Step r₂ .answered r₃) :
    ∃ b, r₃.stage = .answered b true := by
  cases hsnapshot with
  | snapshot hbegun =>
      cases hanswered with
      | answer results hcalling =>
          exact ⟨_, congrArg _ (h₁.calling hL₁ rfl hcalling (.inr ⟨n, hwrote⟩))⟩

/-! ### The calls of the facility -/

variable {h h' : Host Poll} {timeout : Option Duration} {fd : Int32} {i : Interests} {t : Tag}
  {outcome : Outcome SystemError Unit}

/-- A call that changes the table, made without others in between, is a run of the race: it does
nothing, or it makes its change and then writes its wake-up. -/
def Changes (r : Race) (h h' : Host Poll) : Prop :=
  ∃ L r', Run r L r' ∧ r'.poll = h'.facility ∧ r'.stage = r.stage ∧ r'.unwritten = r.unwritten ∧
    (L = [] ∧ h'.facility = h.facility ∨ L = [.changed r.changes, .wrote r.changes])

/-- A call that is refused does nothing. -/
theorem changes_of_refused (hr : r.poll = h.facility) (hsame : h'.facility = h.facility) :
    r.Changes h h' :=
  ⟨[], r, .refl r, hr.trans hsame.symm, rfl, rfl, .inl ⟨rfl, hsame⟩⟩

theorem changes_of_amend (hr : r.poll = h.facility) (call : TableCall) {table : List PollEntry}
    (hamend : call.amend? r.poll.table = some table)
    (hsame : h'.facility = { h.facility with table }.wake) : r.Changes h h' := by
  refine ⟨_, _, .step (.change call hamend) (.single (.write List.mem_cons_self)), ?_, rfl,
    List.erase_cons_head .., .inr rfl⟩
  rw [hsame, ← hr]

/-- Watching is a run of the race. -/
theorem changes_of_watch (hr : r.poll = h.facility) (hp : watch fd i t h = (outcome, h')) :
    r.Changes h h' := by
  unfold watch at hp
  by_cases hneg : fd < 0
  · simp only [if_pos hneg] at hp
    obtain ⟨-, rfl⟩ := Prod.mk.inj hp
    exact changes_of_refused hr rfl
  · simp only [if_neg hneg] at hp
    cases hsystem : h.system (·.getFlags fd) with
    | mk valid g =>
        obtain ⟨kernel, -, rfl⟩ := Host.system_eq hsystem
        rw [hsystem] at hp
        cases valid with
        | halted cause | failed cause =>
            obtain ⟨-, rfl⟩ := Prod.mk.inj hp
            exact changes_of_refused hr rfl
        | done value =>
            dsimp only at hp
            split at hp
            · obtain ⟨-, rfl⟩ := Prod.mk.inj hp
              exact changes_of_refused hr rfl
            · split at hp
              · obtain ⟨-, rfl⟩ := Prod.mk.inj hp
                exact changes_of_refused hr rfl
              · rename_i table henlist
                obtain ⟨-, rfl⟩ := Prod.mk.inj hp
                have hamend : TableCall.amend? r.poll.table (.watch fd i t) = some table := by
                  rw [TableCall.amend?, hr, henlist]
                  rfl
                exact changes_of_amend hr _ hamend rfl

/-- Unwatching is a run of the race. -/
theorem changes_of_unwatch (hr : r.poll = h.facility) (hp : unwatch fd i h = (outcome, h')) :
    r.Changes h h' := by
  unfold unwatch at hp
  split at hp
  · obtain ⟨-, rfl⟩ := Prod.mk.inj hp
    exact changes_of_refused hr rfl
  · split at hp
    · obtain ⟨-, rfl⟩ := Prod.mk.inj hp
      exact changes_of_refused hr rfl
    · rename_i n entry hentry
      obtain rfl : h' = changeTable (lessen h.facility.table n entry (.ofInterests i)) h := by
        dsimp only at hp
        split at hp <;> exact (Prod.mk.inj hp).2.symm
      have hamend : TableCall.amend? r.poll.table (.unwatch fd i) =
          some (lessen h.facility.table n entry (.ofInterests i)) := by
        rw [TableCall.amend?, hr, hentry]
        rfl
      exact changes_of_amend hr _ hamend rfl

/-- The end of a round is a run of the race, which goes on as the round says. -/
theorem exists_run_conclude {results : Outcome SystemError (List UInt16)} {ended : Round}
    {b' : NativeBuffer} (hr : r.poll = h.facility) (hstage : r.stage = .calling b snapshot)
    (hc : conclude snapshot b timeout results h = ((ended, b'), h')) :
    ∃ L r', Run r L r' ∧ r'.poll = h'.facility ∧
      match ended with
      | .over outcome => .returned outcome b' timeout ∈ L ∧ r'.stage = .idle
      | .again => .again timeout ∈ L ∧ r'.stage = .begun b' := by
  cases results with
  | halted cause =>
      obtain ⟨hround, rfl⟩ := Prod.mk.inj hc
      obtain ⟨rfl, rfl⟩ := Prod.mk.inj hround
      exact ⟨_, _, .single (.fail (.halted cause) timeout hstage nofun), hr, by simp, rfl⟩
  | failed cause =>
      obtain ⟨hround, rfl⟩ := Prod.mk.inj hc
      obtain ⟨rfl, rfl⟩ := Prod.mk.inj hround
      exact ⟨_, _, .single (.fail (.failed cause) timeout hstage nofun), hr, by simp, rfl⟩
  | done results =>
      obtain ⟨hround, rfl⟩ := Prod.mk.inj hc
      obtain ⟨hended, rfl⟩ := Prod.mk.inj hround
      have hpoll : (if r.poll.woken then r.poll.drain else r.poll) = h.facility.drain := by
        cases hwoken : r.poll.woken with
        | true => rw [if_pos rfl, hr]
        | false => rw [if_neg Bool.false_ne_true, ← hr, drain_of_quiet hwoken]
      rw [← hr] at hended
      cases hgoes : goesOn r.poll.woken (b.extend ((found snapshot results).take b.capacity))
          timeout with
      | true =>
          rw [hgoes] at hended
          obtain rfl := hended
          exact ⟨_, _, .step (.answer results hstage) <| .step (.drain rfl) <|
            .single (.again timeout rfl hgoes), hpoll, by simp, rfl⟩
      | false =>
          rw [hgoes] at hended
          obtain rfl := hended
          exact ⟨_, _, .step (.answer results hstage) <| .step (.drain rfl) <|
            .single (.finish timeout rfl hgoes), hpoll, by simp, rfl⟩

theorem Run.closed (hr : Run r L r') : r'.poll.closed = r.poll.closed := by
  induction hr with
  | refl r => rfl
  | @step r r₁ r₂ a L hs _ ih =>
      refine ih.trans ?_
      cases hs with
      | @drain b woken _ => cases woken <;> rfl
      | _ => rfl

/-- Waiting is a run of the race: it takes the table to the kernel, where others may do what the
race allows, and returns. -/
theorem exists_run_wait (r : Race) (b : NativeBuffer) (timeout : Option Duration)
    (hopen : h.facility.closed = false) (hr : r.poll = h.facility) (hidle : r.stage = .idle) :
    ∃ resume h₁ L r₁, wait b timeout h = (.inside resume, h₁) ∧ Run r L r₁ ∧
      r₁.poll = h₁.facility ∧ r₁.stage = .calling b.clear h.facility.table ∧
      ∀ {L' r₂ h₂ outcome b' h₃}, Run r₁ L' r₂ → r₂.stage = r₁.stage → r₂.poll = h₂.facility →
        resume h₂ = ((outcome, b'), h₃) →
          ∃ L'' r₃, Run r₂ L'' r₃ ∧ .returned outcome b' timeout ∈ L'' ∧ r₃.poll = h₃.facility ∧
            r₃.stage = .idle := by
  unfold wait
  rw [round_of_open b timeout hopen]
  refine ⟨_, _, _, _, rfl, .step (.begin b hidle) (.single (.snapshot rfl)), hr, ?_, ?_⟩
  · rw [← hr]
  intro L' r₂ h₂ outcome b' h₃ hothers hstage hr₂ hresume
  have hopen₂ : h₂.facility.closed = false := by
    rw [← hr₂, hothers.closed, hr, hopen]
  dsimp only at hresume
  cases hc : conclude h.facility.table b.clear timeout (answered h.facility.table h₂.kernel).1
      { h₂ with kernel := (answered h.facility.table h₂.kernel).2 } with
  | mk result g =>
      obtain ⟨ended, c⟩ := result
      obtain ⟨L₁, r₃, hrun, hpoll, hend⟩ :=
        exists_run_conclude (h := { h₂ with kernel := (answered h.facility.table h₂.kernel).2 })
          hr₂ (hstage.trans (by rw [← hr])) hc
      rw [hc] at hresume
      rcases ended with outcome' | _
      · obtain ⟨hround, rfl⟩ := Prod.mk.inj hresume
        obtain ⟨rfl, rfl⟩ := Prod.mk.inj hround
        exact ⟨L₁, r₃, hrun, hend.1, hpoll, hend.2⟩
      · -- nobody else runs in the round that follows
        have hopen' : g.facility.closed = false := by
          have := (conclude_facility h.facility.table b.clear timeout
            (answered h.facility.table h₂.kernel).1
            { h₂ with kernel := (answered h.facility.table h₂.kernel).2 }).2.1
          rw [hc] at this
          exact this.trans hopen₂
        obtain ⟨outcome', c', g', hc', hsettle⟩ :=
          settle_of_drained c timeout hopen' (conclude_again hc).1
        obtain ⟨hround, rfl⟩ := Prod.mk.inj (hsettle.symm.trans hresume)
        obtain ⟨rfl, rfl⟩ := Prod.mk.inj hround
        obtain ⟨L₂, r₄, hrun', hpoll', hreturned, hidle'⟩ :=
          exists_run_conclude (r := { r₃ with stage := .calling c.clear r₃.poll.table })
            (h := (ask timeout g).2) hpoll (by rw [hpoll]) hc'
        exact ⟨L₁ ++ .snapshot :: L₂, r₄, hrun.trans (.step (.snapshot hend.2) hrun'),
          List.mem_append_right _ (List.mem_cons_of_mem _ hreturned), hpoll', hidle'⟩

/-- The calls of the facility are runs of a race: those that change the table, and the wait, while
others do in the kernel's turn what the race allows. -/
structure RunsCalls : Prop where
  watch : ∀ (r : Race) (fd : Int32) (i : Interests) (t : Tag) (h h' : Host Poll)
    (outcome : Outcome SystemError Unit), r.poll = h.facility →
      Poll.watch fd i t h = (outcome, h') → r.Changes h h'
  unwatch : ∀ (r : Race) (fd : Int32) (i : Interests) (h h' : Host Poll)
    (outcome : Outcome SystemError Unit), r.poll = h.facility →
      Poll.unwatch fd i h = (outcome, h') → r.Changes h h'
  wait : ∀ (r : Race) (b : NativeBuffer) (timeout : Option Duration) (h : Host Poll),
    h.facility.closed = false → r.poll = h.facility → r.stage = .idle →
      ∃ resume h₁ L r₁, Poll.wait b timeout h = (.inside resume, h₁) ∧ Run r L r₁ ∧
        r₁.poll = h₁.facility ∧ r₁.stage = .calling b.clear h.facility.table ∧
        ∀ {L' r₂ h₂ outcome b' h₃}, Run r₁ L' r₂ → r₂.stage = r₁.stage → r₂.poll = h₂.facility →
          resume h₂ = ((outcome, b'), h₃) →
            ∃ L'' r₃, Run r₂ L'' r₃ ∧ .returned outcome b' timeout ∈ L'' ∧ r₃.poll = h₃.facility ∧
              r₃.stage = .idle

/-- **No change is lost.**  Whatever is watched and unwatched during a wait: if the table in the
kernel is out of date, the waker is readable or a changing call is still to write its wake-up.  So a
wait that has time left never returns without events if its last snapshot misses a change whose
wake-up was written before the kernel answered; it goes round again, and what it shows to the kernel
next is the table of that moment.  The calls of the facility are such calls. -/
theorem no_change_is_lost :
    RunsCalls ∧ ∀ {p : Poll} {L : List Label} {r : Race}, Run (start p) L r →
      (∀ b snapshot, r.stage = .calling b snapshot → r.poll.table ≠ snapshot →
        r.poll.woken = true ∨ r.unwritten ≠ []) ∧
      ∀ {n : Nat} {L₁ L₂ : List Label} {r₁ r₂ r₃ r₄ : Race} {remaining : Option Duration},
        Step r .snapshot r₁ → Run r₁ L₁ r₂ → .changed n ∈ L₁ ∧ .wrote n ∈ L₁ →
        Step r₂ .answered r₃ → Run r₃ L₂ r₄ → .snapshot ∉ L₁ ++ L₂ → expired remaining = false →
          (∀ b r₅, Step r₄ (.returned (.done ()) b remaining) r₅ → b.isEmpty = false) ∧
          ∀ b woken, r₄.stage = .drained b woken → b.isEmpty = true →
            ∃ r₅, Step r₄ (.again remaining) r₅ ∧ ∀ L₃ r₆ r₇, Run r₅ L₃ r₆ → .snapshot ∉ L₃ →
              Step r₆ .snapshot r₇ → r₇.stage = .calling b.clear r₆.poll.table := by
  refine ⟨⟨fun _ _ _ _ _ _ _ => changes_of_watch, fun _ _ _ _ _ _ => changes_of_unwatch,
    fun r b timeout _ => exists_run_wait r b timeout⟩, ?_⟩
  intro p L r h
  refine ⟨(guarded_start p).run h, ?_⟩
  intro n L₁ L₂ r₁ r₂ r₃ r₄ remaining hsnapshot h₁ hmissed hanswered h₂ hL htime
  rw [List.mem_append, not_or] at hL
  obtain ⟨b, hstage⟩ := hsnapshot.answered_woken h₁ hL.1 hmissed.2 hanswered
  have hlast : Holds b true r₄ ∨ Between r₄ := h₂.holds hL.2 (.inl (.inl hstage))
  constructor
  · intro b' r₅ hreturned
    cases hreturned with
    | fail _ _ _ hne => exact absurd rfl hne
    | finish _ hdrained hover =>
        obtain ⟨rfl, rfl⟩ := Holds.of_drained hlast hdrained
        simpa [goesOn, htime] using hover
  · intro b' woken hdrained hempty
    obtain ⟨rfl, rfl⟩ := Holds.of_drained hlast hdrained
    refine ⟨_, .again remaining hdrained (by simp [goesOn, hempty, htime]), ?_⟩
    intro L₃ r₆ r₇ h₃ hL₃ hnext
    cases hnext with
    | snapshot hbegun =>
        obtain rfl := WaitStage.begun.inj ((h₃.begun hL₃ rfl).symm.trans hbegun)
        rfl

/-- A descriptor is watched while the kernel has the empty table, which then answers without
results: the wait goes round and shows the new table. -/
theorem no_change_is_lost_watch :
    ∃ (r r₁ r₂ r₃ r₄ r₅ : Race) (L L₁ L₂ : List Label), Run (start {}) L r ∧
      Step r .snapshot r₁ ∧ Run r₁ L₁ r₂ ∧ (.changed 0 ∈ L₁ ∧ .wrote 0 ∈ L₁) ∧
      Step r₂ .answered r₃ ∧ Run r₃ L₂ r₄ ∧ .snapshot ∉ L₁ ++ L₂ ∧
      r₄.stage = .drained ⟨4, [], 0⟩ true ∧ Step r₄ (.again none) r₅ ∧
      ∀ r₆, Step r₅ .snapshot r₆ → r₆.stage = .calling ⟨4, [], 0⟩ [⟨5, ⟨1⟩, .pack 0 0⟩] := by
  obtain ⟨r, r₁, r₂, r₃, r₄, L, L₁, L₂, h, hsnapshot, h₁, hanswered, h₂, hL₁, hL₂, hstage, htable⟩ :
      ∃ (r r₁ r₂ r₃ r₄ : Race) (L L₁ L₂ : List Label), Run (start {}) L r ∧
        Step r .snapshot r₁ ∧ Run r₁ L₁ r₂ ∧ Step r₂ .answered r₃ ∧ Run r₃ L₂ r₄ ∧
        L₁ = [.changed 0, .wrote 0] ∧ L₂ = [.silent] ∧ r₄.stage = .drained ⟨4, [], 0⟩ true ∧
        r₄.poll.table = [⟨5, ⟨1⟩, .pack 0 0⟩] :=
    ⟨_, _, _, _, _, _, _, _, .single (.begin ⟨4, [], 0⟩ rfl), .snapshot rfl,
      .step (.change (.watch 5 .readable (.pack 0 0)) rfl) (.single (.write List.mem_cons_self)),
      .answer [] rfl, .single (.drain rfl), rfl, rfl, rfl, rfl⟩
  have hmissed : .changed 0 ∈ L₁ ∧ .wrote 0 ∈ L₁ := by simp [hL₁]
  have hL : .snapshot ∉ L₁ ++ L₂ := by simp [hL₁, hL₂]
  have htime : expired none = false := rfl
  obtain ⟨r₅, hagain, hnext⟩ :=
    ((no_change_is_lost.2 h).2 hsnapshot h₁ hmissed hanswered h₂ hL htime).2 _ _ hstage rfl
  refine ⟨r, r₁, r₂, r₃, r₄, r₅, L, L₁, L₂, h, hsnapshot, h₁, hmissed, hanswered, h₂, hL, hstage,
    hagain, fun r₆ hs => ?_⟩
  have htable₅ : r₅.poll.table = r₄.poll.table := by
    cases hagain with
    | again => rfl
  rw [hnext [] r₅ r₆ (.refl r₅) List.not_mem_nil hs, htable₅, htable]
  rfl

end Race

end Poll

end Readiness
