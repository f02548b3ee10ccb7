import Readiness.Facility.Epoll
import Readiness.Facility.Kqueue
import Readiness.Facility.Scripted
import Readiness.Proofs.PollArrays

/-! # Nobody reads the log

Lines are written to the log for readers outside, and what a facility does never depends on them.

* **Alike** (`Host.Alike`).  Two hosts are alike if they differ in the log at most.
* **Calls** (`Progress.Matches`).  Two calls match if they are at the same point with the same
  results and related states, and go on in that way from all related states.
* **Facilities** (`LogBlind`).  The calls of a facility match on hosts that are alike.  This holds
  of all four facilities. -/

namespace Readiness

/-! ### Calls that match -/

namespace Progress

variable {σ ρ γ α : Type} {R : σ → σ → Prop}

/-- The same result, and related states. -/
def Agrees (R : σ → σ → Prop) (x y : ρ × σ) : Prop := x.1 = y.1 ∧ R x.2 y.2

theorem Agrees.exists {x y : ρ × σ} (h : Agrees R x y) :
    ∃ r s s', x = (r, s) ∧ y = (r, s') ∧ R s s' := by
  obtain ⟨r, s⟩ := x
  obtain ⟨r', s'⟩ := y
  obtain ⟨rfl, hs⟩ := h
  exact ⟨r, s, s', rfl, rfl, hs⟩

theorem Agrees.map {x y : ρ × σ} (h : Agrees R x y) (f : ρ → γ) :
    Agrees R (Prod.map f id x) (Prod.map f id y) := ⟨congrArg f h.1, h.2⟩

/-- Two calls have come to the same point, and go on alike from related states. -/
def Matches (R : σ → σ → Prop) : Progress σ ρ × σ → Progress σ ρ × σ → Prop
  | (.returned r, s), (.returned r', s') => r = r' ∧ R s s'
  | (.inside resume, s), (.inside resume', s') =>
    R s s' ∧ ∀ t t', R t t' → Agrees R (resume t) (resume' t')
  | _, _ => False

/-- From related states a call comes to the same result and to related states. -/
def Respects (R : σ → σ → Prop) (f : σ → ρ × σ) : Prop :=
  ∀ s s', R s s' → Agrees R (f s) (f s')

/-- From related states a call comes to the same point, and it goes on alike. -/
def RespectsWithin (R : σ → σ → Prop) (call : σ → Progress σ ρ × σ) : Prop :=
  ∀ s s', R s s' → Matches R (call s) (call s')

variable {p q : Progress σ ρ × σ} {call : σ → Progress σ ρ × σ}

theorem Respects.atOnce {f : σ → ρ × σ} (hf : Respects R f) : RespectsWithin R (atOnce f) := hf

theorem Matches.alone (h : Matches R p q) : Agrees R (alone p) (alone q) := by
  obtain ⟨r | resume, s⟩ := p <;> obtain ⟨r' | resume', s'⟩ := q
  · exact h
  · exact h.elim
  · exact h.elim
  · exact h.2 s s' h.1

theorem RespectsWithin.alone (hcall : RespectsWithin R call) :
    Respects R fun s => Progress.alone (call s) :=
  fun s s' hs => (hcall s s' hs).alone

/-- Calls that match still do so with something after them. -/
theorem Matches.andThen {k : ρ → σ → γ × σ} (h : Matches R p q) (hk : ∀ r, Respects R (k r)) :
    Matches R (andThen k p) (andThen k q) := by
  obtain ⟨r | resume, s⟩ := p <;> obtain ⟨r' | resume', s'⟩ := q
  · obtain ⟨rfl, hs⟩ := h
    exact hk r s s' hs
  · exact h.elim
  · exact h.elim
  · refine ⟨h.1, fun t t' ht => ?_⟩
    obtain ⟨hr, hs⟩ := h.2 t t' ht
    dsimp only
    rw [hr]
    exact hk _ _ _ hs

theorem RespectsWithin.andThen {k : ρ → σ → γ × σ} (hcall : RespectsWithin R call)
    (hk : ∀ r, Respects R (k r)) : RespectsWithin R fun s => Progress.andThen k (call s) :=
  fun s s' hs => (hcall s s' hs).andThen hk

/-- If others leave related states, a call ends alike, whatever they answered. -/
theorem Matches.among (h : Matches R p p) (others : σ → α × σ) (others' : σ → γ × σ)
    (hothers : ∀ resume s, p = (.inside resume, s) → R (others s).2 (others' s).2) :
    (Progress.among others p).1.1 = (Progress.among others' p).1.1 ∧
      R (Progress.among others p).2 (Progress.among others' p).2 := by
  obtain ⟨r | resume, s⟩ := p
  · exact ⟨rfl, h.2⟩
  · exact h.2 _ _ (hothers resume s rfl)

/-- If others leave a related state, a call ends as it does alone. -/
theorem Matches.alone_among (h : Matches R p p) (others : σ → α × σ)
    (hothers : ∀ resume s, p = (.inside resume, s) → R s (others s).2) :
    (Progress.alone p).1 = (Progress.among others p).1.1 ∧
      R (Progress.alone p).2 (Progress.among others p).2 := by
  have hnobody : Progress.alone p = ((Progress.among (fun s => ((), s)) p).1.1,
      (Progress.among (fun s => ((), s)) p).2) := by
    obtain ⟨r | resume, s⟩ := p <;> rfl
  rw [hnobody]
  exact h.among _ others hothers

end Progress

/-! ### Hosts that are alike -/

namespace Host

variable {β ρ γ : Type} {h h' : Host β}

/-- Two hosts differ in the log at most. -/
def Alike (h h' : Host β) : Prop := ∃ log, h' = { h with log }

/-- Whatever is written to either log, hosts that are alike stay so. -/
theorem Alike.note (hl : h.Alike h') (entry : LogEntry) : (h.note entry).Alike (h'.note entry) := by
  obtain ⟨log, rfl⟩ := hl
  exact ⟨_, rfl⟩

/-- A function of hosts that does not read the log. -/
abbrev Blind (f : Host β → ρ × Host β) : Prop := Progress.Respects Alike f

/-- A call that does not read the log, neither before others run inside nor after that. -/
abbrev BlindWithin (call : Host β → Progress (Host β) ρ × Host β) : Prop :=
  Progress.RespectsWithin Alike call

theorem blind_system (call : β → Kernel → ρ × Kernel) :
    Blind fun h : Host β => h.system (call h.facility) := by
  rintro h - ⟨log, rfl⟩
  exact ⟨rfl, _, rfl⟩

/-- A system call inside which others may run, with something after it that does not read the
log. -/
theorem blind_systemWithin (call : β → Kernel → Progress Kernel ρ × Kernel)
    (k : β → ρ → Host β → γ × Host β) (hk : ∀ b r, Blind (k b r)) :
    BlindWithin fun h : Host β => h.systemWithin (call h.facility) (k h.facility) := by
  rintro h - ⟨log, rfl⟩
  unfold systemWithin Progress.within
  dsimp only
  rcases call h.facility h.kernel with ⟨r | resume, kernel⟩
  · exact hk _ _ _ _ ⟨log, rfl⟩
  · refine ⟨⟨log, rfl⟩, ?_⟩
    rintro g - ⟨log', rfl⟩
    exact hk _ _ _ _ ⟨log', rfl⟩

/-! ### Registering interest by interest -/

section

variable {register deregister : Interests → Host β → Outcome SystemError Unit × Host β}
  {report : Interests → SystemError → Host β → Host β}

theorem blind_undoAll (hdelete : ∀ i, Blind (deregister i))
    (hreport : ∀ i cause h h', h.Alike h' → (report i cause h).Alike (report i cause h'))
    (registered : List Interests) : Blind (undoAll deregister report registered) := by
  induction registered with
  | nil => exact fun h h' hl => ⟨rfl, hl⟩
  | cons i rest ih =>
      intro h h' hl
      obtain ⟨outcome, g, g', hd, hd', hg⟩ := (hdelete i h h' hl).exists
      rw [undoAll, undoAll, hd, hd']
      cases outcome with
      | done value => exact ih g g' hg
      | failed cause => exact ih _ _ (hreport i cause g g' hg)
      | halted cause => exact ⟨rfl, hg⟩

theorem blind_registerFrom (hregister : ∀ i, Blind (register i))
    (hdelete : ∀ i, Blind (deregister i))
    (hreport : ∀ i cause h h', h.Alike h' → (report i cause h).Alike (report i cause h'))
    (registered todo : List Interests) :
    Blind (registerFrom register deregister report registered todo) := by
  induction todo generalizing registered with
  | nil => exact fun h h' hl => ⟨rfl, hl⟩
  | cons i todo ih =>
      intro h h' hl
      obtain ⟨outcome, g, g', hd, hd', hg⟩ := (hregister i h h' hl).exists
      rw [registerFrom, registerFrom, hd, hd']
      cases outcome with
      | done value => exact ih _ g g' hg
      | halted cause => exact ⟨rfl, hg⟩
      | failed cause =>
          obtain ⟨undone, u, u', hu, hu', hl'⟩ :=
            (blind_undoAll hdelete hreport registered g g' hg).exists
          dsimp only
          rw [hu, hu']
          cases undone with
          | halted other => exact ⟨rfl, hl'⟩
          | done _ | failed _ => exact ⟨rfl, hl'⟩

end

end Host

/-! ### Facilities -/

open Host

/-- A facility whose calls do not read the log. -/
class LogBlind (β : Type) [Facility β] : Prop where
  watch : ∀ fd i t, BlindWithin (Facility.watch (β := β) fd i t)
  unwatch : ∀ fd i, BlindWithin (Facility.unwatch (β := β) fd i)
  wait : ∀ b timeout, BlindWithin (Facility.wait (β := β) b timeout)

namespace Epoll

instance : LogBlind Epoll where
  watch fd i t :=
    (blind_system fun (f : Epoll) k => k.epollAdd f.handle.fd fd (requested i) t).atOnce
  unwatch fd _ := (blind_system fun (f : Epoll) k => k.epollDelete f.handle.fd fd).atOnce
  wait b timeout :=
    blind_systemWithin
      (fun f : Epoll =>
        Kernel.epollWait f.handle.fd (room b.clear.capacity) (timeoutMillis timeout))
      (fun _ outcome h => (deliver b.clear outcome, h)) fun _ _ _ _ hl => ⟨rfl, hl⟩

end Epoll

namespace Kqueue

theorem blind_change (c : KqueueChange) : Blind (change c) := by
  rintro h - ⟨log, rfl⟩
  unfold change system
  dsimp only
  rcases h.kernel.keventChange h.facility.handle.fd c with ⟨outcome, kernel⟩
  cases outcome with
  | halted cause => exact ⟨rfl, log, rfl⟩
  | failed cause =>
      dsimp only
      split <;> exact ⟨rfl, log, rfl⟩
  | done receipt =>
      dsimp only
      split <;> exact ⟨rfl, log, rfl⟩

theorem blind_unwatchEach (fd : Int32) (singles : List Interests)
    (result : Outcome SystemError Unit) : Blind (unwatchEach fd singles result) := by
  induction singles generalizing result with
  | nil => exact fun h h' hl => ⟨rfl, hl⟩
  | cons i rest ih =>
      intro h h' hl
      have hfirst : Blind (deregister fd ⟨0⟩ i) := blind_change _
      obtain ⟨outcome, g, g', hd, hd', hg⟩ := (hfirst h h' hl).exists
      rw [unwatchEach, unwatchEach, hd, hd']
      cases outcome with
      | halted cause => exact ⟨rfl, hg⟩
      | done value => exact ih _ g g' hg
      | failed cause => exact ih _ g g' hg

theorem blind_watch (fd : Int32) (i : Interests) (t : Tag) : Blind (watch fd i t) := by
  have hregister : ∀ i, Blind (register fd t i) := fun _ => blind_change _
  have hdelete : ∀ i, Blind (deregister fd t i) := fun _ => blind_change _
  exact blind_registerFrom hregister hdelete
    (fun i cause _ _ hl => hl.note (.rollbackFailed i cause)) [] i.split

instance : LogBlind Kqueue where
  watch fd i t := (blind_watch fd i t).atOnce
  unwatch fd i := (blind_unwatchEach fd i.split (.done ())).atOnce
  wait b timeout :=
    blind_systemWithin
      (fun f : Kqueue =>
        Kernel.keventWait f.handle.fd (room b.clear.capacity) (timeout.map Duration.timespec))
      (fun _ outcome h => (deliver b.clear outcome, h)) fun _ _ _ _ hl => ⟨rfl, hl⟩

end Kqueue

namespace Poll

theorem blind_watch (fd : Int32) (i : Interests) (t : Tag) : Blind (watch fd i t) := by
  rintro h - ⟨log, rfl⟩
  unfold watch system
  by_cases hfd : fd < 0
  · simp only [if_pos hfd]
    exact ⟨rfl, log, rfl⟩
  · simp only [if_neg hfd]
    rcases h.kernel.getFlags fd with ⟨valid, kernel⟩
    cases valid with
    | halted _ | failed _ => exact ⟨rfl, log, rfl⟩
    | done value =>
        dsimp only
        split
        · exact ⟨rfl, log, rfl⟩
        · split <;> exact ⟨rfl, log, rfl⟩

theorem blind_unwatch (fd : Int32) (i : Interests) : Blind (unwatch fd i) := by
  rintro h - ⟨log, rfl⟩
  unfold unwatch
  dsimp only
  split
  · exact ⟨rfl, log, rfl⟩
  · split
    · exact ⟨rfl, log, rfl⟩
    · split <;> exact ⟨rfl, log, rfl⟩

theorem blind_conclude (snapshot : List PollEntry) (b : NativeBuffer) (timeout : Option Duration)
    (outcome : Outcome SystemError (List UInt16)) :
    Blind (conclude snapshot b timeout outcome) := by
  rintro h - ⟨log, rfl⟩
  cases outcome <;> exact ⟨rfl, log, rfl⟩

theorem blind_round (b : NativeBuffer) (timeout : Option Duration) :
    BlindWithin (round b timeout) := by
  intro h h' hl
  by_cases hclosed : h.facility.closed = true
  · obtain ⟨log, rfl⟩ := hl
    rw [round_eq, round_eq, if_pos hclosed, if_pos hclosed]
    exact ⟨rfl, log, rfl⟩
  · have hcall := blind_systemWithin
      (fun p : Poll => Kernel.poll (shown p.table) (timeoutMillis timeout))
      (fun p => conclude p.table b.clear timeout) (fun p => blind_conclude p.table b.clear timeout)
      h h' hl
    obtain ⟨log, rfl⟩ := hl
    rwa [round_eq, round_eq, if_neg hclosed, if_neg hclosed]

theorem blind_settle (timeout : Option Duration) (fuel : Nat) (b : NativeBuffer) :
    Blind (settle timeout fuel b) := by
  induction fuel generalizing b with
  | zero => exact fun h h' hl => ⟨rfl, hl⟩
  | succ fuel ih =>
      intro h h' hl
      obtain ⟨⟨round, b'⟩, g, g', hd, hd', hg⟩ := ((blind_round b timeout).alone h h' hl).exists
      dsimp only at hd hd'
      rw [settle, settle, hd, hd']
      rcases round with outcome | _
      · exact ⟨rfl, hg⟩
      · exact ih b' g g' hg

theorem blind_next (timeout : Option Duration) (result : Round × NativeBuffer) :
    Blind (next timeout result) := by
  rintro h - ⟨log, rfl⟩
  obtain ⟨outcome | _, b⟩ := result
  · exact ⟨rfl, log, rfl⟩
  · exact blind_settle timeout _ b _ _ ⟨log, rfl⟩

instance : LogBlind Poll where
  watch fd i t := (blind_watch fd i t).atOnce
  unwatch fd i := (blind_unwatch fd i).atOnce
  wait b timeout := (blind_round b timeout).andThen (blind_next timeout)

end Poll

namespace Scripted

/-- The calls of the scripted facility are blind if what they do after their verdict is. -/
theorem blind_enter {ρ : Type} (call : SystemCall) (name : CallName)
    {act : Host Scripted → Outcome SystemError ρ × Host Scripted} (hact : Blind act) :
    BlindWithin (enter call name act) := by
  rintro h - ⟨log, rfl⟩
  unfold enter
  dsimp only [record]
  split
  · exact ⟨rfl, log, rfl⟩
  · refine ⟨⟨log, rfl⟩, ?_⟩
    rintro g - ⟨log', rfl⟩
    unfold obey
    dsimp only
    split
    · exact hact _ _ ⟨log', rfl⟩
    · exact ⟨rfl, log', rfl⟩
    · exact ⟨rfl, log', rfl⟩

instance : LogBlind Scripted where
  watch fd i t := by
    refine blind_enter _ _ ?_
    rintro h - ⟨log, rfl⟩
    dsimp only
    split <;> exact ⟨rfl, log, rfl⟩
  unwatch fd i := by
    refine blind_enter _ _ ?_
    rintro h - ⟨log, rfl⟩
    dsimp only
    split <;> exact ⟨rfl, log, rfl⟩
  wait b timeout := by
    refine (blind_enter _ _ ?_).andThen fun outcome h h' hl => ⟨rfl, hl⟩
    rintro h - ⟨log, rfl⟩
    exact ⟨rfl, log, rfl⟩

end Scripted

end Readiness
