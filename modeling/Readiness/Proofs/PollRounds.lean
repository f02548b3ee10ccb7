import Readiness.Proofs.PollArrays
import Readiness.Proofs.Registry

/-! # Rounds of a wait with `poll`

* **How a call ends** (`Progress.Ends`) depends on what others have left when it is resumed, and on
  nothing else that they do (`Progress.Ends.unique`).
* **One round** (`Poll.round_of_open`) shows the table to the kernel, lets others run, and ends as
  `Poll.conclude` says.
* **The last round.**  Only a round that found a wake-up, and drained it, is not the last one
  (`Poll.conclude_again`).
* **The rounds after the first** are at most one, because the first has drained the waker and nobody
  wakes it (`Poll.settle_of_drained`).
* **Any number of rounds** (`Poll.Rounds`).  If others may run at any time, there may be many rounds,
  each with the time that is left.  A wait is a special case of this (`Poll.Rounds.of_wait`). -/

namespace Readiness

namespace Progress

variable {σ ρ γ : Type} {may : σ → σ → Prop}

/-- How a call ends: it is over at once, or it is resumed on a state that others have left as they may.
The third argument is the state it was resumed on, or the one it is over in. -/
inductive Ends (may : σ → σ → Prop) : Progress σ ρ × σ → σ → ρ → σ → Prop
  | returned (r : ρ) (s : σ) : Ends may (.returned r, s) s r s
  | resumed {resume : σ → ρ × σ} {s t s' : σ} {r : ρ} :
      may s t → resume t = (r, s') → Ends may (.inside resume, s) t r s'

/-- A call that nobody disturbs ends. -/
theorem Ends.alone (p : Progress σ ρ × σ) (hmay : may p.2 p.2) :
    Ends may p p.2 (Progress.alone p).1 (Progress.alone p).2 := by
  obtain ⟨r | resume, s⟩ := p
  · exact .returned r s
  · exact .resumed hmay rfl

/-- What others have left decides how a call ends. -/
theorem Ends.unique {may' : σ → σ → Prop} {p : Progress σ ρ × σ} {t s₁ s₂ : σ} {r₁ r₂ : ρ}
    (h₁ : Ends may p t r₁ s₁) (h₂ : Ends may' p t r₂ s₂) : r₁ = r₂ ∧ s₁ = s₂ := by
  cases h₁ with
  | returned =>
      cases h₂
      exact ⟨rfl, rfl⟩
  | resumed _ hr₁ =>
      cases h₂ with
      | resumed _ hr₂ => exact Prod.mk.inj (hr₁.symm.trans hr₂)

/-- What a call keeps is kept if the others keep it. -/
theorem Ends.keeps {α : Type} {F : σ → α} {call : σ → Progress σ ρ × σ} {s t s' : σ} {r : ρ}
    (h : Ends may (call s) t r s') (hcall : Keeps F call) (hmay : ∀ s t, may s t → F t = F s) :
    F s' = F s := by
  obtain ⟨hbefore, hafter⟩ := hcall s
  cases hp : call s with
  | mk p s₁ =>
      rw [hp] at h hbefore hafter
      cases h with
      | returned => exact hbefore
      | @resumed resume _ _ _ _ ht hr =>
          have hrest := hafter resume rfl t
          rw [hr] at hrest
          exact (hrest.trans (hmay _ _ ht)).trans hbefore

/-- What follows a call goes on from where the call ends. -/
theorem Ends.of_andThen {k : ρ → σ → γ × σ} {p : Progress σ ρ × σ} {r : γ} {t s' : σ}
    (h : Ends may (andThen k p) t r s') : ∃ t a s, Ends may p t a s ∧ k a s = (r, s') := by
  obtain ⟨a | resume, s⟩ := p
  · cases h
    exact ⟨s, a, s, .returned a s, rfl⟩
  · cases h with
    | resumed ht hr => exact ⟨_, _, _, .resumed ht rfl, hr⟩

end Progress

namespace Poll

variable {b b' : NativeBuffer} {timeout : Option Duration} {h h' : Host Poll}
  {snapshot : List PollEntry} {outcome : Outcome SystemError (List UInt16)}

/-- The answer of the kernel in a round. -/
def answered (snapshot : List PollEntry) (k : Kernel) :
    Outcome SystemError (List UInt16) × Kernel :=
  k.obey .poll fun k => (.done (k.pollEach (shown snapshot)).1, (k.pollEach (shown snapshot)).2)

/-- A round shows the table to the kernel, and ends with what the kernel answers. -/
theorem round_of_open (b : NativeBuffer) (timeout : Option Duration)
    (hopen : h.facility.closed = false) :
    round b timeout h =
      (.inside fun g =>
          conclude h.facility.table b.clear timeout (answered h.facility.table g.kernel).1
            { g with kernel := (answered h.facility.table g.kernel).2 },
        h.record (.poll (shown h.facility.table) (timeoutMillis timeout))) := by
  rw [round_eq, if_neg (by rw [hopen]; exact Bool.false_ne_true)]
  rfl

/-- A closed facility ends a round before it begins. -/
theorem round_of_closed (b : NativeBuffer) (timeout : Option Duration)
    (hclosed : h.facility.closed = true) :
    round b timeout h = (.returned (.over (.failed .badDescriptor), b.clear), h) := by
  rw [round_eq, if_pos hclosed]

/-- The end of a round leaves the table and drains the waker at most. -/
theorem conclude_facility (snapshot : List PollEntry) (b : NativeBuffer)
    (timeout : Option Duration) (outcome : Outcome SystemError (List UInt16)) (h : Host Poll) :
    (conclude snapshot b timeout outcome h).2.facility.table = h.facility.table ∧
      (conclude snapshot b timeout outcome h).2.facility.closed = h.facility.closed ∧
      (conclude snapshot b timeout outcome h).2.kernel = h.kernel := by
  cases outcome <;> exact ⟨rfl, rfl, rfl⟩

/-- Only a round that drained the waker is not the last one. -/
theorem conclude_again (hc : conclude snapshot b timeout outcome h = ((.again, b'), h')) :
    h'.facility.wakeups = 0 ∧ h.facility.woken = true := by
  cases outcome with
  | done results =>
      obtain ⟨hround, rfl⟩ := Prod.mk.inj hc
      refine ⟨rfl, ?_⟩
      by_contra hquiet
      have hover := (Prod.mk.inj hround).1
      rw [goesOn, Bool.eq_false_iff.mpr hquiet] at hover
      cases hover
  | failed _ | halted _ => cases (Prod.mk.inj (Prod.mk.inj hc).1).1

/-- If every entry has its own result, the events found are those of the entries with results. -/
theorem found_results {α : Type} (l : List α) (e : α → PollEntry) (f : α → UInt16) :
    found (l.map e) (l.map f) =
      (l.filter fun x => f x ≠ 0).map fun x => ⟨(e x).tag, readiness (f x)⟩ := by
  rw [found, List.zip_map', List.filter_map, List.map_map]
  rfl

/-- Ask the kernel for the results of the table. -/
def ask (timeout : Option Duration) (h : Host Poll) :
    Outcome SystemError (List UInt16) × Host Poll :=
  h.system fun k =>
    answered h.facility.table (k.record (.poll (shown h.facility.table) (timeoutMillis timeout)))

/-- A round alone. -/
theorem alone_round (b : NativeBuffer) (timeout : Option Duration)
    (hopen : h.facility.closed = false) :
    Progress.alone (round b timeout h) =
      conclude h.facility.table b.clear timeout (ask timeout h).1 (ask timeout h).2 := by
  rw [round_of_open b timeout hopen]
  rfl

/-- Once the waker is drained and nobody else runs, there is one more round at most. -/
theorem settle_of_drained (b : NativeBuffer) (timeout : Option Duration)
    (hopen : h.facility.closed = false) (hdrained : h.facility.wakeups = 0) :
    ∃ outcome b' h', conclude h.facility.table b.clear timeout (ask timeout h).1
        (ask timeout h).2 = ((.over outcome, b'), h') ∧
      settle timeout (h.facility.wakeups + 1) b h = ((outcome, b'), h') := by
  rw [hdrained, settle, alone_round b timeout hopen]
  cases hc : conclude h.facility.table b.clear timeout (ask timeout h).1 (ask timeout h).2 with
  | mk result h' =>
      obtain ⟨outcome | _, b'⟩ := result
      · exact ⟨outcome, b', h', rfl, rfl⟩
      · have hwoken : h.facility.woken = true := (conclude_again hc).2
        rw [woken, hdrained] at hwoken
        cases hwoken

/-! ### Any number of rounds -/

/-- A wait that goes round after round.  Others may run between the rounds and while the kernel has
its turn; `remaining` is the time that is left for a round.  The last round begins in `begun`, and the
others leave `left` before its call goes on.  The waker may fail to be drained (`undrained`); nothing
has been collected then. -/
inductive Rounds (may : Host Poll → Host Poll → Prop) : NativeBuffer → Host Poll →
    Host Poll → Host Poll → Outcome SystemError Unit → NativeBuffer → Host Poll → Prop
  | last {b b' : NativeBuffer} {h left h' : Host Poll} {outcome : Outcome SystemError Unit}
      (remaining : Option Duration) :
      Progress.Ends may (round b remaining h) left (.over outcome, b') h' →
      Rounds may b h h left outcome b' h'
  | again {b b₁ b' : NativeBuffer} {h g h₁ h₂ begun left h' : Host Poll}
      {outcome : Outcome SystemError Unit} (remaining : Option Duration) :
      Progress.Ends may (round b remaining h) g (.again, b₁) h₁ → may h₁ h₂ →
      Rounds may b₁ h₂ begun left outcome b' h' → Rounds may b h begun left outcome b' h'
  | undrained {b : NativeBuffer} {h left : Host Poll} {results : List UInt16}
      (remaining : Option Duration) (cause : SystemError) :
      h.facility.closed = false →
      may (h.record (.poll (shown h.facility.table) (timeoutMillis remaining))) left →
      (answered h.facility.table left.kernel).1 = .done results → left.facility.woken = true →
      Rounds may b h h left (.failed cause) b.clear
        { left with kernel := (answered h.facility.table left.kernel).2 }

variable {may : Host Poll → Host Poll → Prop} {r : Round} {g : Host Poll}

/-- **How a round ends.**  It fails and leaves an empty buffer, or the kernel has answered for the table
that it was shown, and the buffer holds what was found, as far as there is room. -/
theorem round_ends (hr : Progress.Ends may (round b timeout h) g (r, b') h') :
    (b' = b.clear ∧ ∃ outcome, r = .over outcome ∧ outcome ≠ .done ()) ∨
      ∃ results : List UInt16,
        answered h.facility.table g.kernel = (.done results, h'.kernel) ∧
        b' = b.clear.extend ((found h.facility.table results).take b.capacity) ∧
        h'.facility = g.facility.drain ∧
        r = if goesOn g.facility.woken b' timeout then .again else .over (.done ()) := by
  cases hopen : h.facility.closed with
  | true =>
      rw [round_of_closed b timeout hopen] at hr
      cases hr
      exact .inl ⟨rfl, _, rfl, nofun⟩
  | false =>
      rw [round_of_open b timeout hopen] at hr
      cases hr with
      | resumed _ hc =>
          dsimp only at hc
          cases ha : answered h.facility.table g.kernel with
          | mk answer kernel =>
              rw [ha] at hc
              cases answer with
              | done results =>
                  obtain ⟨hround, rfl⟩ := Prod.mk.inj hc
                  obtain ⟨rfl, rfl⟩ := Prod.mk.inj hround
                  exact .inr ⟨results, rfl, rfl, rfl, rfl⟩
              | failed cause | halted cause =>
                  obtain ⟨hround, rfl⟩ := Prod.mk.inj hc
                  obtain ⟨rfl, rfl⟩ := Prod.mk.inj hround
                  exact .inl ⟨rfl, _, rfl, nofun⟩

/-- A round that is not the last one leaves the waker drained, and the room of the buffer. -/
theorem round_again (hr : Progress.Ends may (round b timeout h) g (.again, b') h') :
    h'.facility.wakeups = 0 ∧ b'.clear = b.clear := by
  rcases round_ends hr with ⟨-, outcome, hover, -⟩ | ⟨results, -, rfl, hfacility, -⟩
  · cases hover
  · exact ⟨congrArg Poll.wakeups hfacility, rfl⟩

/-- The rounds of a wait that nobody disturbs any more. -/
theorem Rounds.settle (hrefl : ∀ h, may h h)
    (b : NativeBuffer) (timeout : Option Duration) (hdrained : h.facility.wakeups = 0) :
    ∃ left, Rounds may b h h left (Poll.settle timeout (h.facility.wakeups + 1) b h).1.1
      (Poll.settle timeout (h.facility.wakeups + 1) b h).1.2
      (Poll.settle timeout (h.facility.wakeups + 1) b h).2 := by
  cases hopen : h.facility.closed with
  | false =>
      obtain ⟨outcome, b', h', hc, hs⟩ := settle_of_drained b timeout hopen hdrained
      rw [hs]
      refine ⟨(round b timeout h).2, .last timeout ?_⟩
      have hends := Progress.Ends.alone (round b timeout h) (hrefl _)
      rwa [alone_round b timeout hopen, hc] at hends
  | true =>
      have hround := round_of_closed b timeout hopen
      have hs : Poll.settle timeout (h.facility.wakeups + 1) b h =
          ((.failed .badDescriptor, b.clear), h) := by
        rw [Poll.settle, hround]
        rfl
      rw [hs]
      exact ⟨h, .last timeout (hround ▸ .returned _ _)⟩

/-- A wait goes round after round. -/
theorem Rounds.of_wait {result : Outcome SystemError Unit} (hrefl : ∀ h, may h h)
    (hw : Progress.Ends may (wait b timeout h) g (result, b') h') :
    ∃ begun left, Rounds may b h begun left result b' h' := by
  obtain ⟨t, ⟨_ | _, b₁⟩, h₁, hround, hnext⟩ := hw.of_andThen
  · obtain ⟨hr, rfl⟩ := Prod.mk.inj hnext
    obtain ⟨rfl, rfl⟩ := Prod.mk.inj hr
    exact ⟨h, t, .last timeout hround⟩
  · obtain ⟨left, hsettled⟩ := Rounds.settle hrefl b₁ timeout (round_again hround).1
    rw [next] at hnext
    rw [hnext] at hsettled
    exact ⟨h₁, left, .again timeout hround (hrefl h₁) hsettled⟩

end Poll

end Readiness
