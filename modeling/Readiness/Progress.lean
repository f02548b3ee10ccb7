import Readiness.Error

/-! # Calls in progress

A call on a state of type `σ` may stop inside the system, where other calls run before it goes
on.  `Progress` is such a call after its first part:

* `returned r`: it is over, with result `r`;
* `inside resume`: it waits inside the system, and `resume` is the rest of it, to be run on
  whatever state the others have left.

A call is a function `σ → Progress σ ρ × σ`.  It is finished alone (`Progress.alone`) or with
others in between (`Progress.among`), and a call on a part of a state is carried over to the
whole by `Progress.within`. -/

namespace Readiness

/-- A call that is over, or that waits inside the system. -/
inductive Progress (σ ρ : Type) where
  | returned (result : ρ)
  | inside (resume : σ → ρ × σ)

namespace Progress

variable {σ τ ρ γ α : Type}

/-- A call that never stops inside. -/
def atOnce (call : σ → ρ × σ) (s : σ) : Progress σ ρ × σ :=
  let (r, s) := call s
  (.returned r, s)

/-- Finish a call with nobody else around. -/
def alone : Progress σ ρ × σ → ρ × σ
  | (.returned r, s) => (r, s)
  | (.inside resume, s) => resume s

/-- Finish a call; if it waits inside, `others` run there, and their result is returned too. -/
def among (others : σ → α × σ) : Progress σ ρ × σ → (ρ × Option α) × σ
  | (.returned r, s) => ((r, none), s)
  | (.inside resume, s) =>
    let (a, s) := others s
    let (r, s) := resume s
    ((r, some a), s)

/-- Go on with `k` once a call has returned. -/
def andThen (k : ρ → σ → γ × σ) : Progress σ ρ × σ → Progress σ γ × σ
  | (.returned r, s) => atOnce (k r) s
  | (.inside resume, s) =>
    (.inside fun s =>
      let (r, s) := resume s
      k r s, s)

/-- Make a call on a part `τ` of the state, and go on with `k` on the whole state. -/
def within (get : σ → τ) (put : τ → σ → σ) (call : τ → Progress τ ρ × τ) (k : ρ → σ → γ × σ)
    (s : σ) : Progress σ γ × σ :=
  match call (get s) with
  | (.returned r, t) => atOnce (k r) (put t s)
  | (.inside resume, t) =>
    (.inside fun s =>
      let (r, t) := resume (get s)
      k r (put t s), put t s)

@[simp] theorem alone_atOnce (call : σ → ρ × σ) (s : σ) : alone (atOnce call s) = call s := rfl

/-- Nobody gets into a call that never stops inside. -/
@[simp] theorem among_atOnce (others : σ → α × σ) (call : σ → ρ × σ) (s : σ) :
    among others (atOnce call s) = (((call s).1, none), (call s).2) := rfl

/-- Going on after a call, with nobody else around, is going on from where the call ends. -/
theorem alone_andThen (k : ρ → σ → γ × σ) (p : Progress σ ρ × σ) :
    alone (andThen k p) = k (alone p).1 (alone p).2 := by
  obtain ⟨r | resume, s⟩ := p <;> rfl

/-- A call on a part, with nobody else around, is the call on that part put back. -/
theorem alone_within (get : σ → τ) (put : τ → σ → σ) (hget : ∀ t s, get (put t s) = t)
    (hput : ∀ t u s, put t (put u s) = put t s) (call : τ → Progress τ ρ × τ)
    (k : ρ → σ → γ × σ) (s : σ) :
    alone (within get put call k s) =
      k (alone (call (get s))).1 (put (alone (call (get s))).2 s) := by
  unfold within
  cases call (get s) with
  | mk p t => cases p <;> simp [alone, atOnce, hget, hput]

end Progress

end Readiness
