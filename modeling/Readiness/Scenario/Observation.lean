import Readiness.Facility

/-! # Observations

A scenario shows, for every step, the calls and the log lines since the last step that was
shown.

* `Trace.take` empties the record of calls and log lines and hands it out.
* Steps that run inside another step are shown on their own.  What the outer step had done
  before them is kept for it (`Trace.aside`). -/

namespace Readiness

/-- Calls and log lines. -/
structure Trace where
  calls : Array SystemCall
  log : Array LogEntry
deriving DecidableEq, Repr

namespace Trace

variable {β σ α : Type}

/-- Hand the calls and log lines out, and leave none. -/
def take (h : Host β) : Trace × Host β :=
  (⟨h.kernel.calls, h.log⟩, { h with kernel.calls := #[], log := #[] })

/-- Put calls and log lines before those that are there. -/
def putBack (t : Trace) (h : Host β) : Host β :=
  { h with kernel.calls := t.calls ++ h.kernel.calls, log := t.log ++ h.log }

/-- Run others inside a call on a state with a host: what the call has done so far is kept and
shown with the call. -/
def aside (get : σ → Host β) (put : Host β → σ → σ) (others : σ → α × σ) (s : σ) : α × σ :=
  let (trace, host) := take (get s)
  let (a, s) := others (put host s)
  (a, put (trace.putBack (get s)) s)

end Trace

/-- A result with the calls and log lines that led to it. -/
structure Observed (ρ : Type) where
  result : ρ
  trace : Trace
deriving DecidableEq, Repr

/-- Finish a call, with others inside it if there are any.  Their result is missing if the call
let nobody in. -/
def finishWith {σ ρ α : Type} (others : Option (σ → α × σ)) (call : Progress σ ρ × σ) :
    (ρ × Option (Option α)) × σ :=
  match others with
  | none =>
    let (r, s) := Progress.alone call
    ((r, none), s)
  | some others =>
    let ((r, a), s) := Progress.among others call
    ((r, some a), s)

/-- Repeat a round and keep the result of the last one, if there is one. -/
def repeatRound {σ ρ : Type} (round : σ → ρ × σ) : Nat → Option ρ → σ → Option ρ × σ
  | 0, last, s => (last, s)
  | n + 1, _, s =>
    let (r, s) := round s
    repeatRound round n (some r) s

end Readiness
