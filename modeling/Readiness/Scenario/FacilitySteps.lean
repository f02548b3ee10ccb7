import Readiness.Scenario.Observation
import Readiness.Scenario.Stimulus

/-! # Scenarios of a facility

A scenario opens a facility, makes calls on it directly, with one buffer for all its waits, and
disposes of it.  The steps that run inside a wait have a buffer of their own. -/

namespace Readiness

/-- A step of a scenario, with stimuli of type `γ`. -/
inductive FacilityStep (γ : Type) where
  | watch (fd : Int32) (i : Interests) (t : Tag)
  | unwatch (fd : Int32) (i : Interests)
  | wait (timeout : Option Duration) (during : Option (List (FacilityStep γ)))
  | get (i : Nat)
  | close
  | rounds (n : Nat) (steps : List (FacilityStep γ))
  | stimulus (x : γ)
  /-- A step of which only could be read whether others should run inside it; nothing is
  done. -/
  | malformed (hasOthers : Bool)

/-- What a step shows, where steps inside it or repeated by it show values of type `ο`. -/
inductive FacilityReply (ο : Type) where
  | malformed (hasOthers : Bool)
  | response (r : Response)
  | ended (outcome : Outcome SystemError Unit)
  | waited (outcome : Outcome SystemError Unit) (buffer : Option NativeBuffer)
      (during : Option (Option (List ο)))
  | entry (e : Option NativeEvent)
  | rounds (last : List ο)

/-- What is seen of a step. -/
inductive FacilityObservation where
  | mk (reply : FacilityReply FacilityObservation) (trace : Trace)

/-- A facility and the buffer of its waits. -/
structure Bench (β : Type) where
  host : Host β
  buffer : NativeBuffer
deriving DecidableEq, Repr

namespace FacilityStep

variable {β γ ρ : Type}

/-- Make a call on the host that lets nobody in. -/
def direct (call : Host β → Progress (Host β) ρ × Host β) (s : Bench β) : ρ × Bench β :=
  let (r, host) := Progress.alone (call s.host)
  (r, { s with host })

/-- Make a call that lets others in. -/
def within (call : Host β → Progress (Host β) ρ × Host β) (s : Bench β) :
    Progress (Bench β) ρ × Bench β :=
  Progress.within (·.host) (fun host s => { s with host }) call (fun r s => (r, s)) s

/-- Run others inside a wait, with an empty buffer of their own. -/
def aside {α : Type} (others : Bench β → α × Bench β) (s : Bench β) : α × Bench β :=
  let (a, inner) :=
    Trace.aside (·.host) (fun host s => { s with host }) others
      { s with buffer := { capacity := s.buffer.capacity } }
  (a, { s with host := inner.host })

/-- What is seen of a buffer after a wait: nothing if the wait was given up. -/
def visible (outcome : Outcome SystemError Unit) (b : NativeBuffer) : Option NativeBuffer :=
  match outcome with
  | .halted _ => none
  | _ => some b

/-- What is seen of a step that ended with a reply. -/
def observe (reply : FacilityReply FacilityObservation) (s : Bench β) :
    FacilityObservation × Bench β :=
  let (trace, host) := Trace.take s.host
  (.mk reply trace, { s with host })

variable [Facility β] [Stimulated β γ]

mutual

/-- Take a step. -/
def run : FacilityStep γ → Bench β → FacilityObservation × Bench β
  | watch fd i t, s =>
    let (outcome, s) := direct (Facility.watch fd i t) s
    observe (.ended outcome) s
  | unwatch fd i, s =>
    let (outcome, s) := direct (Facility.unwatch fd i) s
    observe (.ended outcome) s
  | wait timeout during, s =>
    let others := match during with
      | none => none
      | some steps => some (aside (runAll steps))
    let (((outcome, buffer), inner), s) :=
      finishWith others (within (Facility.wait s.buffer timeout) s)
    observe (.waited outcome (visible outcome buffer) inner) { s with buffer }
  | get i, s => observe (.entry (s.buffer.get? i)) s
  | close, s =>
    let (outcome, host) := Facility.close s.host
    observe (.ended outcome) { s with host }
  | rounds n steps, s =>
    let (last, s) := repeatRound (runAll steps) n none s
    observe (.rounds (last.getD [])) s
  | stimulus x, s =>
    let (response, host) := Stimulated.stimulate x s.host
    observe (.response response) { s with host }
  | malformed hasOthers, s => observe (.malformed hasOthers) s

/-- Take steps one after the other. -/
def runAll : List (FacilityStep γ) → Bench β → List FacilityObservation × Bench β
  | [], s => ([], s)
  | step :: rest, s =>
    let (first, s) := run step s
    let (others, s) := runAll rest s
    (first :: others, s)

end

end FacilityStep

/-- What is seen of a whole scenario: how opening the facility ended, and if there was one, the
steps and how disposing of it ended. -/
structure FacilityRun where
  create : Observed (Outcome SystemError Unit)
  rest : Option (List FacilityObservation × Observed (Outcome SystemError Unit))

namespace FacilityRun

variable {β γ : Type}

/-- Open a facility, take steps, and dispose of it. -/
def play [Facility β] [Stimulated β γ] (make : Kernel → Outcome SystemError β × Kernel)
    (kernel : Kernel) (capacity : Nat) (steps : List (FacilityStep γ)) : FacilityRun :=
  match make kernel with
  | (.failed cause, kernel) => ⟨⟨.failed cause, ⟨kernel.calls, #[]⟩⟩, none⟩
  | (.halted cause, kernel) => ⟨⟨.halted cause, ⟨kernel.calls, #[]⟩⟩, none⟩
  | (.done facility, kernel) =>
    let (trace, host) := Trace.take { facility, kernel }
    let (seen, s) := FacilityStep.runAll steps ⟨host, { capacity }⟩
    let (disposed, host) := Facility.dispose s.host
    ⟨⟨.done (), trace⟩, some (seen, ⟨disposed, (Trace.take host).1⟩)⟩

end FacilityRun

end Readiness
