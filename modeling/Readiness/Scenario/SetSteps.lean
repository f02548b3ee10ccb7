import Readiness.Scenario.Observation
import Readiness.Scenario.Stimulus
import Readiness.WatchSet

/-! # Scenarios of a watch set

A scenario creates a set, takes steps, and disposes of the set.

* **Steps** (`SetStep`) are calls of the set, stimuli, and repetitions of other steps.
* **Others.**  The steps in `during` run inside the call of the facility, as another thread
  would, if the call lets others run at all.
* **Blocking.**  A step that would wait for a lock held by the call around it is not started,
  and its outcome is `Halt.deadlock`.  In a thread safe set whose rings are locked that is
  every call of the set; with only the buffer locked it is `poll` (`StepKind.blocks`).
* **Malformed steps** block like the call they name, and do nothing otherwise. -/

namespace Readiness

/-- A question to a set. -/
inductive Query where
  | len
  | isEmpty
  | capacity
  | isThreadSafe
  | stats
  | text
deriving DecidableEq, Repr

/-- The answer of a call of a set. -/
inductive Answer where
  | nothing
  | flag (b : Bool)
  | count (n : Nat)
  | text (s : String)
deriving DecidableEq, Repr

/-- What a step is, as far as locks are concerned. -/
inductive StepKind where
  /-- It makes no call of the set. -/
  | stimulus
  /-- It makes calls of the set. -/
  | call
  /-- It polls the set. -/
  | poll
deriving DecidableEq, Repr

/-- A step of this kind would wait for a lock that is not given back before the step ends. -/
def StepKind.blocks {β : Type} (kind : StepKind) (s : WatchSet β) : Bool :=
  match kind with
  | stimulus => false
  | call => s.isThreadSafe && s.roster.held
  | poll => s.isThreadSafe && (s.roster.held || s.buffer.held)

/-- A step of a scenario, with stimuli of type `γ`. -/
inductive SetStep (γ : Type) where
  | add (d : Descriptor) (i : Interests) (id : EventId) (during : Option (List (SetStep γ)))
  | remove (d : Descriptor) (during : Option (List (SetStep γ)))
  | poll (timeout : Option Duration) (during : Option (List (SetStep γ)))
  | destroy
  | ask (q : Query)
  | rounds (n : Nat) (steps : List (SetStep γ))
  | stimulus (x : γ)
  /-- A step of which only the kind could be read, and whether others should run inside it;
  nothing is done. -/
  | malformed (kind : StepKind) (hasOthers : Bool)

/-- What a step shows, where steps inside it or repeated by it show values of type `ο`. -/
inductive SetReply (ο : Type) where
  | malformed (hasOthers : Bool)
  | response (r : Response)
  | ended (outcome : Outcome Error Answer) (events : Option (List Event))
      (during : Option (Option (List ο)))
  | rounds (last : List ο)

/-- What is seen of a step: its reply, the sizes of the rings unless they are locked, and the
calls and log lines. -/
inductive SetObservation where
  | mk (reply : SetReply SetObservation) (stats : Option RosterSizes) (trace : Trace)

namespace SetStep

variable {β γ α : Type}

/-- The kind of a step. -/
def kind : SetStep γ → StepKind
  | stimulus _ => .stimulus
  | poll .. => .poll
  | malformed kind _ => kind
  | _ => .call

/-- An answer under a lock. -/
def answerOf (f : α → Answer) : Except Halt α → Outcome Error Answer
  | .ok a => .done (f a)
  | .error cause => .halted cause

/-- The answer to a question. -/
def answer [Facility β] (s : WatchSet β) : Query → Outcome Error Answer
  | .len => answerOf .count s.len
  | .isEmpty => answerOf .flag s.isEmpty
  | .capacity => .done (.count s.capacity)
  | .isThreadSafe => .done (.flag s.isThreadSafe)
  | .stats => answerOf (fun stats => .text stats.text) s.stats
  | .text => .done (.text s.text)

/-- Run others inside a call of a set. -/
def aside (others : WatchSet β → α × WatchSet β) : WatchSet β → α × WatchSet β :=
  Trace.aside (·.host) (fun host s => { s with host }) others

/-- What the caller's buffer holds before every poll. -/
def leftOver : List Event := [⟨.socket 0, ⟨0⟩, .readable⟩]

/-- What is seen of the caller's buffer: nothing if the call was given up. -/
def visible (outcome : Outcome Error Nat) (events : List Event) : Option (List Event) :=
  match outcome with
  | .halted _ => none
  | _ => some events

/-- What is seen of a step that ended with a reply. -/
def observe (reply : SetReply SetObservation) (s : WatchSet β) : SetObservation × WatchSet β :=
  let (trace, host) := Trace.take s.host
  (.mk reply s.stats.toOption trace, { s with host })

variable [Facility β] [Stimulated β γ]

mutual

/-- Take a step. -/
def run : SetStep γ → WatchSet β → SetObservation × WatchSet β
  | step, s =>
    if step.kind.blocks s then observe (.ended (.halted .deadlock) none none) s
    else
      match step with
      | add d i id during =>
        let others := match during with
          | none => none
          | some steps => some (aside (runAll steps))
        let ((outcome, inner), s) := finishWith others (s.add d i id)
        observe (.ended (outcome.map fun () => .nothing) none inner) s
      | remove d during =>
        let others := match during with
          | none => none
          | some steps => some (aside (runAll steps))
        let ((outcome, inner), s) := finishWith others (s.remove d)
        observe (.ended (outcome.map .flag) none inner) s
      | poll timeout during =>
        let others := match during with
          | none => none
          | some steps => some (aside (runAll steps))
        let (((outcome, events), inner), s) := finishWith others (s.poll leftOver timeout)
        observe (.ended (outcome.map .count) (visible outcome events) inner) s
      | destroy =>
        let (outcome, s) := s.destroy
        observe (.ended (outcome.map fun () => .nothing) none none) s
      | ask q => observe (.ended (answer s q) none none) s
      | rounds n steps =>
        let (last, s) := repeatRound (runAll steps) n none s
        observe (.rounds (last.getD [])) s
      | stimulus x =>
        let (response, host) := Stimulated.stimulate x s.host
        observe (.response response) { s with host }
      | malformed _ hasOthers => observe (.malformed hasOthers) s

/-- Take steps one after the other. -/
def runAll : List (SetStep γ) → WatchSet β → List SetObservation × WatchSet β
  | [], s => ([], s)
  | step :: rest, s =>
    let (first, s) := run step s
    let (others, s) := runAll rest s
    (first :: others, s)

end

end SetStep

/-- What is seen of a whole scenario: how creating the set ended, and if there was a set, the
steps and how disposing of it ended. -/
structure SetRun where
  create : Observed (Outcome Error Unit)
  rest : Option (List SetObservation × Observed (Outcome Error Unit))

namespace SetRun

variable {β γ : Type}

/-- Create a set, take steps, and dispose of the set. -/
def play [Facility β] [Stimulated β γ] (make : Kernel → Outcome SystemError β × Kernel)
    (kernel : Kernel) (capacity : Nat) (threadSafe : Bool) (steps : List (SetStep γ)) : SetRun :=
  match make kernel with
  | (.failed cause, kernel) => ⟨⟨.failed (.unavailable cause), ⟨kernel.calls, #[]⟩⟩, none⟩
  | (.halted cause, kernel) => ⟨⟨.halted cause, ⟨kernel.calls, #[]⟩⟩, none⟩
  | (.done facility, kernel) =>
    match WatchSet.create { facility, kernel } capacity threadSafe with
    | (.failed e, host) => ⟨⟨.failed e, (Trace.take host).1⟩, none⟩
    | (.halted cause, host) => ⟨⟨.halted cause, (Trace.take host).1⟩, none⟩
    | (.done s, host) =>
      let (trace, host) := Trace.take host
      let (seen, s) := SetStep.runAll steps { s with host }
      let (disposed, host) := s.dispose
      ⟨⟨.done (), trace⟩, some (seen, ⟨disposed, (Trace.take host).1⟩)⟩

end SetRun

end Readiness
