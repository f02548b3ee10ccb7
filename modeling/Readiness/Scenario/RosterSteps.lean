import Readiness.Roster.Basic

/-! # Scenarios of the rings

Steps on one set of rings.  After every step the whole state is shown: the records of each ring
from head to tail, whether the backward links agree with the forward ones, the generation of
every record, and the counters. -/

namespace Readiness

/-- A step of a scenario. -/
inductive RosterStep where
  | allocate (d : Descriptor) (i : Interests) (id : EventId)
  | activate (t : Tag)
  | release (t : Tag)
  | find (d : Descriptor)
  | record (d : Descriptor)
  | retire (d : Descriptor)
  | mark
  | reclaim (marker : Nat)
  | resolve (t : Tag) (readiness : Option Conditions)
deriving DecidableEq, Repr

/-- What a step answers. -/
inductive RosterReply where
  | silent
  | tagged (t : Option Tag)
  | flag (b : Bool)
  | index (i : Option UInt32)
  | record (r : Option Record)
  | marker (n : Nat)
  | resolved (r : Option Record)
deriving DecidableEq, Repr

/-- The rings and the tags that were allocated and are in no ring. -/
structure RosterTrial where
  roster : Roster := {}
  pending : List Tag := []
deriving DecidableEq, Repr

namespace RosterStep

/-- Take a step. -/
def run (step : RosterStep) (s : RosterTrial) : RosterReply × RosterTrial :=
  match step with
  | allocate d i id =>
    match s.roster.allocate d i id with
    | none => (.tagged none, s)
    | some (t, roster) => (.tagged (some t), ⟨roster, s.pending ++ [t]⟩)
  | activate t =>
    if s.pending.contains t then
      (.flag true, ⟨s.roster.activate t, s.pending.erase t⟩)
    else (.flag false, s)
  | release t =>
    if s.pending.contains t then
      (.flag true, ⟨s.roster.release t, s.pending.erase t⟩)
    else (.flag false, s)
  | find d => (.index (s.roster.find? d), s)
  | record d => (.record ((s.roster.find? d).bind s.roster.record?), s)
  | retire d =>
    match s.roster.find? d with
    | none => (.index none, s)
    | some i => (.index (some i), { s with roster := s.roster.retire i })
  | mark => (.marker s.roster.retired, s)
  | reclaim marker => (.silent, { s with roster := s.roster.reclaim marker })
  | resolve t readiness =>
    let roster := match readiness with
      | none => s.roster
      | some r => s.roster.setReadiness t r
    (.resolved (roster.resolve? t), { s with roster })

end RosterStep

/-- The whole state of some rings. -/
structure RosterView where
  active : List UInt32
  dead : List UInt32
  free : List UInt32
  consistent : Bool
  generations : List UInt32
  retired : Nat
  reclaimed : Nat
  activeLen : Nat
  stats : RosterSizes
deriving DecidableEq, Repr

namespace RosterView

/-- A ring whose links agree in both directions, and with its length. -/
def agrees (ring : Ring) (records : Arena) : Bool :=
  let forward := ring.forward records
  ring.backward records == forward.reverse && forward.length == ring.len

/-- The state to show. -/
def ofRoster (roster : Roster) : RosterView where
  active := roster.active.forward roster.records
  dead := roster.dead.forward roster.records
  free := roster.free.forward roster.records
  consistent := agrees roster.active roster.records && agrees roster.dead roster.records &&
    agrees roster.free roster.records
  generations := roster.records.toList.map (·.generation)
  retired := roster.retired
  reclaimed := roster.reclaimed
  activeLen := roster.active.len
  stats := roster.stats

end RosterView

namespace RosterTrial

/-- Take steps one after the other, and show the reply and the state after each. -/
def play : List RosterStep → RosterTrial → List (RosterReply × RosterView)
  | [], _ => []
  | step :: rest, s =>
    let (reply, s) := step.run s
    (reply, .ofRoster s.roster) :: play rest s

end RosterTrial

end Readiness
