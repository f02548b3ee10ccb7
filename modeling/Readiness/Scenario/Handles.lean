import Readiness.Facility
import Readiness.Facility.Registration
import Readiness.Handle
import Readiness.Scenario.Observation

/-! # Scenarios of handles and of stepwise registration

* `RegistrationTrial.play` registers interests one by one, where some of the registrations and
  of the deletions that undo them fail, and shows the order in which they were tried.
* `HandleTrial.play` closes one handle several times. -/

namespace Readiness

/-- A registration or the deletion of one. -/
inductive Attempt where
  | register (i : Interests)
  | deregister (i : Interests)
deriving DecidableEq, Repr

/-- How an attempt is shown. -/
def Attempt.text : Attempt → String
  | register i => s!"register {i.bits}"
  | deregister i => s!"deregister {i.bits}"

/-- What has been tried, and the log. -/
structure RegistrationTrial where
  order : List Attempt := []
  log : Array LogEntry := #[]
deriving DecidableEq, Repr

namespace RegistrationTrial

/-- Try something that fails with the error, if there is one. -/
def attempt (a : Attempt) (failure : Option SystemError) (s : RegistrationTrial) :
    Outcome SystemError Unit × RegistrationTrial :=
  let s := { s with order := s.order ++ [a] }
  match failure with
  | none => (.done (), s)
  | some cause => (.failed cause, s)

/-- Register interests, where the given registrations and deletions fail. -/
def play (i : Interests) (registering deregistering : Interests → Option SystemError) :
    Outcome SystemError Unit × RegistrationTrial :=
  registerAll (fun i => attempt (.register i) (registering i))
    (fun i => attempt (.deregister i) (deregistering i))
    (fun i cause s => { s with log := s.log.push (.rollbackFailed i cause) }) i {}

end RegistrationTrial

namespace HandleTrial

/-- Close a handle `times` times, and show each outcome with the handle that is left. -/
def play : Nat → Handle → Kernel → List (Observed (Outcome SystemError Unit × Handle))
  | 0, _, _ => []
  | times + 1, handle, k =>
    let (outcome, handle, k) := handle.close k
    ⟨(outcome, handle), ⟨k.calls, #[]⟩⟩ :: play times handle { k with calls := #[] }

end HandleTrial

end Readiness
