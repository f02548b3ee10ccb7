/-! # Verdicts

A verdict decides what becomes of a call.  Verdicts are queued for each kind of call by its name
(`CallName`); a call takes the first one that is queued for it, and passes if there is none. -/

namespace Readiness

/-- The calls for which verdicts are queued. -/
inductive CallName where
  | watch
  | unwatch
  | wait
  | close
  | epollCreate
  | epollCtl
  | epollWait
  | fcntl
  | poll
  | kqueue
  | kevent
  | receipt
  | keventWait
deriving DecidableEq, Repr

/-- What is to become of a call.  A call that fails has an error number, which is not zero. -/
inductive Verdict where
  | pass
  | fail (code : Int64) (nonzero : code ≠ 0)
  | giveUp
deriving DecidableEq, Repr

/-- A verdict as a number: zero passes. -/
def Verdict.ofCode (code : Int64) : Verdict :=
  if h : code = 0 then .pass else .fail code h

/-- The first verdict for a call, and the queue without it. -/
def Verdict.next (name : CallName) :
    List (CallName × Verdict) → Verdict × List (CallName × Verdict)
  | [] => (.pass, [])
  | entry :: rest =>
    if entry.1 = name then (entry.2, rest)
    else
      let (verdict, rest) := next name rest
      (verdict, entry :: rest)

end Readiness
