import Readiness.Error
import Readiness.Interests

/-! # Registration interest by interest

A facility that registers each interest by itself can fail half way.  `registerAll` registers
the interests one after the other; when one of them fails, those registered before it are
deleted again, and the error is returned.  A deletion that fails is reported and does not stop
the others.  A call that is given up ends everything at once. -/

namespace Readiness

variable {σ : Type}

/-- Delete each of some interests. -/
def undoAll (deregister : Interests → σ → Outcome SystemError Unit × σ)
    (report : Interests → SystemError → σ → σ) :
    List Interests → σ → Outcome SystemError Unit × σ
  | [], s => (.done (), s)
  | i :: rest, s =>
    match deregister i s with
    | (.done (), s) => undoAll deregister report rest s
    | (.failed cause, s) => undoAll deregister report rest (report i cause s)
    | (.halted cause, s) => (.halted cause, s)

/-- Register the interests `todo`, where those of `registered` have been registered before. -/
def registerFrom (register deregister : Interests → σ → Outcome SystemError Unit × σ)
    (report : Interests → SystemError → σ → σ) (registered : List Interests) :
    List Interests → σ → Outcome SystemError Unit × σ
  | [], s => (.done (), s)
  | i :: todo, s =>
    match register i s with
    | (.done (), s) => registerFrom register deregister report (registered ++ [i]) todo s
    | (.failed cause, s) =>
      match undoAll deregister report registered s with
      | (.halted other, s) => (.halted other, s)
      | (_, s) => (.failed cause, s)
    | (.halted cause, s) => (.halted cause, s)

/-- Register each interest, or none of them. -/
def registerAll (register deregister : Interests → σ → Outcome SystemError Unit × σ)
    (report : Interests → SystemError → σ → σ) (i : Interests) (s : σ) :
    Outcome SystemError Unit × σ :=
  registerFrom register deregister report [] i.split s

end Readiness
