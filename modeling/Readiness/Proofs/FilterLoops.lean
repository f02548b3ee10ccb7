import Readiness.Proofs.FilterRegistry

/-! # Loops over filters

The loops of `kqueue` register one filter after the other, and roll back.  What composes along calls
made one after the other (`Composes`), and holds of every single change, holds of the loops. -/

namespace Readiness

variable {σ : Type} {P : σ → Outcome SystemError Unit × σ → Prop}

/-- A property of calls, by the state before and by what they return, composes: it holds of a call
that does nothing and is not given up, and of two calls one after the other if it holds of both. -/
structure Composes (P : σ → Outcome SystemError Unit × σ → Prop) : Prop where
  nothing : ∀ outcome s, outcome.isHalted = false → P s (outcome, s)
  andThen : ∀ {s t r outcome}, P s (outcome, t) → P t r → P s r

section

variable {register deregister : Interests → σ → Outcome SystemError Unit × σ}
  {report : Interests → SystemError → σ → σ}

/-- A rollback. -/
theorem Composes.undoAll (hP : Composes P) (hdelete : ∀ i s, P s (deregister i s))
    (hreport : ∀ i cause s, P s (.done (), report i cause s)) (registered : List Interests)
    (s : σ) : P s (undoAll deregister report registered s) := by
  induction registered generalizing s with
  | nil => exact hP.nothing _ s rfl
  | cons i rest ih =>
      have hfirst := hdelete i s
      rw [Readiness.undoAll]
      cases hd : deregister i s with
      | mk outcome t =>
          rw [hd] at hfirst
          cases outcome with
          | done value => exact hP.andThen hfirst (ih t)
          | failed cause => exact hP.andThen hfirst (hP.andThen (hreport i cause t) (ih _))
          | halted cause => exact hfirst

/-- Registering the rest. -/
theorem Composes.registerFrom (hP : Composes P) (hregister : ∀ i s, P s (register i s))
    (hdelete : ∀ i s, P s (deregister i s))
    (hreport : ∀ i cause s, P s (.done (), report i cause s)) (registered todo : List Interests)
    (s : σ) : P s (registerFrom register deregister report registered todo s) := by
  induction todo generalizing registered s with
  | nil => exact hP.nothing _ s rfl
  | cons i todo ih =>
      have hfirst := hregister i s
      rw [Readiness.registerFrom]
      cases hi : register i s with
      | mk outcome t =>
          rw [hi] at hfirst
          cases outcome with
          | done value => exact hP.andThen hfirst (ih _ t)
          | halted cause => exact hfirst
          | failed cause =>
              have hundo := hP.andThen hfirst (hP.undoAll hdelete hreport registered t)
              dsimp only
              cases hu : Readiness.undoAll deregister report registered t with
              | mk undone u =>
                  rw [hu] at hundo
                  cases undone with
                  | halted other => exact hundo
                  | done _ | failed _ => exact hP.andThen hundo (hP.nothing _ u rfl)

end

namespace Kqueue

variable {P : Host Kqueue → Outcome SystemError Unit × Host Kqueue → Prop} {fd : Int32}

/-- Watching changes filters of one descriptor, and may write to the log. -/
theorem watch_composes (hP : Composes P) (hchange : ∀ c h, c.fd = fd → P h (change c h))
    (hnote : ∀ entry h, P h (.done (), h.note entry)) (i : Interests) (t : Tag)
    (h : Host Kqueue) : P h (watch fd i t h) :=
  hP.registerFrom (fun _ h => hchange _ h rfl) (fun _ h => hchange _ h rfl) (fun _ _ => hnote _)
    [] i.split h

theorem facility_change (c : KqueueChange) (h : Host Kqueue) :
    (change c h).2.facility = h.facility := by
  have hsystem : (h.system (·.keventChange h.facility.handle.fd c)).2.facility = h.facility := rfl
  unfold change
  cases hr : h.system (·.keventChange h.facility.handle.fd c) with
  | mk outcome g =>
      rw [hr] at hsystem
      cases outcome with
      | halted cause => exact hsystem
      | failed cause => dsimp only; split <;> exact hsystem
      | done receipt => dsimp only; split <;> exact hsystem

end Kqueue

end Readiness
