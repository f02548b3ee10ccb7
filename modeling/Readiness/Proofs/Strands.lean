import Readiness.Facility

/-! # Calls that take turns

A call of a facility may look at shared state and make system calls several times, and other threads
run in between.  `Strand` is what is left of such a call:

* `returned r`: it is over, with result `r`;
* `turn next after`: it is to take a turn, which changes the state by `after`, and `next` is what is
  left of the call then, as it was decided in the state before the turn.

A strand that takes all its turns without others is finished by `Strand.alone`.  What it does among
others is said by recursion on it (`Strand.Does`): what it finds in its turns, what it makes of that,
and how it ends. -/

namespace Readiness

/-- What is left of a call that takes turns with other threads. -/
inductive Strand (σ ρ : Type) where
  | returned (result : ρ)
  | turn (next : σ → Strand σ ρ) (after : σ → σ)

namespace Strand

variable {σ ρ γ α : Type}

/-- Do something in one turn, and go on with `k`. -/
def act (f : σ → α × σ) (k : α → Strand σ ρ) : Strand σ ρ :=
  .turn (fun s => k (f s).1) fun s => (f s).2

/-- Only look at the state in a turn, and go on with `k`. -/
def look (f : σ → α) (k : α → Strand σ ρ) : Strand σ ρ := act (fun s => (f s, s)) k

/-- Go on with `k` once a strand has returned. -/
def andThen (k : ρ → Strand σ γ) : Strand σ ρ → Strand σ γ
  | returned r => k r
  | turn next after => .turn (fun s => andThen k (next s)) after

/-- Take all turns without others. -/
def alone : Strand σ ρ → σ → ρ × σ
  | returned r, s => (r, s)
  | turn next after, s => alone (next s) (after s)

theorem alone_act (f : σ → α × σ) (k : α → Strand σ ρ) (s : σ) :
    (act f k).alone s = (k (f s).1).alone (f s).2 := rfl

theorem alone_look (f : σ → α) (k : α → Strand σ ρ) (s : σ) :
    (look f k).alone s = (k (f s)).alone s := rfl

theorem alone_andThen (k : ρ → Strand σ γ) (p : Strand σ ρ) (s : σ) :
    (p.andThen k).alone s = (k (p.alone s).1).alone (p.alone s).2 := by
  induction p generalizing s with
  | returned r => rfl
  | turn next after ih => exact ih s (after s)

/-! ### Among others -/

/-- As long as others keep `Q`, every turn does to the state what `R` says, and the result is as `P`
says. -/
def Does (Q : σ → Prop) (R : σ → σ → Prop) (P : ρ → Prop) : Strand σ ρ → Prop
  | returned r => P r
  | turn next after => ∀ s, Q s → R s (after s) ∧ Does Q R P (next s)

variable {Q Q' : σ → Prop} {R R' : σ → σ → Prop} {P P' : ρ → Prop}

theorem Does.act {f : σ → α × σ} {k : α → Strand σ ρ} (hf : ∀ s, Q s → R s (f s).2)
    (hk : ∀ s, Q s → (k (f s).1).Does Q R P) : (act f k).Does Q R P :=
  fun s hs => ⟨hf s hs, hk s hs⟩

theorem Does.look {f : σ → α} {k : α → Strand σ ρ} (refl : ∀ s, Q s → R s s)
    (hk : ∀ s, Q s → (k (f s)).Does Q R P) : (look f k).Does Q R P := .act refl hk

theorem Does.andThen {P' : γ → Prop} {k : ρ → Strand σ γ} {p : Strand σ ρ} (hp : p.Does Q R P)
    (hk : ∀ r, P r → (k r).Does Q R P') : (p.andThen k).Does Q R P' := by
  induction p with
  | returned r => exact hk r hp
  | turn next after ih => exact fun s hs => ⟨(hp s hs).1, ih s (hp s hs).2⟩

theorem Does.mono {p : Strand σ ρ} (hQ : ∀ s, Q' s → Q s) (hR : ∀ s t, R s t → R' s t)
    (hP : ∀ r, P r → P' r) (h : p.Does Q R P) : p.Does Q' R' P' := by
  induction p with
  | returned r => exact hP r h
  | turn next after ih => exact fun s hs => ⟨hR _ _ (h s (hQ s hs)).1, ih s (h s (hQ s hs)).2⟩

/-- Every strand does what is always done. -/
theorem does_of_forall (hR : ∀ s t, R s t) (hP : ∀ r, P r) (p : Strand σ ρ) : p.Does Q R P := by
  induction p with
  | returned r => exact hP r
  | turn next after ih => exact fun s _ => ⟨hR _ _, ih s⟩

/-- Without others a strand does all that it does among others. -/
theorem Does.alone {p : Strand σ ρ} (h : p.Does Q R P) (hQ : ∀ s t, Q s → R s t → Q t) {s : σ}
    (hs : Q s) : P (p.alone s).1 ∧ Q (p.alone s).2 := by
  induction p generalizing s with
  | returned r => exact ⟨h, hs⟩
  | turn next after ih => exact ih s (h s hs).2 (hQ _ _ hs (h s hs).1)

/-! ### System calls -/

section

variable {β : Type}

/-- Make a system call, in which other threads run if it waits inside the system.  What is seen of
the host is seen in the turn in which the call answers. -/
def system (call : Kernel → Progress Kernel ρ × Kernel) (see : Host β → α)
    (k : ρ → α → Strand (Host β) γ) : Strand (Host β) γ :=
  .act (fun h => (((call h.kernel).1, see h), { h with kernel := (call h.kernel).2 })) fun
    | (.returned r, a) => k r a
    | (.inside resume, _) => .act (fun h => (((resume h.kernel).1, see h), (h.system resume).2))
      fun answer => k answer.1 answer.2

variable {call : Kernel → Progress Kernel ρ × Kernel} {see : Host β → α}
  {k : ρ → α → Strand (Host β) γ} {h : Host β} {kernel : Kernel}

theorem alone_system {resume : Kernel → ρ × Kernel}
    (hcall : call h.kernel = (.inside resume, kernel)) :
    (system call see k).alone h =
      (k (resume kernel).1 (see { h with kernel })).alone
        { h with kernel := (resume kernel).2 } := by
  rw [system, alone_act]
  simp only [hcall]
  rfl

theorem alone_system_returned {r : ρ} (hcall : call h.kernel = (.returned r, kernel)) :
    (system call see k).alone h = (k r (see h)).alone { h with kernel } := by
  rw [system, alone_act]
  simp only [hcall]

/-- A system call and what follows it. -/
theorem Does.system {Q : Host β → Prop} {R : Host β → Host β → Prop} {P : γ → Prop}
    (hcall : ∀ h : Host β, Q h → R h { h with kernel := (call h.kernel).2 })
    (hreturned : ∀ (h : Host β) (r : ρ), Q h → (call h.kernel).1 = .returned r →
      (k r (see h)).Does Q R P)
    (hinside : ∀ (h : Host β) resume, Q h → (call h.kernel).1 = .inside resume → ∀ g, Q g →
      R g { g with kernel := (resume g.kernel).2 } ∧
        (k (resume g.kernel).1 (see g)).Does Q R P) : (system call see k).Does Q R P := by
  intro h hq
  refine ⟨hcall h hq, ?_⟩
  dsimp only
  cases hp : (call h.kernel).1 with
  | returned r => exact hreturned h r hq hp
  | inside resume => exact fun g hg => hinside h resume hq hp g hg

end

end Strand

end Readiness
