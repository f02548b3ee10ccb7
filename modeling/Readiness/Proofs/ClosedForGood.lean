import Readiness.Proofs.ClosedTurns
import Readiness.Proofs.PollWindow

/-! # Closed for good

Destroying a set closes its facility, while the calls of other threads go on.

* **Before** (`Scene.Orderly`).  Without faults, the facility is closed from the first turn of closing
  on, and no call in progress opens it again.
* **After** (`Scene.Closed`).  Destroying has returned, so nobody closes the facility any more.  What
  is said of the calls of the facility then is said of all runs that follow
  (`Scene.Closed.run`), provided that the calls in progress obey it as well. -/

namespace Readiness

open Registry Closable

variable {β : Type}

/-- An act is as is said of the calls of the facility, and does not belong to a closing. -/
def Act.Accords (R : Option Change → Host β → Host β → Prop)
    (P : Change → Outcome SystemError Unit → Prop)
    (P' : Option (Outcome SystemError Unit) × NativeBuffer → Prop) : Act β → Prop
  | turned _ c before after => R c before after
  | closing .. => False
  | part .destroyed => False
  | part (.ended c outcome) => P c outcome
  | part (.polled _ _ result _) => P' (some result.1, result.2)
  | _ => True

namespace Scene

variable {Q : Host β → Prop} {R : Option Change → Host β → Host β → Prop}
  {P : Change → Outcome SystemError Unit → Prop}
  {P' : Option (Outcome SystemError Unit) × NativeBuffer → Prop}

/-- The set was destroyed and destroying has returned, and the calls of the facility in progress do as
is said of them. -/
structure Closed (Q : Host β → Prop) (R : Option Change → Host β → Host β → Prop)
    (P : Change → Outcome SystemError Unit → Prop)
    (P' : Option (Outcome SystemError Unit) × NativeBuffer → Prop) (v : Scene β) : Prop where
  destroyed : v.set.destroyed = true
  closing : v.closing = none
  host : Q v.set.host
  ruled : v.Ruled Q R P P' 0

variable [Turns β] {W : Host β → Host β → Prop} {v v' : Scene β} {a : Act β} {A : List (Act β)}

/-- The calls of the facility do as is said of them on a host with a property, which they do not
undo, and others do not undo it either. -/
structure Lasting (W : Host β → Host β → Prop) (Q : Host β → Prop)
    (R : Option Change → Host β → Host β → Prop) (P : Change → Outcome SystemError Unit → Prop)
    (P' : Option (Outcome SystemError Unit) × NativeBuffer → Prop) : Prop
    extends Rules Q R P P' where
  native : ∀ h h' : Host β, h'.facility = h.facility → h'.kernel = h.kernel → Q h → Q h'
  turn : ∀ c h h', Q h → R c h h' → Q h'
  world : ∀ h h', W h h' → Q h → Q h'

/-- **One step** after destroying has returned. -/
theorem Closed.step (hl : Lasting W Q R P P') (h : v.Closed Q R P P') (hs : Step W v a v') :
    v'.Closed Q R P P' ∧ a.Accords R P P' := by
  have hruled := h.ruled.step hl.toRules h.host hs
  obtain ⟨hclosing, hdestroyed, hno, hnot⟩ :
      v'.closing = v.closing ∧ v'.set.destroyed = v.set.destroyed ∧
        (∀ before after, a ≠ .closing before after) ∧ a ≠ .part .destroyed := by
    rcases hs.destroying with hsame | ⟨hd, -⟩ | ⟨next, after, hc, -⟩ | ⟨outcome, hc, -⟩
    · exact hsame
    · cases h.destroyed.symm.trans hd
    · cases h.closing.symm.trans hc
    · cases h.closing.symm.trans hc
  have haccords : a.Accords R P P' := by
    cases a with
    | called serial => trivial
    | turned serial c before after => exact h.ruled.turned h.host hs (Nat.zero_le _)
    | closing before after => exact hno before after rfl
    | part a =>
        cases a with
        | destroyed => exact hnot rfl
        | ended c outcome => exact h.ruled.ended hs
        | polled serial marker result answer => exact h.ruled.polled hs
        | _ => trivial
  refine ⟨⟨hdestroyed.trans h.destroyed, hclosing.trans h.closing, ?_, hruled⟩, haccords⟩
  rcases hs.host with hturn | ⟨-, hnative | hw⟩
  · cases a with
    | turned serial c before after =>
        obtain ⟨rfl, rfl⟩ := Prod.mk.inj (Option.some.inj hturn)
        exact hl.turn c _ _ h.host haccords
    | closing before after => exact haccords.elim
    | part | called => cases hturn
  · obtain ⟨hfacility, hkernel⟩ := WatchSet.host_of_native hnative
    exact hl.native _ _ hfacility hkernel h.host
  · exact hl.world _ _ hw h.host

/-- **A run** after destroying has returned. -/
theorem Closed.run (hl : Lasting W Q R P P') (h : v.Closed Q R P P') (hr : Run W v A v') :
    v'.Closed Q R P P' ∧ ∀ a ∈ A, a.Accords R P P' := by
  induction hr with
  | refl v => exact ⟨h, nofun⟩
  | step hs _ ih =>
      obtain ⟨h₁, ha⟩ := h.step hl hs
      obtain ⟨h', hrest⟩ := ih h₁
      exact ⟨h', List.forall_mem_cons.mpr ⟨ha, hrest⟩⟩

end Scene

variable [Registry β]

/-- Others leave the facility, its registrations, the open handles and the verdicts alone. -/
def Undisturbing (W : Host β → Host β → Prop) : Prop :=
  ∀ h h', W h h' → h'.facility = h.facility ∧ h'.entries = h.entries ∧
    h'.kernel.verdicts = h.kernel.verdicts ∧ h'.kernel.live = h.kernel.live

theorem Undisturbing.faultless {W : Host β → Host β → Prop} (hW : Undisturbing W) :
    ∀ h h', W h h' → h.kernel.Faultless → h'.kernel.Faultless := fun h h' hw hk =>
  hk.congr (hW h h' hw).2.2.1 (hW h h' hw).2.2.2

theorem Host.entries_congr {h h' : Host β} (hfacility : h'.facility = h.facility)
    (hkernel : h'.kernel = h.kernel) : h'.entries = h.entries := by
  rw [Host.entries, Host.entries, hfacility, hkernel]

variable [Closable β] {E : List (Entry β)}

namespace Host

variable {h h' : Host β}

/-- What a call may do in a turn: it neither opens nor closes the facility, and a wait leaves the
registrations alone. -/
def Allows (c : Option Change) (h h' : Host β) : Prop :=
  h.Abides h' ∧ (c = none → h'.entries = h.entries)

/-- The facility was closed, and these registrations are left. -/
structure Left (E : List (Entry β)) (h : Host β) : Prop extends Shut h where
  entries : h.entries = E

theorem Unmoved.abides (hu : h.Unmoved h') : h.Abides h' :=
  ⟨congrArg isClosed hu.facility, fun _ => hu.faultless⟩

end Host

theorem Undisturbing.abides {W : Host β → Host β → Prop} (hW : Undisturbing W) {h h' : Host β}
    (hw : W h h') : h.Abides h' :=
  ⟨congrArg isClosed (hW h h' hw).1, hW.faultless h h' hw⟩

namespace Scene

/-- The set is as a run without faults leaves it.  If it was destroyed, its facility is closed, unless
the closing has yet to take its first turn. -/
structure Orderly [Turns β] (v : Scene β) : Prop where
  faultless : v.set.host.kernel.Faultless
  ruled : v.Ruled (·.kernel.Faultless) Host.Allows (fun _ outcome => outcome.isHalted = false)
    (fun _ => True) 0
  closing : ∀ p, v.closing = some p → v.set.destroyed = true ∧
    (p = Turns.close ∨
      v.set.host.Shut ∧ p.Does (·.kernel.Faultless) Host.Abides fun _ => True)
  shut : v.set.destroyed = true → v.closing = none → v.set.host.Shut

variable [Turns β] {W : Host β → Host β → Prop} {v v' : Scene β} {a : Act β} {A : List (Act β)}

theorem orderly_start [Facility β] {host : Host β} (hk : host.kernel.Faultless) (capacity : Nat)
    (threadSafe : Bool) : (start host capacity threadSafe).Orderly :=
  ⟨hk, ruled_ofSet _, nofun, nofun⟩

/-- Apart from closing, a step leaves the facility open if it was, and closed if it was. -/
theorem Orderly.abides (hW : Undisturbing W) (h : v.Orderly) (hs : Step W v a v')
    (hno : ∀ before after, a ≠ .closing before after) : v.set.host.Abides v'.set.host := by
  rcases hs.host with hturn | ⟨-, hnative | hw⟩
  · cases a with
    | turned serial c before after =>
        obtain ⟨rfl, rfl⟩ := Prod.mk.inj (Option.some.inj hturn)
        exact (h.ruled.turned h.faultless hs (Nat.zero_le _)).1
    | closing before after => exact absurd rfl (hno before after)
    | part | called => cases hturn
  · obtain ⟨hfacility, hkernel⟩ := WatchSet.host_of_native hnative
    exact ⟨congrArg isClosed hfacility, fun hk => hkernel ▸ hk⟩
  · exact hW.abides hw

/-- The closing that returns was begun by destroying the set. -/
theorem Orderly.destroyed (h : v.Orderly) (hs : Step W v (.part .destroyed) v') :
    v'.set.destroyed = true ∧ v'.closing = none := by
  cases hs with
  | @endDestroy outcome hc => cases outcome <;> exact ⟨(h.closing _ hc).1, rfl⟩

/-- Once destroying has returned, all calls go on as before. -/
theorem Orderly.goes_on (h : v.Orderly) (hd : v.set.destroyed = true) (hc : v.closing = none) :
    v.Closed (·.kernel.Faultless) Host.Allows (fun _ outcome => outcome.isHalted = false)
      fun _ => True := ⟨hd, hc, h.faultless, h.ruled⟩

/-- No call of the facility for a change is in progress. -/
def Idle (v : Scene β) : Prop := ∀ c task, v.change ≠ some (c, some task)

/-- Without a change in the facility, all changes are refused from now on. -/
theorem Orderly.refused (h : v.Orderly) (hd : v.set.destroyed = true) (hc : v.closing = none)
    (hidle : v.Idle) :
    v.Closed (Host.Left v.set.host.entries) (fun _ h h' => h.Abides h' ∧ h'.entries = h.entries)
      (fun _ outcome => outcome = .failed .badDescriptor) fun _ => True where
  destroyed := hd
  closing := hc
  host := ⟨h.shut hd hc, rfl⟩
  ruled := {
    change := fun c serial p hchange => absurd hchange (hidle c ⟨serial, p⟩)
    poll := fun serial marker timeout call q hp hsince =>
      (h.ruled.poll serial marker timeout call q hp hsince).mono (fun _ hl => hl.faultless)
        (fun _ _ ha => ⟨ha.1, ha.2 rfl⟩) fun _ => id }

/-- Without a poll, all waits are refused from now on. -/
theorem Orderly.waitless (h : v.Orderly) (hd : v.set.destroyed = true) (hc : v.closing = none)
    (hnone : v.poll = none) :
    v.Closed Host.Shut (fun _ => Host.Abides) (fun _ _ => True)
      fun r => ∃ b, r = (some (.failed .badDescriptor), b) where
  destroyed := hd
  closing := hc
  host := h.shut hd hc
  ruled := {
    change := fun c serial p hchange hsince =>
      (h.ruled.change c serial p hchange hsince).mono (fun _ hs => hs.faultless)
        (fun _ _ ha => ha.1) fun _ _ => trivial
    poll := fun serial marker timeout call q hp => by cases hnone.symm.trans hp }

/-! ### Runs -/

variable [ClosableTurns β]

theorem rules_allows : Rules (β := β) (·.kernel.Faultless) Host.Allows
    (fun _ outcome => outcome.isHalted = false) fun _ => True where
  change c h _ := by
    cases c with
    | adding x =>
        exact (ClosableTurns.watch x.descriptor.fd x.interests x.tag h).mono (fun _ => id)
          (fun _ _ ha => ⟨ha, nofun⟩) fun _ => id
    | removing d i found =>
        exact (ClosableTurns.unwatch d.fd i h).mono (fun _ => id)
          (fun _ _ ha => ⟨ha, nofun⟩) fun _ => id
  wait b timeout h _ := (ClosableTurns.wait b timeout h).mono (fun _ _ => trivial)
    (fun _ _ ha => ⟨ha.1, fun _ => ha.2⟩) fun _ => id
  timeUp _ := id

theorem lasting_allows (hW : Undisturbing W) : Lasting (β := β) W (·.kernel.Faultless) Host.Allows
    (fun _ outcome => outcome.isHalted = false) fun _ => True :=
  { rules_allows with
    native := fun _ _ _ hkernel hk => hkernel ▸ hk
    turn := fun _ _ _ hk ha => ha.1.faultless hk
    world := hW.faultless }

/-- **One step** without faults. -/
theorem Orderly.step (hW : Undisturbing W) (h : v.Orderly) (hs : Step W v a v') : v'.Orderly := by
  have hruled := h.ruled.step rules_allows h.faultless hs
  obtain ⟨first, rest, hclose, hshuts⟩ := ClosableTurns.close (β := β)
  rcases hs.destroying with ⟨hclosing, hdestroyed, hno, -⟩ | ⟨-, rfl, rfl⟩ |
    ⟨next, after, hc, rfl, rfl⟩ | ⟨outcome, hc, rfl, rfl⟩
  · have habides := h.abides hW hs hno
    refine ⟨habides.faultless h.faultless, hruled, fun p hp => ?_, fun hd hnone => ?_⟩
    · obtain ⟨hd, hp⟩ := h.closing p (hclosing ▸ hp)
      exact ⟨hdestroyed.trans hd, hp.imp id fun ⟨hshut, hp⟩ => ⟨hshut.abides habides, hp⟩⟩
    · exact (h.shut (hdestroyed ▸ hd) (hclosing ▸ hnone)).abides habides
  · refine ⟨h.faultless, hruled, ?_, nofun⟩
    rintro p ⟨⟩
    exact ⟨rfl, .inl rfl⟩
  · obtain ⟨hd, hp⟩ := h.closing _ hc
    have hnext : (after v.set.host).Shut ∧
        (next v.set.host).Does (·.kernel.Faultless) Host.Abides fun _ => True := by
      rcases hp with hfirst | ⟨hshut, hp⟩
      · obtain ⟨rfl, rfl⟩ := Strand.turn.inj (hfirst.trans hclose)
        exact hshuts _ h.faultless
      · exact ⟨hshut.abides (hp _ h.faultless).1, (hp _ h.faultless).2⟩
    refine ⟨hnext.1.faultless, hruled, ?_, nofun⟩
    rintro p ⟨⟩
    exact ⟨hd, .inr hnext⟩
  · have hshut : v.set.host.Shut := by
      rcases (h.closing _ hc).2 with hfirst | ⟨hshut, -⟩
      · cases hfirst.trans hclose
      · exact hshut
    have hshut' : (closed outcome v.set).host.Shut := by
      cases outcome <;> exact hshut.congr rfl rfl
    exact ⟨hshut'.faultless, hruled, nofun, fun _ _ => hshut'⟩

/-- **A run** without faults, in which no record is lost. -/
theorem Orderly.run (hW : Undisturbing W) (h : v.Orderly) (hr : Run W v A v') :
    v'.Orderly ∧ (A.map Act.label).filterMap Label.lost? = [] := by
  induction hr with
  | refl v => exact ⟨h, rfl⟩
  | @step v v₁ v₂ a A hs _ ih =>
      obtain ⟨h', hrest⟩ := ih (h.step hW hs)
      have hkept : a.label.lost? = none := by
        cases a with
        | part a =>
            cases a with
            | ended c outcome =>
                have hgoes : outcome.isHalted = false := h.ruled.ended hs
                cases c <;> cases outcome <;> first | rfl | cases hgoes
            | _ => rfl
        | turned serial c before after => cases c <;> rfl
        | _ => rfl
      exact ⟨h', by rw [List.map_cons, List.filterMap_cons_none hkept, hrest]⟩

/-- Changes that are called from now on are refused and change nothing, and the wait in progress
changes nothing either. -/
theorem lasting_refused (hW : Undisturbing W) (E : List (Entry β)) :
    Lasting W (Host.Left E) (fun _ h h' => h.Abides h' ∧ h'.entries = h.entries)
      (fun _ outcome => outcome = .failed .badDescriptor) fun _ => True where
  change c h hl := by
    cases c with
    | adding x =>
        exact (ClosableTurns.watch_shut x.descriptor.fd x.interests x.tag h hl.toShut).mono
          (fun _ => Host.Left.toShut) (fun _ _ hu => ⟨hu.abides, hu.entries⟩) fun _ => id
    | removing d i found =>
        exact (ClosableTurns.unwatch_shut d.fd i h hl.toShut).mono
          (fun _ => Host.Left.toShut) (fun _ _ hu => ⟨hu.abides, hu.entries⟩) fun _ => id
  wait b timeout h hl := (ClosableTurns.wait b timeout h).mono (fun _ _ => trivial)
    (fun _ _ => id) fun _ => id
  timeUp _ := id
  native h h' hfacility hkernel hl :=
    ⟨hl.toShut.congr hfacility hkernel, (Host.entries_congr hfacility hkernel).trans hl.entries⟩
  turn _ h h' hl hr := ⟨hl.toShut.abides hr.1, hr.2.trans hl.entries⟩
  world h h' hw hl :=
    ⟨hl.toShut.abides (hW.abides hw), (hW h h' hw).2.1.trans hl.entries⟩

/-- Waits that are called from now on are refused. -/
theorem lasting_waitless (hW : Undisturbing W) :
    Lasting W (Host.Shut (β := β)) (fun _ => Host.Abides) (fun _ _ => True)
      fun r => ∃ b, r = (some (.failed .badDescriptor), b) where
  change c h hs := by
    cases c with
    | adding x =>
        exact (ClosableTurns.watch_shut x.descriptor.fd x.interests x.tag h hs).mono
          (fun _ => id) (fun _ _ hu => hu.abides) fun _ _ => trivial
    | removing d i found =>
        exact (ClosableTurns.unwatch_shut d.fd i h hs).mono
          (fun _ => id) (fun _ _ hu => hu.abides) fun _ _ => trivial
  wait b timeout h hs := (ClosableTurns.wait_shut b timeout h hs).mono (fun _ => id)
    (fun _ _ hu => hu.abides) fun _ => id
  timeUp b hb := by
    obtain ⟨b', hb⟩ := hb
    cases hb
  native h h' hfacility hkernel hs := hs.congr hfacility hkernel
  turn _ h h' hs ha := hs.abides ha
  world h h' hw hs := hs.abides (hW.abides hw)

end Scene

end Readiness
