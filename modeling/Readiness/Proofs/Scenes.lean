import Readiness.Proofs.FacilityTurns
import Readiness.Proofs.Settled

/-! # Sets shared by threads, turn by turn

A `Moment` lets a call of the facility run as one part of a call of the set, or as two.  A `Scene`
cuts it into its turns, between which the other threads run.

* **Calls of the facility** (`Task`) are numbered in the order in which they are made.  The lock on
  the rings keeps a second change away and the lock on the buffer a second poll, as before.
* **Destroying** takes no lock.  It sets a flag, so that there is one closing at most
  (`Scene.closing`), and the closing takes its turns while the other calls go on.
* **Steps** (`Scene.Step`).  Each is a part of a call of the set, which is one of the functions that
  `WatchSet.add`, `WatchSet.remove`, `WatchSet.poll` and `WatchSet.destroy` are made of, or a turn of
  a call of the facility.  A wait that goes round again does so with any time that may be left.
* **Acts** (`Act`).  A step shows which call of the facility has taken its turn.  For the records it
  means what `Act.label` says, and it moves the rings, the locks and the calls in progress as any
  facility would (`Scene.Step.moves`).
* **Whole calls** (`WholeCalls`).  A call of the set that nobody disturbs is a run. -/

namespace Readiness

variable {β : Type}

/-- A call of the facility in progress. -/
structure Task (β ρ : Type) where
  serial : Nat
  strand : Strand (Host β) ρ

/-- A poll in progress, and its wait once that was called. -/
structure OpenPoll (β : Type) where
  serial : Nat
  marker : Nat
  timeout : Option Duration
  wait : Option (Task β (Option (Outcome SystemError Unit) × NativeBuffer)) := none

/-- A set with the calls in progress on it. -/
structure Scene (β : Type) where
  set : WatchSet β
  /-- The change in progress, and its call of the facility once that was made. -/
  change : Option (Change × Option (Task β (Outcome SystemError Unit))) := none
  poll : Option (OpenPoll β) := none
  /-- What is left of closing the facility. -/
  closing : Option (Strand (Host β) (Outcome SystemError Unit)) := none
  /-- How many polls have begun. -/
  polls : Nat := 0
  /-- How many calls of the facility were made. -/
  calls : Nat := 0

/-- What a step of a scene is. -/
inductive Act (β : Type) where
  /-- A part of a call of the set. -/
  | part (a : Label β)
  /-- The facility is called. -/
  | called (serial : Nat)
  /-- A call of the facility takes a turn, between two states of the host. -/
  | turned (serial : Nat) (c : Option Change) (before after : Host β)
  /-- Closing the facility takes a turn. -/
  | closing (before after : Host β)

namespace Act

/-- What an act means for the records. -/
def label : Act β → Label β
  | part a => a
  | turned _ (some c) before after => .worked c before after
  | _ => .silent

/-- The turn that was taken. -/
def turn? : Act β → Option (Host β × Host β)
  | turned _ _ before after => some (before, after)
  | closing before after => some (before, after)
  | _ => none

end Act

/-- What a change asks of the facility. -/
def Change.turns [Turns β] : Change → Host β → Strand (Host β) (Outcome SystemError Unit)
  | adding x => Turns.watch x.descriptor.fd x.interests x.tag
  | removing d i _ => Turns.unwatch d.fd i

namespace Scene

/-- The rings of a scene. -/
def roster (v : Scene β) : Roster := v.set.roster.value

/-- The end of destroying: an error is written to the log. -/
def closed (outcome : Outcome SystemError Unit) (s : WatchSet β) : WatchSet β :=
  match outcome with
  | .failed cause => s.note (.closeFailed cause)
  | _ => s

/-- A scene follows another by one part of a call, by one turn, or by a change of the host. -/
inductive Step [Turns β] (W : Host β → Host β → Prop) : Scene β → Act β → Scene β → Prop
  | world {v : Scene β} {host : Host β} : W v.set.host host →
      Step W v (.part .silent) { v with set := { v.set with host } }
  | refuseAdd {v : Scene β} (d : Descriptor) (i : Interests) (id : EventId)
      {outcome : Outcome Error Unit} :
      (v.set.note (.adding d i id)).beginAdd d i id = .error outcome →
      Step W v (.part .silent) { v with set := v.set.note (.adding d i id) }
  | beginAdd {v : Scene β} (d : Descriptor) (i : Interests) (id : EventId) {t : Tag}
      {s : WatchSet β} :
      (v.set.note (.adding d i id)).beginAdd d i id = .ok (t, s) →
      Step W v (.part (.began (.adding ⟨t, d, i, id⟩)))
        { v with set := s, change := some (.adding ⟨t, d, i, id⟩, none) }
  | refuseRemove {v : Scene β} (d : Descriptor) {cause : Halt} :
      (v.set.note (.removing d)).beginRemove d = .error cause →
      Step W v (.part .silent) { v with set := v.set.note (.removing d) }
  | beginRemove {v : Scene β} (d : Descriptor) {found : Option UInt32} {i : Interests}
      {s : WatchSet β} :
      (v.set.note (.removing d)).beginRemove d = .ok ((found, i), s) →
      Step W v (.part (.began (.removing d i found)))
        { v with set := s, change := some (.removing d i found, none) }
  | callChange {v : Scene β} {c : Change} : v.change = some (c, none) →
      Step W v (.called v.calls)
        { v with change := some (c, some ⟨v.calls, c.turns v.set.host⟩), calls := v.calls + 1 }
  | turnChange {v : Scene β} {c : Change} {serial : Nat}
      {next : Host β → Strand (Host β) (Outcome SystemError Unit)} {after : Host β → Host β} :
      v.change = some (c, some ⟨serial, .turn next after⟩) →
      Step W v (.turned serial (some c) v.set.host (after v.set.host))
        { v with
          set := { v.set with host := after v.set.host }
          change := some (c, some ⟨serial, next v.set.host⟩) }
  | endChange {v : Scene β} {c : Change} {serial : Nat} {outcome : Outcome SystemError Unit} :
      v.change = some (c, some ⟨serial, .returned outcome⟩) →
      Step W v (.part (.ended c outcome)) { v with set := c.finish outcome v.set, change := none }
  | refusePoll {v : Scene β} (timeout : Option Duration) {cause : Halt} :
      (v.set.note (.polling timeout)).beginPoll = .error cause →
      Step W v (.part .silent) { v with set := v.set.note (.polling timeout) }
  | beginPoll {v : Scene β} (timeout : Option Duration) {marker : Nat} {s : WatchSet β} :
      (v.set.note (.polling timeout)).beginPoll = .ok (marker, s) →
      Step W v (.part (.marked v.polls marker))
        { v with
          set := s
          poll := some { serial := v.polls, marker, timeout }
          polls := v.polls + 1 }
  | callWait {v : Scene β} {serial marker : Nat} {timeout : Option Duration} :
      v.poll = some ⟨serial, marker, timeout, none⟩ →
      Step W v (.called v.calls)
        { v with
          poll := some ⟨serial, marker, timeout,
            some ⟨v.calls, Turns.wait v.set.buffer.value timeout v.set.host⟩⟩
          calls := v.calls + 1 }
  | turnWait {v : Scene β} {serial marker : Nat} {timeout : Option Duration} {call : Nat}
      {next : Host β → Strand (Host β) (Option (Outcome SystemError Unit) × NativeBuffer)}
      {after : Host β → Host β} :
      v.poll = some ⟨serial, marker, timeout, some ⟨call, .turn next after⟩⟩ →
      Step W v (.turned call none v.set.host (after v.set.host))
        { v with
          set := { v.set with host := after v.set.host }
          poll := some ⟨serial, marker, timeout, some ⟨call, next v.set.host⟩⟩ }
  /-- The wait goes round again, with the time that remains. -/
  | waitAgain {v : Scene β} {serial marker : Nat} {timeout : Option Duration} {call : Nat}
      {b : NativeBuffer} (remaining : Option Duration) :
      v.poll = some ⟨serial, marker, timeout, some ⟨call, .returned (none, b)⟩⟩ →
      Step W v (.called v.calls)
        { v with
          poll := some ⟨serial, marker, timeout,
            some ⟨v.calls, Turns.wait b remaining v.set.host⟩⟩
          calls := v.calls + 1 }
  /-- The time of the wait was up after all. -/
  | timeUp {v : Scene β} {serial marker : Nat} {timeout : Option Duration} {call : Nat}
      {b : NativeBuffer} :
      v.poll = some ⟨serial, marker, timeout, some ⟨call, .returned (none, b)⟩⟩ →
      timeout ≠ none →
      Step W v (.part .silent)
        { v with
          poll := some ⟨serial, marker, timeout, some ⟨call, .returned (some (.done ()), b)⟩⟩ }
  | endPoll {v : Scene β} {serial marker : Nat} {timeout : Option Duration} {call : Nat}
      {outcome : Outcome SystemError Unit} {b : NativeBuffer}
      {answer : Outcome Error Nat × List Event} {s : WatchSet β} :
      v.poll = some ⟨serial, marker, timeout, some ⟨call, .returned (some outcome, b)⟩⟩ →
      v.set.finishPoll marker [] (outcome, b) = (answer, s) →
      Step W v (.part (.polled serial marker (outcome, b) answer)) { v with set := s, poll := none }
  | refuseDestroy {v : Scene β} : v.set.destroyed = true → Step W v (.part .silent) v
  | beginDestroy {v : Scene β} : v.set.destroyed = false →
      Step W v (.part .silent)
        { v with
          set := { v.set with destroyed := true }.note .destroying
          closing := some Turns.close }
  | turnClosing {v : Scene β} {next : Host β → Strand (Host β) (Outcome SystemError Unit)}
      {after : Host β → Host β} : v.closing = some (.turn next after) →
      Step W v (.closing v.set.host (after v.set.host))
        { v with
          set := { v.set with host := after v.set.host }
          closing := some (next v.set.host) }
  /-- Destroying returns, the facility being closed. -/
  | endDestroy {v : Scene β} {outcome : Outcome SystemError Unit} :
      v.closing = some (.returned outcome) →
      Step W v (.part .destroyed) { v with set := closed outcome v.set, closing := none }

/-- Some steps, with their acts. -/
inductive Run [Turns β] (W : Host β → Host β → Prop) : Scene β → List (Act β) → Scene β → Prop
  | refl (v : Scene β) : Run W v [] v
  | step {v v₁ v₂ : Scene β} {a : Act β} {A : List (Act β)} :
      Step W v a v₁ → Run W v₁ A v₂ → Run W v (a :: A) v₂

/-- The first scene of a set. -/
def ofSet (s : WatchSet β) : Scene β where
  set := s

/-- The first scene of a new set. -/
def start [Facility β] (host : Host β) (capacity : Nat) (threadSafe : Bool) : Scene β :=
  ofSet (WatchSet.ofHost host capacity threadSafe)

/-- A scene, without how far the calls of the facility have come. -/
def moment (v : Scene β) : Moment β where
  set := v.set
  change := v.change.map fun c => (c.1, .ready)
  poll := v.poll.map fun p => ⟨p.serial, p.marker, p.timeout, .ready⟩
  polls := v.polls

/-- The calls of the facility in progress, as far as they were made from the number `since` on, do as
is said of them. -/
structure Ruled (Q : Host β → Prop) (R : Option Change → Host β → Host β → Prop)
    (P : Change → Outcome SystemError Unit → Prop)
    (P' : Option (Outcome SystemError Unit) × NativeBuffer → Prop) (since : Nat) (v : Scene β) :
    Prop where
  change : ∀ c serial p, v.change = some (c, some ⟨serial, p⟩) → since ≤ serial →
    p.Does Q (R (some c)) (P c)
  poll : ∀ serial marker timeout call q,
    v.poll = some ⟨serial, marker, timeout, some ⟨call, q⟩⟩ → since ≤ call → q.Does Q (R none) P'

variable {Q : Host β → Prop} {R : Option Change → Host β → Host β → Prop}
  {P : Change → Outcome SystemError Unit → Prop}
  {P' : Option (Outcome SystemError Unit) × NativeBuffer → Prop} {since : Nat}

/-- No call of the facility is in progress at first. -/
theorem ruled_ofSet (s : WatchSet β) : (ofSet s).Ruled Q R P P' since := ⟨nofun, nofun⟩

/-- The calls of the facility in progress have numbers below that of the next one. -/
structure Numbered (v : Scene β) : Prop where
  change : ∀ c serial p, v.change = some (c, some ⟨serial, p⟩) → serial < v.calls
  poll : ∀ serial marker timeout call q,
    v.poll = some ⟨serial, marker, timeout, some ⟨call, q⟩⟩ → call < v.calls

theorem numbered_ofSet (s : WatchSet β) : (ofSet s).Numbered := ⟨nofun, nofun⟩

/-- Nothing is said of the calls that were made before. -/
theorem Numbered.ruled {v : Scene β} (h : v.Numbered) : v.Ruled Q R P P' v.calls :=
  ⟨fun c serial p hc hsince => absurd (h.change c serial p hc) (Nat.not_lt.mpr hsince),
    fun serial marker timeout call q hp hsince =>
      absurd (h.poll serial marker timeout call q hp) (Nat.not_lt.mpr hsince)⟩

variable [Turns β] {W : Host β → Host β → Prop} {v v' v₁ v₂ v₃ : Scene β} {a : Act β}
  {A A' : List (Act β)}

theorem Run.trans (h : Run W v₁ A v₂) (h' : Run W v₂ A' v₃) : Run W v₁ (A ++ A') v₃ := by
  induction h with
  | refl v => exact h'
  | step hs _ ih => exact .step hs (ih h')

theorem Run.single (h : Step W v a v') : Run W v [a] v' := .step h (.refl v')

/-! ### What a step does -/

/-- For the rings, the locks and the calls in progress a step of a scene is one of any facility. -/
theorem Step.moves (hs : Step W v a v') : Moment.Moves v.moment a.label v'.moment := by
  cases hs with
  | world | refuseAdd | refuseRemove | refusePoll | refuseDestroy | beginDestroy | turnClosing =>
      exact .quiet rfl rfl rfl rfl rfl rfl
  | beginAdd d i id hb => exact .beginAdd d i id hb
  | beginRemove d hb => exact .beginRemove d hb
  | callChange hc | turnChange hc =>
      exact .quiet rfl rfl rfl (by rw [moment, moment, hc]; rfl) rfl rfl
  | endChange hc => exact .endChange (by rw [moment, hc]; rfl)
  | beginPoll timeout hb => exact .beginPoll timeout hb
  | callWait hp | turnWait hp | waitAgain remaining hp =>
      exact .quiet rfl rfl rfl rfl (by rw [moment, moment, hp]; rfl) rfl
  | timeUp hp => exact .quiet rfl rfl rfl rfl (by rw [moment, moment, hp]; rfl) rfl
  | endPoll hp he => exact .endPoll (by rw [moment, hp]; rfl) he
  | @endDestroy outcome hc => cases outcome <;> exact .quiet rfl rfl rfl rfl rfl rfl

theorem Run.moving (hr : Run W v A v') : Moment.Moving v.moment (A.map Act.label) v'.moment := by
  induction hr with
  | refl v => exact .refl _
  | step hs _ ih => exact .step hs.moves ih

/-- The host changes in a turn, or by others, and apart from that only its log does. -/
theorem Step.host (hs : Step W v a v') :
    a.turn? = some (v.set.host, v'.set.host) ∨
      a.turn? = none ∧ (v'.set.native = v.set.native ∨ W v.set.host v'.set.host) := by
  cases hs with
  | world hw => exact .inr ⟨rfl, .inr hw⟩
  | turnChange | turnWait | turnClosing => exact .inl rfl
  | beginAdd d i id hb =>
      obtain ⟨-, -, -, roster, -, rfl⟩ := WatchSet.beginAdd_eq_ok hb
      exact .inr ⟨rfl, .inl rfl⟩
  | beginRemove d hb =>
      obtain ⟨-, -, -, rfl⟩ := WatchSet.beginRemove_eq_ok hb
      exact .inr ⟨rfl, .inl rfl⟩
  | endChange hc => exact .inr ⟨rfl, .inl (Change.native_finish ..)⟩
  | beginPoll timeout hb =>
      obtain ⟨-, -, -, rfl⟩ := WatchSet.beginPoll_eq_ok hb
      exact .inr ⟨rfl, .inl rfl⟩
  | endPoll hp he => exact .inr ⟨rfl, .inl (WatchSet.finishPoll_eq he).1⟩
  | @endDestroy outcome hc => cases outcome <;> exact .inr ⟨rfl, .inl rfl⟩
  | _ => exact .inr ⟨rfl, .inl rfl⟩

/-- A step belongs to destroying, or it leaves the flag and the closing alone. -/
theorem Step.destroying (hs : Step W v a v') :
    (v'.closing = v.closing ∧ v'.set.destroyed = v.set.destroyed ∧
      (∀ before after, a ≠ .closing before after) ∧ a ≠ .part .destroyed) ∨
    (v.set.destroyed = false ∧ a = .part .silent ∧
      v' = { v with
        set := { v.set with destroyed := true }.note .destroying
        closing := some Turns.close }) ∨
    (∃ next after, v.closing = some (.turn next after) ∧
      a = .closing v.set.host (after v.set.host) ∧
      v' = { v with
        set := { v.set with host := after v.set.host }
        closing := some (next v.set.host) }) ∨
    ∃ outcome, v.closing = some (.returned outcome) ∧ a = .part .destroyed ∧
      v' = { v with set := closed outcome v.set, closing := none } := by
  cases hs with
  | beginDestroy hd => exact .inr (.inl ⟨hd, rfl, rfl⟩)
  | turnClosing hc => exact .inr (.inr (.inl ⟨_, _, hc, rfl, rfl⟩))
  | endDestroy hc => exact .inr (.inr (.inr ⟨_, hc, rfl, rfl⟩))
  | beginAdd d i id hb =>
      obtain ⟨-, -, -, roster, -, rfl⟩ := WatchSet.beginAdd_eq_ok hb
      exact .inl ⟨rfl, rfl, nofun, nofun⟩
  | beginRemove d hb =>
      obtain ⟨-, -, -, rfl⟩ := WatchSet.beginRemove_eq_ok hb
      exact .inl ⟨rfl, rfl, nofun, nofun⟩
  | endChange hc => exact .inl ⟨rfl, Change.destroyed_finish .., nofun, nofun⟩
  | beginPoll timeout hb =>
      obtain ⟨-, -, -, rfl⟩ := WatchSet.beginPoll_eq_ok hb
      exact .inl ⟨rfl, rfl, nofun, nofun⟩
  | endPoll hp he =>
      exact .inl ⟨rfl, (congrArg (·.2.destroyed) he).symm.trans
        (WatchSet.destroyed_finishPoll ..), nofun, nofun⟩
  | _ => exact .inl ⟨rfl, rfl, nofun, nofun⟩

/-! ### What the calls of the facility do -/

/-- On a host with a property, calls of the facility that are made then do as is said of them, among
others that keep the property. -/
structure Rules (Q : Host β → Prop) (R : Option Change → Host β → Host β → Prop)
    (P : Change → Outcome SystemError Unit → Prop)
    (P' : Option (Outcome SystemError Unit) × NativeBuffer → Prop) : Prop where
  change : ∀ c h, Q h → (Change.turns c h).Does Q (R (some c)) (P c)
  wait : ∀ b timeout h, Q h → (Turns.wait b timeout h).Does Q (R none) P'
  timeUp : ∀ b, P' (none, b) → P' (some (.done ()), b)

/-- **One step.**  The calls in progress go on as is said of them, and so do those that are made. -/
theorem Ruled.step (hrules : Rules Q R P P') (hq : Q v.set.host) (h : v.Ruled Q R P P' since)
    (hs : Step W v a v') : v'.Ruled Q R P P' since := by
  cases hs with
  | beginAdd | beginRemove | endChange => exact ⟨nofun, h.poll⟩
  | callChange hc =>
      refine ⟨?_, h.poll⟩
      rintro c serial p ⟨⟩ -
      exact hrules.change _ _ hq
  | turnChange hc =>
      refine ⟨?_, h.poll⟩
      rintro c serial p ⟨⟩ hsince
      exact (h.change _ _ _ hc hsince _ hq).2
  | beginPoll | endPoll => exact ⟨h.change, nofun⟩
  | callWait hp | waitAgain remaining hp =>
      refine ⟨h.change, ?_⟩
      rintro serial marker timeout call q ⟨⟩ -
      exact hrules.wait _ _ _ hq
  | turnWait hp =>
      refine ⟨h.change, ?_⟩
      rintro serial marker timeout call q ⟨⟩ hsince
      exact (h.poll _ _ _ _ _ hp hsince _ hq).2
  | timeUp hp =>
      refine ⟨h.change, ?_⟩
      rintro serial marker timeout call q ⟨⟩ hsince
      exact hrules.timeUp _ (h.poll _ _ _ _ _ hp hsince)
  | _ => exact ⟨h.change, h.poll⟩

/-- A turn is as is said of its call. -/
theorem Ruled.turned (hq : Q v.set.host) (h : v.Ruled Q R P P' since) {serial : Nat}
    {c : Option Change} {before after : Host β} (hs : Step W v (.turned serial c before after) v')
    (hsince : since ≤ serial) : R c before after := by
  cases hs with
  | turnChange hc => exact (h.change _ _ _ hc hsince _ hq).1
  | turnWait hp => exact (h.poll _ _ _ _ _ hp hsince _ hq).1

/-- A change ends as is said of its call. -/
theorem Ruled.ended (h : v.Ruled Q R P P' 0) {c : Change} {outcome : Outcome SystemError Unit}
    (hs : Step W v (.part (.ended c outcome)) v') : P c outcome := by
  cases hs with
  | endChange hc => exact h.change _ _ _ hc (Nat.zero_le _)

/-- A wait ends as is said of it. -/
theorem Ruled.polled (h : v.Ruled Q R P P' 0) {serial marker : Nat}
    {result : Outcome SystemError Unit × NativeBuffer} {answer : Outcome Error Nat × List Event}
    (hs : Step W v (.part (.polled serial marker result answer)) v') :
    P' (some result.1, result.2) := by
  cases hs with
  | endPoll hp he => exact h.poll _ _ _ _ _ hp (Nat.zero_le _)

/-! ### Numbers of calls -/

theorem Numbered.step (h : v.Numbered) (hs : Step W v a v') : v'.Numbered := by
  have hchange := fun c serial p hc => Nat.lt_succ_of_lt (h.change c serial p hc)
  have hpoll := fun serial marker timeout call q hp =>
    Nat.lt_succ_of_lt (h.poll serial marker timeout call q hp)
  cases hs with
  | beginAdd | beginRemove | endChange => exact ⟨nofun, h.poll⟩
  | callChange hc =>
      refine ⟨?_, hpoll⟩
      rintro c serial p ⟨⟩
      exact Nat.lt_succ_self _
  | turnChange hc =>
      refine ⟨?_, h.poll⟩
      rintro c serial p ⟨⟩
      exact h.change _ _ _ hc
  | beginPoll | endPoll => exact ⟨h.change, nofun⟩
  | callWait hp | waitAgain remaining hp =>
      refine ⟨hchange, ?_⟩
      rintro serial marker timeout call q ⟨⟩
      exact Nat.lt_succ_self _
  | turnWait hp | timeUp hp =>
      refine ⟨h.change, ?_⟩
      rintro serial marker timeout call q ⟨⟩
      exact h.poll _ _ _ _ _ hp
  | _ => exact ⟨h.change, h.poll⟩

theorem Numbered.run (h : v.Numbered) (hr : Run W v A v') : v'.Numbered := by
  induction hr with
  | refl v => exact h
  | step hs _ ih => exact ih (h.step hs)

/-! ### Whole calls -/

/-- A change takes its turns without others. -/
theorem exists_run_turns {c : Change} {serial : Nat}
    (p : Strand (Host β) (Outcome SystemError Unit))
    (hc : v.change = some (c, some ⟨serial, p⟩)) :
    ∃ A, Run W v A
      { v with
        set := { v.set with host := (p.alone v.set.host).2 }
        change := some (c, some ⟨serial, .returned (p.alone v.set.host).1⟩) } := by
  induction p generalizing v with
  | returned r =>
      refine ⟨[], ?_⟩
      rw [Strand.alone, ← hc]
      exact .refl v
  | turn next after ih =>
      obtain ⟨A, hr⟩ := ih v.set.host
        (v := { v with
          set := { v.set with host := after v.set.host }
          change := some (c, some ⟨serial, next v.set.host⟩) }) rfl
      exact ⟨_, .step (.turnChange hc) hr⟩

/-- A round of a wait takes its turns without others. -/
theorem exists_run_round {serial marker call : Nat} {timeout : Option Duration}
    (p : Strand (Host β) (Option (Outcome SystemError Unit) × NativeBuffer))
    (hp : v.poll = some ⟨serial, marker, timeout, some ⟨call, p⟩⟩) :
    ∃ A, Run W v A
      { v with
        set := { v.set with host := (p.alone v.set.host).2 }
        poll := some ⟨serial, marker, timeout,
          some ⟨call, .returned (p.alone v.set.host).1⟩⟩ } := by
  induction p generalizing v with
  | returned r =>
      refine ⟨[], ?_⟩
      rw [Strand.alone, ← hp]
      exact .refl v
  | turn next after ih =>
      obtain ⟨A, hr⟩ := ih v.set.host
        (v := { v with
          set := { v.set with host := after v.set.host }
          poll := some ⟨serial, marker, timeout, some ⟨call, next v.set.host⟩⟩ }) rfl
      exact ⟨_, .step (.turnWait hp) hr⟩

/-- Closing takes its turns without others. -/
theorem exists_run_closing (p : Strand (Host β) (Outcome SystemError Unit))
    (hc : v.closing = some p) :
    ∃ A, Run W v A
      { v with
        set := { v.set with host := (p.alone v.set.host).2 }
        closing := some (.returned (p.alone v.set.host).1) } := by
  induction p generalizing v with
  | returned r =>
      refine ⟨[], ?_⟩
      rw [Strand.alone, ← hc]
      exact .refl v
  | turn next after ih =>
      obtain ⟨A, hr⟩ := ih v.set.host
        (v := { v with
          set := { v.set with host := after v.set.host }
          closing := some (next v.set.host) }) rfl
      exact ⟨_, .step (.turnClosing hc) hr⟩

/-- The rounds of a wait go on without others until there is an outcome. -/
theorem exists_run_rounds {serial marker call : Nat} {timeout : Option Duration}
    {b : NativeBuffer} {h : Host β} {r : (Outcome SystemError Unit × NativeBuffer) × Host β}
    (hw : Turns.Waits timeout b h r) (hhost : v.set.host = h)
    (hp : v.poll = some ⟨serial, marker, timeout, some ⟨call, Turns.wait b timeout h⟩⟩) :
    ∃ A n call', Run W v A
      { v with
        set := { v.set with host := r.2 }
        poll := some ⟨serial, marker, timeout, some ⟨call', .returned (some r.1.1, r.1.2)⟩⟩
        calls := n } := by
  induction hw generalizing v call with
  | @last b b' h h' outcome halone =>
      obtain ⟨A, hr⟩ := exists_run_round (W := W) _ hp
      rw [hhost, halone] at hr
      exact ⟨A, v.calls, call, hr⟩
  | @again b b₁ h h₁ r halone hrest ih =>
      obtain ⟨A, hr⟩ := exists_run_round (W := W) _ hp
      rw [hhost, halone] at hr
      let v₁ : Scene β := { v with
        set := { v.set with host := h₁ }
        poll := some ⟨serial, marker, timeout, some ⟨v.calls, Turns.wait b₁ timeout h₁⟩⟩
        calls := v.calls + 1 }
      have hp₁ : v₁.poll =
          some ⟨serial, marker, timeout, some ⟨v.calls, Turns.wait b₁ timeout h₁⟩⟩ := rfl
      obtain ⟨A', n, call', hr'⟩ := ih rfl hp₁
      exact ⟨_, n, call', hr.trans (.step (.waitAgain timeout rfl) hr')⟩

end Scene

/-- Destroying closes the facility and ends accordingly. -/
theorem WatchSet.destroy_eq [Facility β] {s : WatchSet β} (hd : s.destroyed = false) :
    s.destroy.2 = Scene.closed (Facility.close (s.host.note .destroying)).1
      { s with host := (Facility.close (s.host.note .destroying)).2, destroyed := true } := by
  rw [destroy, if_neg (by rw [hd]; exact Bool.false_ne_true)]
  dsimp only [note]
  cases Facility.close (s.host.note .destroying) with
  | mk outcome host => cases outcome <;> rfl

/-- A call of the set that nobody disturbs is a run, which leads to where the call leads.  It may
begin while other calls are in progress, as long as their locks allow it. -/
structure WholeCalls (β : Type) [Facility β] [Turns β] : Prop where
  add (v : Scene β) (d : Descriptor) (i : Interests) (id : EventId) : v.change = none →
    ∃ A n, Scene.Run (fun _ _ => False) v A
      { v with set := (Progress.alone (v.set.add d i id)).2, calls := n }
  remove (v : Scene β) (d : Descriptor) : v.change = none →
    ∃ A n, Scene.Run (fun _ _ => False) v A
      { v with set := (Progress.alone (v.set.remove d)).2, calls := n }
  poll (v : Scene β) (events : List Event) (timeout : Option Duration) : v.poll = none →
    ∃ A polls n, Scene.Run (fun _ _ => False) v A
      { v with set := (Progress.alone (v.set.poll events timeout)).2, polls, calls := n }
  destroy (v : Scene β) : v.closing = none →
    ∃ A, Scene.Run (fun _ _ => False) v A { v with set := v.set.destroy.2 }

namespace WholeCalls

variable [Facility β] [Turns β] [FaithfulTurns β] {v : Scene β}

/-- A change that has begun goes on to its end. -/
theorem exists_run_change {c : Change} (hc : v.change = some (c, none)) :
    ∃ A n, Scene.Run (fun _ _ => False) v A
      { v with
        set := c.finish (Progress.alone (c.call v.set.host)).1
          { v.set with host := (Progress.alone (c.call v.set.host)).2 }
        change := none
        calls := n } := by
  have halone : (c.turns v.set.host).alone v.set.host = Progress.alone (c.call v.set.host) := by
    cases c with
    | adding x => exact FaithfulTurns.watch ..
    | removing d i found => exact FaithfulTurns.unwatch ..
  obtain ⟨A, hr⟩ := Scene.exists_run_turns (W := fun _ _ => False) (c.turns v.set.host)
    (v := { v with change := some (c, some ⟨v.calls, c.turns v.set.host⟩), calls := v.calls + 1 })
    rfl
  rw [halone] at hr
  exact ⟨_, _, .step (.callChange hc) (hr.trans (.single (.endChange rfl)))⟩

theorem of_faithful (β : Type) [Facility β] [Turns β] [FaithfulTurns β] : WholeCalls β where
  add v d i id hc := by
    unfold WatchSet.add
    dsimp only
    cases hb : (v.set.note (.adding d i id)).beginAdd d i id with
    | error outcome => exact ⟨_, v.calls, .single (.refuseAdd d i id hb)⟩
    | ok begun =>
        obtain ⟨t, s⟩ := begun
        obtain ⟨A, n, hr⟩ := exists_run_change
          (v := { v with set := s, change := some (.adding ⟨t, d, i, id⟩, none) }) rfl
        dsimp only
        rw [WatchSet.alone_within, hc]
        exact ⟨_, n, .step (.beginAdd d i id hb) hr⟩
  remove v d hc := by
    unfold WatchSet.remove
    dsimp only
    cases hb : (v.set.note (.removing d)).beginRemove d with
    | error cause => exact ⟨_, v.calls, .single (.refuseRemove d hb)⟩
    | ok begun =>
        obtain ⟨⟨found, i⟩, s⟩ := begun
        obtain ⟨A, n, hr⟩ := exists_run_change
          (v := { v with set := s, change := some (.removing d i found, none) }) rfl
        dsimp only
        rw [WatchSet.alone_within, hc]
        exact ⟨_, n, .step (.beginRemove d hb) hr⟩
  poll v events timeout hp := by
    unfold WatchSet.poll
    dsimp only
    cases hb : (v.set.note (.polling timeout)).beginPoll with
    | error cause => exact ⟨_, v.polls, v.calls, .single (.refusePoll timeout hb)⟩
    | ok begun =>
        obtain ⟨marker, s⟩ := begun
        dsimp only
        rw [WatchSet.alone_within]
        obtain ⟨A, n, call, hr⟩ := Scene.exists_run_rounds (W := fun _ _ => False)
          (FaithfulTurns.wait s.buffer.value timeout s.host)
          (v := { v with
            set := s
            poll := some ⟨v.polls, marker, timeout,
              some ⟨v.calls, Turns.wait s.buffer.value timeout s.host⟩⟩
            polls := v.polls + 1
            calls := v.calls + 1 }) rfl rfl
        rw [hp]
        exact ⟨_, _, n, .step (.beginPoll timeout hb) (.step (.callWait rfl) (hr.trans
          (.single (.endPoll rfl rfl))))⟩
  destroy v hc := by
    cases hd : v.set.destroyed with
    | true =>
        rw [WatchSet.destroy, if_pos hd]
        exact ⟨_, .single (.refuseDestroy hd)⟩
    | false =>
        obtain ⟨A, hr⟩ := Scene.exists_run_closing (W := fun _ _ => False) Turns.close
          (v := { v with
            set := { v.set with destroyed := true }.note .destroying
            closing := some Turns.close }) rfl
        rw [FaithfulTurns.close] at hr
        rw [WatchSet.destroy_eq hd, hc]
        exact ⟨_, .step (.beginDestroy hd) (hr.trans (.single (.endDestroy rfl)))⟩

end WholeCalls

end Readiness
