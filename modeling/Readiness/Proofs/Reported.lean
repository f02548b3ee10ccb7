import Readiness.Proofs.PollWindow
import Readiness.Proofs.TracedFacilities

/-! # Who is reported

The tags that a poll returns belong to registrations, and a registration may be there without its
record being active: the record was removed, or is not active yet, or never will be.

* **Active** (`ActiveDuring`).  An addition is active at some moment of a run.
* **Torn** (`Torn`).  An adding that makes several registrations failed in the run.  Those it had
  made were there until they were rolled back.
* **Known tags** (`Scene.Known`).  A poll in progress has only come across tags of additions that
  were active since it began, that are about to be, that were torn, or that were left behind
  (`Scene.PollCites.run`).
* **Result.**  `Scene.reports_active_or_left_behind` says this of the events that are reported.  That a
  descriptor was removed, or that its adding failed, is not enough: one that could not be unwatched may
  still be reported, and so may one whose first filter was registered before its second one failed
  (`Scene.reports_left_behind`). -/

namespace Readiness

open Registry TaggedRegistry TracedTurns

variable {β : Type}

/-! ### What is added in a run -/

/-- An addition is active before one of the steps, or after the last one. -/
def ActiveDuring (x : Addition) : List Addition → List (Label β) → Prop
  | added, [] => x ∈ added
  | added, a :: L => x ∈ added ∨ ActiveDuring x (a.tell added) L

theorem activeDuring_of_mem {x : Addition} {added : List Addition} (L : List (Label β))
    (h : x ∈ added) : ActiveDuring x added L := by
  cases L with
  | nil => exact h
  | cons a L => exact .inl h

namespace Label

/-- The descriptor is added. -/
def Adds (fd : Int32) : Label β → Prop
  | ended (.adding x) (.done ()) => x.descriptor.fd = fd
  | _ => False

/-- The removal of the descriptor returns. -/
def Removes (fd : Int32) : Label β → Prop
  | ended (.removing d _ _) outcome => d.fd = fd ∧ outcome.isHalted = false
  | _ => False

/-- The removal of the descriptor has returned, and it was not added since. -/
def Removed (fd : Int32) (L : List (Label β)) : Prop :=
  ∃ L₁ a L₂, L = L₁ ++ a :: L₂ ∧ Removes fd a ∧ ∀ b ∈ L₂, ¬ Adds fd b

/-- No addition of the descriptor is active. -/
def Absent (fd : Int32) (added : List Addition) : Prop := ∀ x ∈ added, x.descriptor.fd ≠ fd

variable {fd : Int32} {added : List Addition} {a : Label β}

theorem Absent.tell (h : Absent fd added) (ha : ¬ Adds fd a) : Absent fd (a.tell added) := by
  cases a with
  | ended c outcome =>
      intro y hy
      rcases Change.of_mem_tell hy with hy | ⟨rfl, rfl⟩
      · exact h y hy
      · exact ha
  | _ => exact h

theorem Absent.foldl_tell {L : List (Label β)} (h : Absent fd added) (hL : ∀ a ∈ L, ¬ Adds fd a) :
    Absent fd (L.foldl (fun added a => a.tell added) added) := by
  induction L generalizing added with
  | nil => exact h
  | cons a L ih =>
      obtain ⟨ha, hrest⟩ := List.forall_mem_cons.mp hL
      exact ih (h.tell ha) hrest

/-- Without adding, only additions of other descriptors are active. -/
theorem Absent.activeDuring {L : List (Label β)} (h : Absent fd added)
    (hL : ∀ a ∈ L, ¬ Adds fd a) {x : Addition} (hx : ActiveDuring x added L) :
    x.descriptor.fd ≠ fd := by
  induction L generalizing added with
  | nil => exact h x hx
  | cons a L ih =>
      obtain ⟨ha, hrest⟩ := List.forall_mem_cons.mp hL
      rcases hx with hx | hx
      · exact h x hx
      · exact ih (h.tell ha) hrest hx

/-- After its removal no addition of a descriptor is active. -/
theorem absent_of_removes (hdistinct : (added.map (·.descriptor.fd)).Nodup)
    (hsound : ∀ c outcome, a = ended c outcome → c.Sound added) (ha : Removes fd a) :
    Absent fd (a.tell added) := by
  cases a with
  | ended c outcome =>
      replace hsound := hsound c outcome rfl
      cases c with
      | adding x => cases ha
      | removing d i found =>
          obtain ⟨rfl, hfine⟩ := ha
          cases found with
          | none => cases outcome <;> exact hsound.2
          | some j =>
              obtain ⟨x, hx, hd, -, hj⟩ := hsound
              intro y hy hfd
              rw [tell, Change.tell_removing hfine] at hy
              obtain ⟨hy, hne⟩ := List.mem_filter.mp hy
              refine of_decide_eq_true hne ((hj y hy).mpr ?_)
              exact List.inj_on_of_nodup_map hdistinct hy hx (hfd.trans hd.symm)
  | _ => cases ha

end Label

namespace Moment

variable {m m' : Moment β} {l : RosterLists} {L : List (Label β)} {x : Addition} {fd : Int32}

theorem Moving.absent (hr : Moving m L m') (hm : m.Shows l)
    (h : Label.Absent fd m.roster.added) (hL : ∀ a ∈ L, ¬ Label.Adds fd a) :
    Label.Absent fd m'.roster.added := by
  obtain ⟨-, -, -, hadded⟩ := hm.moving hr
  rw [hadded]
  exact h.foldl_tell hL

theorem Moving.absent_of_removed (hr : Moving m L m') (hm : m.Shows l)
    (h : Label.Removed fd L) : Label.Absent fd m'.roster.added := by
  obtain ⟨L₁, a, L₂, rfl, ha, hL⟩ := h
  induction L₁ generalizing m l with
  | nil =>
      cases hr with
      | step hs hrest =>
          obtain ⟨l', hstep⟩ := hm.moves hs
          refine hrest.absent hstep.shows ?_ hL
          rw [hstep.added]
          refine Label.absent_of_removes hm.distinct ?_ ha
          rintro c outcome rfl
          cases hs with
          | quiet hquiet => cases hquiet
          | endChange hc => exact hm.sound hc
  | cons b L₁ ih =>
      cases hr with
      | step hs hrest =>
          obtain ⟨l', hstep⟩ := hm.moves hs
          exact ih hstep.shows hrest

/-- Without the end of a poll, the record of an addition that was active stands for it. -/
theorem Moving.record_of_activeDuring (hr : Moving m L m') (hm : m.Shows l)
    (hL : ∀ a ∈ L, a.isPolled = false) (hx : ActiveDuring x m.roster.added L) :
    m'.roster.addition? x.tag.index = some x := by
  have hnow : ∀ {m l L}, Moving m L m' → m.Shows l → (∀ a ∈ L, a.isPolled = false) →
      x ∈ m.roster.added → m'.roster.addition? x.tag.index = some x := by
    intro m l L hr hm hL hx
    obtain ⟨hactive, hrecord⟩ := hm.refines.mem_added_iff.mp hx
    exact (hr.occupied hm hL (List.mem_append_left _ hactive)).1.trans hrecord
  induction hr generalizing l with
  | refl m => exact hnow (.refl m) hm hL hx
  | step hs hrest ih =>
      rcases hx with hx | hx
      · exact hnow (.step hs hrest) hm hL hx
      · obtain ⟨l', hstep⟩ := hm.moves hs
        exact ih hstep.shows (List.forall_mem_cons.mp hL).2 (hstep.added ▸ hx) hnow

end Moment

/-! ### Tags in a poll -/

variable [Registry β]

/-- An adding of a record with this tag fails that makes more than one registration. -/
def Label.Tears (t : Tag) : Label β → Prop
  | ended (.adding x) (.failed _) => x.tag = t ∧ 1 < (wanted (β := β) x).length
  | _ => False

/-- An adding of a record with this tag has failed that makes more than one registration. -/
def Torn (t : Tag) (L : List (Label β)) : Prop := ∃ a ∈ L, a.Tears t

namespace Scene

variable {ok : Tag → Prop} {t : Tag} {v v' : Scene β} {a : Act β} {A : List (Act β)}
  {l : RosterLists}

/-- A tag is accounted for, or it is that of an adding in progress, which will not fail any more or
makes more than one registration. -/
def Known (ok : Tag → Prop) (v : Scene β) (t : Tag) : Prop :=
  ok t ∨ ∃ x task, v.change = some (.adding x, some task) ∧ x.tag = t ∧
    (1 < (wanted (β := β) x).length ∨ task.strand.Succeeds)

theorem Known.congr (h : v.Known ok t) (hchange : v'.change = v.change) : v'.Known ok t := by
  rwa [Known, hchange]

/-- Without a call of the facility for a change, nothing is about to be registered. -/
theorem Known.of_idle (h : v.Known ok t) (hidle : v.change.bind Prod.snd = none) : ok t := by
  refine h.resolve_right ?_
  rintro ⟨x, task, hc, -⟩
  rw [hc] at hidle
  cases hidle

/-- What is about to be registered stays so until it is active or torn, or is left behind. -/
theorem Known.step [Turns β] {W : Host β → Host β → Prop} (hm : v.moment.Shows l)
    (hs : Step W v a v') (hactive : ∀ x ∈ a.label.tell v.roster.added, ok x.tag)
    (hleft : ∀ t, a.label.LeavesBehind v.roster.added t → ok t) (htorn : ∀ t, a.label.Tears t → ok t)
    (h : v.Known ok t) : v'.Known ok t := by
  cases hs with
  | beginAdd d i id hb =>
      have hnone := Option.map_eq_none_iff.mp (hm.change_eq_none (WatchSet.beginAdd_eq_ok hb).1)
      exact .inl (h.of_idle (by rw [hnone]; rfl))
  | beginRemove d hb =>
      have hnone := Option.map_eq_none_iff.mp (hm.change_eq_none (WatchSet.beginRemove_eq_ok hb).1)
      exact .inl (h.of_idle (by rw [hnone]; rfl))
  | callChange hc => exact .inl (h.of_idle (by rw [hc]; rfl))
  | turnChange hc =>
      refine h.imp_right ?_
      rintro ⟨x, task, hx, ht, hend⟩
      obtain ⟨rfl, htask⟩ := Prod.mk.inj (Option.some.inj (hc.symm.trans hx))
      obtain rfl := Option.some.inj htask
      exact ⟨x, _, rfl, ht, hend.imp_right fun hsucceeds => (hsucceeds _ trivial).2⟩
  | @endChange c serial outcome hc =>
      refine .inl (h.elim id ?_)
      rintro ⟨x, task, hx, rfl, hend⟩
      obtain ⟨rfl, htask⟩ := Prod.mk.inj (Option.some.inj (hc.symm.trans hx))
      obtain rfl := Option.some.inj htask
      cases outcome with
      | done value => exact hactive x (List.mem_append_right _ List.mem_cons_self)
      | halted cause => exact hleft _ rfl
      | failed cause =>
          rcases hend with hmany | hsucceeds
          · exact htorn _ ⟨rfl, hmany⟩
          · exact absurd rfl (hsucceeds cause)
  | _ => exact h.congr rfl

variable [TaggedRegistry β]

/-- The tags of the registrations are known. -/
theorem Accounted.known (h : v.Accounted ok) (hactive : ∀ x ∈ v.roster.added, ok x.tag)
    (ht : t ∈ v.set.host.tags) : v.Known ok t := by
  obtain ⟨e, he, rfl⟩ := List.mem_map.mp ht
  have hadded : (∃ x ∈ v.roster.added, e ∈ wanted x) → ok (tag e) := by
    rintro ⟨x, hx, hex⟩
    exact tag_wanted x e hex ▸ hactive x hx
  unfold Accounted at h
  split at h
  · rename_i c task hc
    rcases h.midway.2 e he with hold | hleft | ⟨x, rfl, hex, hend⟩
    · exact .inl (hadded hold)
    · exact .inl hleft
    · exact .inr ⟨x, task, hc, (tag_wanted x e hex).symm, hend⟩
  · exact .inl ((h.2 e he).elim hadded id)

variable [Turns β] [TracedTurns β]

/-- What a poll in progress returns, now or later, has known tags. -/
def PollCites (ok : Tag → Prop) (v : Scene β) : Prop :=
  ∀ serial marker timeout call q, v.poll = some ⟨serial, marker, timeout, some ⟨call, q⟩⟩ →
    q.Cites Quiet (v.Known ok)

/-- **One step.**  A wait that takes a turn comes across the registrations that are there, and their
tags are known. -/
theorem PollCites.step (hm : v.moment.Shows l) (hquiet : Quiet v.set.host) (hacc : v.Accounted ok)
    (hactive : ∀ x ∈ v.roster.added, ok x.tag)
    (hactive' : ∀ x ∈ a.label.tell v.roster.added, ok x.tag)
    (hleft : ∀ t, a.label.LeavesBehind v.roster.added t → ok t) (htorn : ∀ t, a.label.Tears t → ok t)
    (h : v.PollCites ok) (hs : Step Calm v a v') : v'.PollCites ok := by
  have hknown : ∀ t, v.Known ok t → v'.Known ok t := fun t =>
    Known.step hm hs hactive' hleft htorn
  cases hs with
  | beginPoll | endPoll => exact nofun
  | callWait hp | waitAgain remaining hp =>
      rintro serial marker timeout call q ⟨⟩
      exact (TracedTurns.cites _ _ _).mono fun _ => False.elim
  | turnWait hp =>
      rintro serial marker timeout call q ⟨⟩
      refine (h _ _ _ _ _ hp _ hquiet).mono fun t ht => ?_
      exact hknown t (ht.elim id (hacc.known hactive))
  | timeUp hp =>
      rintro serial marker timeout call q ⟨⟩
      have hcites := h _ _ _ _ _ hp
      exact hcites
  | _ => exact fun serial marker timeout call q hp => (h _ _ _ _ _ hp).mono hknown

/-- A poll reports what it came across, and finds no change in progress. -/
theorem PollCites.reported {W : Host β → Host β → Prop} {n marker : Nat}
    {result : Outcome SystemError Unit × NativeBuffer} {answer : Outcome Error Nat × List Event}
    (h : v.PollCites ok) (hm : v.moment.Shows l)
    (hend : Step W v (.part (.polled n marker result answer)) v') {event : Event}
    (he : event ∈ answer.2) :
    ∃ x, v.roster.addition? x.tag.index = some x ∧ event.descriptor = x.descriptor ∧
      event.id = x.id ∧ ok x.tag := by
  cases hend with
  | endPoll hp hfinish =>
      obtain ⟨hfree, e, hmem, hevent⟩ := WatchSet.mem_finishPoll hfinish he
      obtain ⟨x, hrecord, htag, hd, hid⟩ := Roster.event?_eq_some hevent
      have hnone := Option.map_eq_none_iff.mp (hm.change_eq_none hfree)
      refine ⟨x, hrecord, hd, hid, ?_⟩
      rw [htag]
      exact (h _ _ _ _ _ hp e hmem).of_idle (by rw [hnone]; rfl)

/-- **A run.**  A poll comes across no other tags than those of additions that are active in the run
or about to be, that are torn in it, and of registrations that were left behind. -/
theorem PollCites.run (hm : v.moment.Shows l) (hrest : v.Restful) (hacc : v.Accounted ok)
    (hactive : ∀ x, ActiveDuring x v.roster.added (A.map Act.label) → ok x.tag)
    (hleft : ∀ t, LeftBehind t v.roster.added (A.map Act.label) → ok t)
    (htorn : ∀ t, Torn t (A.map Act.label) → ok t) (h : v.PollCites ok)
    (hr : Run Calm v A v') : v'.PollCites ok := by
  induction hr generalizing l with
  | refl v => exact h
  | @step v v₁ v₂ a A hs _ ih =>
      obtain ⟨l', hstep⟩ := hm.moves hs.moves
      have hadded : v₁.roster.added = a.label.tell v.roster.added := hstep.added
      have hleft' := fun t ht => hleft t (.inl ht)
      refine ih hstep.shows (hrest.step hs) (hacc.step hm hrest hs hleft') ?_ ?_ ?_
        (h.step hm hrest.quiet hacc ?_ ?_ hleft' ?_ hs)
      · rw [hadded]
        exact fun x hx => hactive x (.inr hx)
      · rw [hadded]
        exact fun t ht => hleft t (.inr ht)
      · exact fun t ⟨b, hb, ht⟩ => htorn t ⟨b, List.mem_cons_of_mem _ hb, ht⟩
      · exact fun x hx => hactive x (.inl hx)
      · exact fun x hx => hactive x (.inr (activeDuring_of_mem _ hx))
      · exact fun t ht => htorn t ⟨_, List.mem_cons_self, ht⟩

/-! ### What is reported -/

/-- In every run that begins with a new set, no registration and a quiet host, an event that a poll
reports is for an addition that is active at some moment from the beginning of the poll to its end,
unless the tag is excused by the steps before the poll and those of the poll.  In particular a
descriptor is not reported that was removed before the poll, or never added, and is not added during
the poll, unless the tag of a record of it is excused. -/
structure ReportsActive (β : Type) [Facility β] [Turns β] [Registry β] [TaggedRegistry β]
    [TracedTurns β] (capacity : Nat) (threadSafe : Bool)
    (Excused : List (Label β) → List (Label β) → Tag → Prop) : Prop where
  /-- A call that nobody disturbs is a call of the set. -/
  whole : WholeCalls β
  active : ∀ (host : Host β) (A₀ A : List (Act β)) (v₀ v₁ v₂ v₃ : Scene β) (n marker marker' : Nat)
    (result : Outcome SystemError Unit × NativeBuffer) (answer : Outcome Error Nat × List Event),
    host.entries = [] → Quiet host → Run Calm (start host capacity threadSafe) A₀ v₀ →
    Step Calm v₀ (.part (.marked n marker)) v₁ → Run Calm v₁ A v₂ →
    Step Calm v₂ (.part (.polled n marker' result answer)) v₃ →
      (∀ event ∈ answer.2, ∃ x, v₂.roster.addition? x.tag.index = some x ∧
        event.descriptor = x.descriptor ∧ event.id = x.id ∧
        (ActiveDuring x v₀.roster.added (A.map Act.label) ∨
          Excused (A₀.map Act.label) (A.map Act.label) x.tag)) ∧
      ∀ fd, (Label.Removed fd (A₀.map Act.label) ∨ ∀ a ∈ A₀, ¬ Label.Adds fd a.label) →
        (∀ a ∈ A, ¬ Label.Adds fd a.label) →
        (∀ x, v₂.roster.addition? x.tag.index = some x → x.descriptor.fd = fd →
          ¬ Excused (A₀.map Act.label) (A.map Act.label) x.tag) →
        ∀ event ∈ answer.2, event.descriptor.fd ≠ fd

variable [Facility β] {v₀ v₁ v₂ v₃ : Scene β} {A₀ : List (Act β)} {n marker marker' : Nat}
  {result : Outcome SystemError Unit × NativeBuffer} {answer : Outcome Error Nat × List Event}
  {host : Host β} {capacity : Nat} {threadSafe : Bool}

theorem restful_start (hquiet : Quiet host) (capacity : Nat) (threadSafe : Bool) :
    (start host capacity threadSafe).Restful := ⟨hquiet, ruled_ofSet _, nofun⟩

/-- When a poll ends, it has come across additions that were active meanwhile or torn, or were left
behind. -/
theorem pollCites_of_run (hempty : host.entries = []) (hquiet : Quiet host)
    (h₀ : Run Calm (start host capacity threadSafe) A₀ v₀)
    (hmark : Step Calm v₀ (.part (.marked n marker)) v₁) (h₁ : Run Calm v₁ A v₂)
    (hactive : ∀ x, ActiveDuring x v₀.roster.added (A.map Act.label) → ok x.tag)
    (hleft : ∀ t, LeftBehind t [] (A₀.map Act.label ++ A.map Act.label) → ok t)
    (htorn : ∀ t, Torn t (A.map Act.label) → ok t) : v₂.PollCites ok := by
  have hm : (start host capacity threadSafe).moment.Shows {} := Moment.shows_start ..
  obtain ⟨l₀, hm₀, -, hadded₀⟩ := hm.moving h₀.moving
  obtain ⟨l₁, hstep⟩ := hm₀.moves hmark.moves
  have hadded₁ : v₁.roster.added = v₀.roster.added := hstep.added
  have hleft' : ∀ t, LeftBehind t [] (A₀.map Act.label) ∨
      LeftBehind t v₀.roster.added (A.map Act.label) → ok t := fun t ht =>
    hleft t (leftBehind_append.mpr (ht.imp_right fun ht => hadded₀ ▸ ht))
  obtain ⟨hacc₀, hrest₀⟩ := (accounted_start hempty capacity threadSafe).run hm
    (restful_start hquiet capacity threadSafe) h₀ fun t ht => hleft' t (.inl ht)
  -- the poll does not wait yet
  have hready : v₁.PollCites ok := by
    cases hmark with
    | beginPoll timeout hb => exact nofun
  refine PollCites.run hstep.shows (hrest₀.step hmark) (hacc₀.step hm₀ hrest₀ hmark nofun) ?_ ?_
    htorn hready h₁
  · exact hadded₁ ▸ hactive
  · exact fun t ht => hleft' t (.inr (hadded₁ ▸ ht))

/-- The events of a poll are those of additions that are active meanwhile or torn, or were left
behind. -/
theorem reported_of_run (hempty : host.entries = []) (hquiet : Quiet host)
    (h₀ : Run Calm (start host capacity threadSafe) A₀ v₀)
    (hmark : Step Calm v₀ (.part (.marked n marker)) v₁) (h₁ : Run Calm v₁ A v₂)
    (hend : Step Calm v₂ (.part (.polled n marker' result answer)) v₃) {event : Event}
    (he : event ∈ answer.2) :
    ∃ x, v₂.roster.addition? x.tag.index = some x ∧ event.descriptor = x.descriptor ∧
      event.id = x.id ∧ (ActiveDuring x v₀.roster.added (A.map Act.label) ∨
        LeftBehind x.tag [] (A₀.map Act.label ++ A.map Act.label) ∨
        Torn x.tag (A.map Act.label)) := by
  obtain ⟨l₀, hm₀, -⟩ := (Moment.shows_start host capacity threadSafe).moving h₀.moving
  obtain ⟨l₁, hstep⟩ := hm₀.moves hmark.moves
  have hadded₁ : v₁.roster.added = v₀.roster.added := hstep.added
  obtain ⟨l₂, -, -, hm₂, -, hL⟩ := hm₀.window_of_poll hmark.moves h₁.moving hend.moves
  have hcites : v₂.PollCites fun t =>
      (∃ x, ActiveDuring x v₀.roster.added (A.map Act.label) ∧ x.tag = t) ∨
        LeftBehind t [] (A₀.map Act.label ++ A.map Act.label) ∨ Torn t (A.map Act.label) :=
    pollCites_of_run hempty hquiet h₀ hmark h₁ (fun x hx => .inl ⟨x, hx, rfl⟩)
      (fun _ ht => .inr (.inl ht)) fun _ ht => .inr (.inr ht)
  obtain ⟨x, hrecord, hd, hid, ⟨y, hy, htag⟩ | hexcused⟩ := hcites.reported hm₂ hend he
  · -- the record of an addition that was active still stands for it
    have hy' : v₂.roster.addition? y.tag.index = some y :=
      h₁.moving.record_of_activeDuring hstep.shows hL (show ActiveDuring y v₁.roster.added _ from
        hadded₁ ▸ hy)
    rw [htag, hrecord] at hy'
    exact ⟨x, hrecord, hd, hid, .inl (Option.some.inj hy' ▸ hy)⟩
  · exact ⟨x, hrecord, hd, hid, .inr hexcused⟩

theorem reportsActive_of_traced (β : Type) [Facility β] [Turns β] [FaithfulTurns β] [Registry β]
    [TaggedRegistry β] [TracedTurns β] (capacity : Nat) (threadSafe : Bool) :
    ReportsActive β capacity threadSafe fun L₀ L t => LeftBehind t [] (L₀ ++ L) ∨ Torn t L where
  whole := .of_faithful β
  active host A₀ A v₀ v₁ v₂ v₃ n marker marker' result answer hempty hquiet h₀
      hmark h₁ hend := by
    have hreported : ∀ event ∈ answer.2, _ := fun event =>
      reported_of_run hempty hquiet h₀ hmark h₁ hend
    refine ⟨hreported, fun fd habsent hA hexcused event he hfd => ?_⟩
    obtain ⟨x, hrecord, hd, -, hactive | hx⟩ := hreported event he
    · have habsent₀ : Label.Absent fd v₀.roster.added := by
        have hm := Moment.shows_start host capacity threadSafe
        refine habsent.elim (h₀.moving.absent_of_removed hm) fun hA₀ => ?_
        exact h₀.moving.absent hm nofun (List.forall_mem_map.mpr hA₀)
      exact habsent₀.activeDuring (List.forall_mem_map.mpr hA) hactive (hd ▸ hfd)
    · exact hexcused x hrecord (hd ▸ hfd) hx

/-- A facility that makes one registration for each addition tears none. -/
theorem ReportsActive.of_single [FaithfulTurns β] (hone : ∀ x, (wanted (β := β) x).length = 1) :
    ReportsActive β capacity threadSafe fun L₀ L t => LeftBehind t [] (L₀ ++ L) := by
  have hnone : ∀ (L : List (Label β)) t, ¬ Torn t L := by
    rintro L t ⟨a, -, ha⟩
    unfold Label.Tears at ha
    split at ha
    · exact Nat.lt_irrefl _ (hone _ ▸ ha.2)
    · exact ha
  have hsame : (fun L₀ L t => LeftBehind (β := β) t [] (L₀ ++ L)) =
      fun L₀ L t => LeftBehind t [] (L₀ ++ L) ∨ Torn t L := by
    funext L₀ L t
    exact propext (or_iff_left (hnone L t)).symm
  exact hsame ▸ reportsActive_of_traced β capacity threadSafe

/-- **Who is reported.**  Whatever is added and removed while a poll waits, whichever turns the calls
take, and whichever of them fail, its events are for descriptors that are active at some moment of the
poll, or whose record was left registered: an unwatch of the active descriptor failed, or a rollback
of its watch did, or the watch was given up.  With `kqueue` they may also be for a descriptor whose
adding failed during the poll, if it has two filters. -/
theorem reports_active_or_left_behind (capacity : Nat) (threadSafe : Bool) :
    ReportsActive Epoll capacity threadSafe (fun L₀ L t => LeftBehind t [] (L₀ ++ L)) ∧
      ReportsActive Poll capacity threadSafe (fun L₀ L t => LeftBehind t [] (L₀ ++ L)) ∧
      ReportsActive Kqueue capacity threadSafe
        (fun L₀ L t => LeftBehind t [] (L₀ ++ L) ∨ Torn t L) :=
  ⟨.of_single fun _ => rfl, .of_single fun _ => rfl,
    reportsActive_of_traced Kqueue capacity threadSafe⟩

/-- While a poll waits, an invalid descriptor is refused, the descriptor of the poll is removed and
another one added.  The one that was removed is reported, and the one that was refused is not. -/
theorem reports_active_or_left_behind_refused :
    ∃ (A₀ A : List (Act Poll)) (v₀ v₁ v₂ v₃ : Scene Poll)
      (result : Outcome SystemError Unit × NativeBuffer) (answer : Outcome Error Nat × List Event),
      Run Calm (start ⟨{}, { levels := [(51, 1)], invalid := [53] }, #[]⟩ 4 true) A₀ v₀ ∧
      Step Calm v₀ (.part (.marked 0 0)) v₁ ∧ Run Calm v₁ A v₂ ∧
      Step Calm v₂ (.part (.polled 0 0 result answer)) v₃ ∧
      answer = (.done 1, [⟨.socket 51, ⟨7⟩, .readable⟩]) ∧
      (∃ x, x.descriptor = .socket 51 ∧ ActiveDuring x v₀.roster.added (A.map Act.label)) ∧
      ∀ event ∈ answer.2, event.descriptor.fd ≠ 53 := by
  obtain ⟨A₀, A, v₀, v₁, v₂, v₃, result, answer, h₀, hmark, h₁, hend, hanswer, hA₀, hA, hclean⟩ :
      ∃ (A₀ A : List (Act Poll)) (v₀ v₁ v₂ v₃ : Scene Poll)
        (result : Outcome SystemError Unit × NativeBuffer)
        (answer : Outcome Error Nat × List Event),
        Run Calm (start ⟨{}, { levels := [(51, 1)], invalid := [53] }, #[]⟩ 4 true) A₀ v₀ ∧
        Step Calm v₀ (.part (.marked 0 0)) v₁ ∧ Run Calm v₁ A v₂ ∧
        Step Calm v₂ (.part (.polled 0 0 result answer)) v₃ ∧
        answer = (.done 1, [⟨.socket 51, ⟨7⟩, .readable⟩]) ∧
        (∀ a ∈ A₀, ¬ Label.Adds 53 a.label) ∧ (∀ a ∈ A, ¬ Label.Adds 53 a.label) ∧
        ∀ a ∈ A₀.map Act.label ++ A.map Act.label, a.Fine ∧ a.Clean := by
    refine ⟨_, _, _, _, _, _, _, _,
      .step (.beginAdd (.socket 51) .readable ⟨7⟩ rfl) <| .step (.callChange rfl) <|
      .step (.turnChange rfl) <| .step (.turnChange rfl) <| .step (.turnChange rfl) <|
      .step (.turnChange rfl) <| .step (.endChange rfl) <| .refl _,
      .beginPoll none rfl,
      .step (.callWait rfl) <| .step (.turnWait rfl) <| .step (.turnWait rfl) <|
      .step (.beginAdd (.socket 53) .readable ⟨9⟩ rfl) <| .step (.callChange rfl) <|
      .step (.turnChange rfl) <| .step (.endChange rfl) <|
      .step (.beginRemove (.socket 51) rfl) <| .step (.callChange rfl) <|
      .step (.turnChange rfl) <| .step (.turnChange rfl) <| .step (.endChange rfl) <|
      .step (.beginAdd (.socket 52) .readable ⟨8⟩ rfl) <| .step (.callChange rfl) <|
      .step (.turnChange rfl) <| .step (.turnChange rfl) <| .step (.turnChange rfl) <|
      .step (.turnChange rfl) <| .step (.endChange rfl) <|
      .step (.turnWait rfl) <| .step (.turnWait rfl) <| .refl _,
      .endPoll rfl rfl, rfl, ?_, ?_, ?_⟩
    · simp only [List.forall_mem_cons]
      exact ⟨id, id, id, id, id, id, by rintro ⟨⟩, by rintro a ⟨⟩⟩
    · simp only [List.forall_mem_cons]
      exact ⟨id, id, id, id, id, id, id, id, id, id, id, id, id, id, id, id, id, id, by rintro ⟨⟩, id,
        id, by rintro a ⟨⟩⟩
    · simp only [List.map_cons, List.map_nil, List.cons_append, List.nil_append,
        List.forall_mem_cons]
      exact ⟨⟨trivial, trivial⟩, ⟨trivial, trivial⟩, ⟨trivial, rfl⟩, ⟨trivial, rfl⟩, ⟨trivial, rfl⟩,
        ⟨trivial, rfl⟩, ⟨rfl, trivial⟩, ⟨trivial, trivial⟩, ⟨trivial, trivial⟩, ⟨trivial, trivial⟩,
        ⟨trivial, trivial⟩, ⟨trivial, trivial⟩, ⟨trivial, rfl⟩, ⟨rfl, trivial⟩, ⟨trivial, trivial⟩,
        ⟨trivial, trivial⟩, ⟨trivial, rfl⟩, ⟨trivial, rfl⟩, ⟨rfl, rfl⟩, ⟨trivial, trivial⟩,
        ⟨trivial, trivial⟩, ⟨trivial, rfl⟩, ⟨trivial, rfl⟩, ⟨trivial, rfl⟩, ⟨trivial, rfl⟩, ⟨rfl,
        trivial⟩, ⟨trivial, trivial⟩, ⟨trivial, trivial⟩, by rintro a ⟨⟩⟩
  have hnothing : ∀ t, ¬ LeftBehind t [] (A₀.map Act.label ++ A.map Act.label) := fun t =>
    not_leftBehind hclean
  obtain ⟨hactive, habsent⟩ := (reports_active_or_left_behind 4 true).2.1.active _ A₀ A v₀ v₁ v₂
    v₃ 0 0 0 result answer rfl trivial h₀ hmark h₁ hend
  refine ⟨A₀, A, v₀, v₁, v₂, v₃, result, answer, h₀, hmark, h₁, hend, hanswer, ?_, ?_⟩
  · obtain ⟨x, -, hd, -, hx⟩ := hactive ⟨.socket 51, ⟨7⟩, .readable⟩ (by rw [hanswer]; simp)
    exact ⟨x, hd.symm, hx.resolve_right (hnothing x.tag)⟩
  · exact habsent 53 (.inr hA₀) hA fun x _ _ => hnothing x.tag

/-- A descriptor is added, and then removed although it cannot be unwatched.  Its record is not
used again yet, so the next poll reports it. -/
theorem reports_removed : ¬ ReportsActive Epoll 4 false fun _ _ _ => False := by
  intro h
  obtain ⟨A₀, A, v₀, v₁, v₂, v₃, result, answer, h₀, hmark, h₁, hend, hanswer, hA₀, hA⟩ :
      ∃ (A₀ A : List (Act Epoll)) (v₀ v₁ v₂ v₃ : Scene Epoll)
        (result : Outcome SystemError Unit × NativeBuffer)
        (answer : Outcome Error Nat × List Event),
        Run Calm (start ⟨⟨⟨1000⟩⟩,
          { live := [1000]
            levels := [(5, 1)]
            verdicts := [(.epollCtl, .pass), (.epollCtl, .fail 12 (by decide))] }, #[]⟩ 4 false)
          A₀ v₀ ∧
        Step Calm v₀ (.part (.marked 0 1)) v₁ ∧ Run Calm v₁ A v₂ ∧
        Step Calm v₂ (.part (.polled 0 1 result answer)) v₃ ∧
        answer = (.done 1, [⟨.socket 5, ⟨5⟩, .readable⟩]) ∧
        Label.Removed 5 (A₀.map Act.label) ∧ ∀ a ∈ A, ¬ Label.Adds 5 a.label := by
    refine ⟨_, _, _, _, _, _, _, _,
      .step (.beginAdd (.socket 5) .readable ⟨5⟩ rfl) <| .step (.callChange rfl) <|
      .step (.turnChange rfl) <| .step (.endChange rfl) <|
      .step (.beginRemove (.socket 5) rfl) <| .step (.callChange rfl) <|
      .step (.turnChange rfl) <| .step (.endChange rfl) <| .refl _,
      .beginPoll (some .zero) rfl,
      .step (.callWait rfl) <| .step (.turnWait rfl) <| .step (.turnWait rfl) <| .refl _,
      .endPoll rfl rfl, rfl, ?_, ?_⟩
    · exact ⟨[_, _, _, _, _, _, _], _, [], rfl, ⟨rfl, rfl⟩, by rintro b ⟨⟩⟩
    · simp only [List.forall_mem_cons]
      exact ⟨id, id, id, by rintro a ⟨⟩⟩
  have habsent := (h.active _ A₀ A v₀ v₁ v₂ v₃ 0 1 1 result answer rfl rfl h₀ hmark h₁
    hend).2 5 (.inl hA₀) hA fun _ _ _ => id
  exact habsent ⟨.socket 5, ⟨5⟩, .readable⟩ (by rw [hanswer]; simp) rfl

/-- While a poll waits a descriptor is added.  Its first filter is registered, and the wait answers
with it; then the second one fails, and the first one is deleted again. -/
theorem reports_torn :
    ¬ ReportsActive Kqueue 4 true fun L₀ L t => LeftBehind t [] (L₀ ++ L) := by
  intro h
  obtain ⟨A₀, A, v₀, v₁, v₂, v₃, result, answer, h₀, hmark, h₁, hend, hanswer, hA₀, hA, hclean⟩ :
      ∃ (A₀ A : List (Act Kqueue)) (v₀ v₁ v₂ v₃ : Scene Kqueue)
        (result : Outcome SystemError Unit × NativeBuffer)
        (answer : Outcome Error Nat × List Event),
        Run Calm (start ⟨⟨⟨1000⟩⟩,
          { live := [1000]
            filters := [⟨50, -1, 0, 0⟩]
            verdicts := [(.receipt, .pass), (.receipt, .fail 12 (by decide))] }, #[]⟩ 4 true)
          A₀ v₀ ∧
        Step Calm v₀ (.part (.marked 0 0)) v₁ ∧ Run Calm v₁ A v₂ ∧
        Step Calm v₂ (.part (.polled 0 0 result answer)) v₃ ∧
        answer = (.done 1, [⟨.socket 50, ⟨7⟩, .readable⟩]) ∧
        Label.Absent 50 v₀.roster.added ∧ (∀ a ∈ A.map Act.label, ¬ Label.Adds 50 a) ∧
        ∀ a ∈ A₀.map Act.label ++ A.map Act.label, a.Fine ∧ a.Clean := by
    refine ⟨_, _, _, _, _, _, _, _, .refl _, .beginPoll none rfl,
      .step (.callWait rfl) <| .step (.turnWait rfl) <|
      .step (.beginAdd (.socket 50) .both ⟨7⟩ rfl) <| .step (.callChange rfl) <|
      .step (.turnChange rfl) <| .step (.turnWait rfl) <| .step (.turnChange rfl) <|
      .step (.turnChange rfl) <| .step (.endChange rfl) <| .refl _,
      .endPoll rfl rfl, rfl, by rintro x ⟨⟩, ?_, ?_⟩
    · simp only [List.map_cons, List.map_nil, List.forall_mem_cons]
      exact ⟨id, id, id, id, id, id, id, id, id, by rintro a ⟨⟩⟩
    · simp only [List.map_cons, List.map_nil, List.nil_append, List.forall_mem_cons]
      exact ⟨⟨trivial, trivial⟩, ⟨trivial, trivial⟩, ⟨trivial, trivial⟩, ⟨trivial, trivial⟩,
        ⟨.intro (by rintro ⟨⟩) trivial, rfl⟩, ⟨trivial, trivial⟩, ⟨.intro (by rintro ⟨⟩) trivial, rfl⟩,
        ⟨.intro (by rintro ⟨⟩) trivial, rfl⟩, ⟨rfl, trivial⟩, by rintro a ⟨⟩⟩
  obtain ⟨x, -, hd, -, hactive | hleft⟩ := (h.active _ A₀ A v₀ v₁ v₂ v₃ 0 0 0 result answer
    rfl rfl h₀ hmark h₁ hend).1 ⟨.socket 50, ⟨7⟩, .readable⟩ (by rw [hanswer]; simp)
  · exact hA₀.activeDuring hA hactive (hd ▸ rfl)
  · exact not_leftBehind hclean hleft

/-- **That a descriptor is not active is not enough.**  With `epoll` a poll may report a descriptor that
was removed before it began.  With `kqueue` it may even report one that was never active although
nothing was left behind. -/
theorem reports_left_behind :
    ¬ (ReportsActive Epoll 4 false fun _ _ _ => False) ∧
      ¬ ReportsActive Kqueue 4 true fun L₀ L t => LeftBehind t [] (L₀ ++ L) :=
  ⟨reports_removed, reports_torn⟩

end Scene

end Readiness
