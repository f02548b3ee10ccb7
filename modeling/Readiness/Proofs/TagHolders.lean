import Readiness.Facility.Scripted
import Readiness.Proofs.PollWindow
import Readiness.Proofs.TagPeriods

/-! # Whom an event belongs to

A facility may return any value as a tag: one that was handed out long ago, the same one twice, or
one that nobody ever got.

* **Holders** (`Moment.Holds`).  An adding holds its record until another adding takes it, however
  the adding ended.  The record at an index always stands for the adding that holds it
  (`Moment.addition?_run`), so a tag has at most one holder (`Moment.holderOf?`).
* **Events** (`Moment.reports_go_to_holders`).  What a native event is reported as depends on its
  own readiness and on the holder of its tag only.  Without a holder it is dropped. -/

namespace Readiness

/-! ### What a tag names -/

namespace Roster

/-- The addition that a tag names: what the record at its index stands for, unless that has another
tag by now. -/
def named? (roster : Roster) (t : Tag) : Option Addition :=
  (roster.addition? t.index).filter (·.tag = t)

/-- A tag resolves to the record of the addition that it names. -/
theorem resolve?_map_addition (roster : Roster) (t : Tag) :
    (roster.resolve? t).map (·.addition t.index) = roster.named? t := by
  have htag : ∀ r : Record, (r.addition t.index).tag = t ↔ r.generation = t.generation := by
    intro r
    simp [Record.addition, Tag.ext_iff_parts]
  unfold named? resolve? addition? Arena.addition? record?
  cases roster.records[t.index.toNat]? with
  | none => rfl
  | some r => simp [Option.filter, htag, apply_ite (Option.map _)]

/-- What a native event is reported as is what the addition says that its tag names. -/
theorem event?_eq_bind (roster : Roster) (e : NativeEvent) :
    roster.event? e = (roster.named? e.tag).bind (·.event? e.readiness) := by
  rw [← resolve?_map_addition, event?]
  cases roster.resolve? e.tag <;> rfl

/-- The readiness of an event whose tag names nothing is not noted anywhere. -/
theorem noteReadiness_of_none {roster : Roster} {e : NativeEvent}
    (h : roster.named? e.tag = none) : roster.noteReadiness e = roster := by
  rw [← resolve?_map_addition, Option.map_eq_none_iff] at h
  rw [noteReadiness, h]

/-- Noting the readiness of some events only concerns those whose tag names an addition. -/
theorem foldl_noteReadiness_eq (roster : Roster) (events : List NativeEvent) :
    events.foldl noteReadiness roster =
      (events.filter fun e => (roster.named? e.tag).isSome).foldl noteReadiness roster := by
  suffices h : ∀ roster' : Roster, (∀ i, roster'.addition? i = roster.addition? i) →
      events.foldl noteReadiness roster' =
        (events.filter fun e => (roster.named? e.tag).isSome).foldl noteReadiness roster' from
    h roster fun _ => rfl
  induction events with
  | nil => exact fun _ _ => rfl
  | cons e rest ih =>
      intro roster' hsame
      have hnext := ih (roster'.noteReadiness e) fun i =>
        (addition?_noteReadiness ..).trans (hsame i)
      rw [List.foldl_cons, hnext]
      cases hnamed : roster.named? e.tag with
      | none =>
          have hnone : roster'.named? e.tag = none := by rw [named?, hsame, ← named?, hnamed]
          rw [List.filter_cons_of_neg (by simp [hnamed]), noteReadiness_of_none hnone]
      | some x => rw [List.filter_cons_of_pos (by simp [hnamed]), List.foldl_cons]

end Roster

/-- An event never has more than the directions that were asked for, and error and hang-up. -/
theorem Conditions.contains_mask (r : Conditions) (i : Interests) :
    (ofInterests i ||| error ||| hup).contains (r.mask i) = true := by
  refine beq_iff_eq.mpr (congrArg Conditions.mk ?_)
  show _ &&& (r.bits &&& _) = _
  rw [UInt8.and_comm, UInt8.and_assoc, UInt8.and_self]

theorem Addition.event?_eq_some {x : Addition} {readiness : Conditions} {event : Event}
    (h : x.event? readiness = some event) :
    event = ⟨x.descriptor, x.id, readiness.mask x.interests⟩ := by
  unfold event? at h
  split at h
  · cases h
  · exact (Option.some.inj h).symm

/-! ### Holders -/

/-- Who holds the record at an index after a step. -/
def Label.hold {β : Type} (i : UInt32) : Label β → Option Addition → Option Addition
  | began (.adding x), held => if i = x.tag.index then some x else held
  | _, held => held

theorem Label.hold_eq_some_iff {β : Type} {a : Label β} {i : UInt32} {held : Option Addition}
    {x : Addition} : a.hold i held = some x ↔ (x.tag.index = i ∧ a = .began (.adding x)) ∨
      (held = some x ∧ ∀ y, a = .began (.adding y) → y.tag.index ≠ i) := by
  unfold hold
  split <;> grind

namespace Moment

variable {β : Type} {m m' : Moment β} {a : Label β} {l : RosterLists} {L : List (Label β)}
  {x : Addition} {t : Tag} {i : UInt32}

/-- The adding of `x` took its record, and no other adding took it since. -/
def Holds (x : Addition) (L : List (Label β)) : Prop :=
  ∃ L' L'', L = L' ++ .began (.adding x) :: L'' ∧
    ∀ y, .began (.adding y) ∈ L'' → y.tag.index ≠ x.tag.index

/-- Who holds the record at an index. -/
def holder? (L : List (Label β)) (i : UInt32) : Option Addition :=
  L.foldl (fun held a => a.hold i held) none

/-- The adding that was handed out a tag, if it still holds its record. -/
def holderOf? (L : List (Label β)) (t : Tag) : Option Addition :=
  (holder? L t.index).filter (·.tag = t)

theorem not_holds_nil (x : Addition) : ¬ Holds (β := β) x [] := by
  rintro ⟨L', L'', he, -⟩
  simp at he

theorem holds_cons_iff : Holds x (a :: L) ↔ Holds x L ∨
    (a = .began (.adding x) ∧ ∀ y, .began (.adding y) ∈ L → y.tag.index ≠ x.tag.index) := by
  constructor
  · rintro ⟨L', L'', he, hlater⟩
    cases L' with
    | nil =>
        obtain ⟨rfl, rfl⟩ := List.cons.inj he
        exact .inr ⟨rfl, hlater⟩
    | cons b L' =>
        obtain ⟨rfl, rfl⟩ := List.cons.inj he
        exact .inl ⟨L', L'', rfl, hlater⟩
  · rintro (⟨L', L'', rfl, hlater⟩ | ⟨rfl, hlater⟩)
    · exact ⟨a :: L', L'', rfl, hlater⟩
    · exact ⟨[], L, rfl, hlater⟩

/-- After some steps a record is held by an adding among them, or by whom it was held before if no
adding took it. -/
theorem foldl_hold_eq_some_iff {held : Option Addition} :
    L.foldl (fun held a => a.hold i held) held = some x ↔
      (x.tag.index = i ∧ Holds x L) ∨
        (held = some x ∧ ∀ y, .began (.adding y) ∈ L → y.tag.index ≠ i) := by
  induction L generalizing held with
  | nil => simp [not_holds_nil]
  | cons a rest ih =>
      rw [List.foldl_cons, ih, holds_cons_iff, Label.hold_eq_some_iff]
      grind

/-- The record at an index is held by the adding that took it last. -/
theorem holder?_eq_some_iff : holder? L i = some x ↔ x.tag.index = i ∧ Holds x L := by
  rw [holder?, foldl_hold_eq_some_iff]
  simp

theorem holderOf?_eq_some_iff : holderOf? L t = some x ↔ x.tag = t ∧ Holds x L := by
  rw [holderOf?, Option.filter_eq_some_iff, holder?_eq_some_iff, decide_eq_true_iff]
  constructor
  · rintro ⟨⟨-, hx⟩, rfl⟩
    exact ⟨rfl, hx⟩
  · rintro ⟨rfl, hx⟩
    exact ⟨⟨rfl, hx⟩, rfl⟩

variable [Facility β] {W : Host β → Host β → Prop}

/-- A step changes what a record stands for only if an adding takes it. -/
theorem Shows.addition?_step (h : m.Shows l) (hs : Step W m a m') (i : UInt32) :
    m'.roster.addition? i = a.hold i (m.roster.addition? i) := by
  cases hs with
  | beginAdd d f id hb =>
      obtain ⟨-, -, -, roster, ha, rfl⟩ := WatchSet.beginAdd_eq_ok hb
      exact h.refines.addition?_allocate ha i
  | beginRemove d hb =>
      obtain ⟨-, -, -, rfl⟩ := WatchSet.beginRemove_eq_ok hb
      rfl
  | @endChange c outcome hc =>
      obtain ⟨-, -, -, -, -, hsame⟩ :=
        (h.change c (by rw [hc]; rfl)).settle (β := β) h.refines h.distinct outcome
      rw [roster, Change.roster_finish]
      exact hsame i
  | beginPoll timeout hb =>
      obtain ⟨-, -, -, rfl⟩ := WatchSet.beginPoll_eq_ok hb
      rfl
  | @endPoll serial marker timeout result answer s hp he =>
      obtain ⟨-, -, ⟨-, hroster, -⟩ | ⟨-, -, hroster, -⟩⟩ := WatchSet.finishPoll_eq he
      · rw [roster, hroster]
        rfl
      · rw [roster, hroster, Lock.value_release, Roster.addition?_reclaim]
        exact (h.refines.noteAll _).2 i
  | destroy => rw [roster, WatchSet.roster_destroy]; rfl
  | _ => rfl

/-- The record at an index stands for the adding that holds it. -/
theorem Shows.addition?_run (h : m.Shows l) (hr : Run W m L m') (i : UInt32) :
    m'.roster.addition? i = L.foldl (fun held a => a.hold i held) (m.roster.addition? i) := by
  induction hr generalizing l with
  | refl m => rfl
  | step hs _ ih =>
      obtain ⟨l₁, hstep⟩ := h.step hs
      rw [ih hstep.shows, h.addition?_step hs, List.foldl_cons]

/-! ### Reports -/

/-- What a native event is reported as: the holder of its tag decides. -/
def report? (L : List (Label β)) (e : NativeEvent) : Option Event :=
  (holderOf? L e.tag).bind (·.event? e.readiness)

/-- In every run from a new set, a tag names its holder. -/
theorem named?_run {host : Host β} {capacity : Nat} {threadSafe : Bool}
    (hr : Run W (start host capacity threadSafe) L m) (t : Tag) :
    m.roster.named? t = holderOf? L t := by
  rw [Roster.named?, (shows_start host capacity threadSafe).addition?_run hr]
  rfl

/-- **Reports go to holders.**  Take any run from a new set that ends with the end of a poll,
whatever the facility returned.

* An event that is reported comes from a native event whose tag has a holder.  It has the
  descriptor and the identifier of the holder, and the readiness that is left of the native event
  by the interests of the holder, which is at most those, error and hang-up.
* A native event whose tag has no holder is dropped, and no record changes for it.
* So, unless the poll is given up, it reports what the holders make of the native events, one by
  one, and notes the readiness of those that have a holder before it reclaims. -/
theorem reports_go_to_holders {host : Host β} {capacity : Nat} {threadSafe : Bool}
    {n marker : Nat} {result : Outcome SystemError Unit × NativeBuffer}
    {answer : Outcome Error Nat × List Event}
    (hr : Run W (start host capacity threadSafe) L m)
    (hs : Step W m (.polled n marker result answer) m') :
    (∀ event ∈ answer.2, ∃ e ∈ result.2.reported, ∃ x, x.tag = e.tag ∧ Holds x L ∧
      event = ⟨x.descriptor, x.id, e.readiness.mask x.interests⟩ ∧
      (.ofInterests x.interests ||| .error ||| .hup : Conditions).contains event.readiness) ∧
    (∀ e : NativeEvent, (∀ x, x.tag = e.tag → ¬ Holds x L) →
      m.roster.event? e = none ∧ m.roster.noteReadiness e = m.roster) ∧
    (answer.1.isHalted = false →
      answer.2 = (WatchSet.considered result.2 result.1).filterMap (report? L) ∧
      m'.roster = (((WatchSet.considered result.2 result.1).filter fun e =>
        (holderOf? L e.tag).isSome).foldl Roster.noteReadiness m.roster).reclaim marker) ∧
    (answer.1.isHalted = true → answer.2 = [] ∧ m'.roster = m.roster) := by
  obtain ⟨s, hfinish, rfl⟩ := hs.eq_of_polled
  obtain ⟨-, -, hend⟩ := WatchSet.finishPoll_eq hfinish
  have hnamed := named?_run hr
  have hevent : ∀ e, m.roster.event? e = report? L e := by
    intro e
    rw [Roster.event?_eq_bind, hnamed, report?]
  refine ⟨?_, ?_, ?_, ?_⟩
  · intro event he
    obtain ⟨-, e, hmem, hreport⟩ := WatchSet.mem_finishPoll hfinish he
    obtain ⟨x, hx, hxe⟩ := Option.bind_eq_some_iff.mp ((hevent e).symm.trans hreport)
    obtain ⟨htag, hholds⟩ := holderOf?_eq_some_iff.mp hx
    obtain rfl := Addition.event?_eq_some hxe
    exact ⟨e, hmem, x, htag, hholds, rfl, Conditions.contains_mask ..⟩
  · intro e hnone
    have hfree : m.roster.named? e.tag = none := by
      rw [hnamed, Option.eq_none_iff_forall_ne_some]
      intro x hx
      obtain ⟨htag, hholds⟩ := holderOf?_eq_some_iff.mp hx
      exact hnone x htag hholds
    refine ⟨?_, Roster.noteReadiness_of_none hfree⟩
    rw [Roster.event?_eq_bind, hfree]
    rfl
  · intro hgoes
    rcases hend with ⟨hhalt, -⟩ | ⟨-, -, hroster, -⟩
    · cases hhalt.symm.trans hgoes
    · refine ⟨(WatchSet.finishPoll_events hfinish hgoes).trans
        (List.filterMap_congr fun e _ => hevent e), (congrArg Lock.value hroster).trans ?_⟩
      simp only [← hnamed]
      rw [Lock.value_release, Roster.foldl_noteReadiness_eq]
      rfl
  · intro hhalt
    rcases hend with ⟨-, hroster, hnone⟩ | ⟨hgoes, -⟩
    · exact ⟨hnone, congrArg Lock.value hroster⟩
    · cases hhalt.symm.trans hgoes

/-- The facility refuses an adding and keeps its tag, and the next adding takes the record again.
Then a wait returns the tag that was refused, a tag that nobody ever got, and the new tag of the
record twice, once with all bits and once with nothing that was asked for.  One event is reported,
for the second adding. -/
theorem reports_go_to_holders_reused :
    ∃ (host : Host Scripted) (L : List (Label Scripted)) (m m' : Moment Scripted)
      (result : Outcome SystemError Unit × NativeBuffer) (answer : Outcome Error Nat × List Event),
      Run (fun _ _ => False) (start host 4 false) L m ∧
      Step (fun _ _ => False) m (.polled 0 0 result answer) m' ∧
      result.2.reported = [⟨.pack 0 0, .readable⟩, ⟨.pack 7 3, .readable⟩, ⟨.pack 0 1, ⟨255⟩⟩,
        ⟨.pack 0 1, .writable⟩] ∧
      answer = (.done 1, [⟨.socket 2, ⟨8⟩, ⟨13⟩⟩]) ∧
      Holds ⟨.pack 0 1, .socket 2, .readable, ⟨8⟩⟩ L ∧
      (m.roster.event? ⟨.pack 0 0, .readable⟩ = none ∧
        m.roster.noteReadiness ⟨.pack 0 0, .readable⟩ = m.roster) ∧
      answer.2 = result.2.reported.filterMap (report? L) := by
  obtain ⟨host, L, m, m', result, answer, hr, hs, hreported, hanswer, hholder, hstale,
      hconsidered⟩ :
      ∃ (host : Host Scripted) (L : List (Label Scripted)) (m m' : Moment Scripted)
        (result : Outcome SystemError Unit × NativeBuffer)
        (answer : Outcome Error Nat × List Event),
        Run (fun _ _ => False) (start host 4 false) L m ∧
        Step (fun _ _ => False) m (.polled 0 0 result answer) m' ∧
        result.2.reported = [⟨.pack 0 0, .readable⟩, ⟨.pack 7 3, .readable⟩,
          ⟨.pack 0 1, ⟨255⟩⟩, ⟨.pack 0 1, .writable⟩] ∧
        answer = (.done 1, [⟨.socket 2, ⟨8⟩, ⟨13⟩⟩]) ∧
        holderOf? L (.pack 0 1) = some ⟨.pack 0 1, .socket 2, .readable, ⟨8⟩⟩ ∧
        holderOf? L (.pack 0 0) = none ∧
        WatchSet.considered result.2 result.1 = result.2.reported := by
    exact ⟨⟨{
        watched := [(1, .pack 0 0)]
        pending := [⟨.pack 0 0, .readable⟩, ⟨.pack 7 3, .readable⟩, ⟨.pack 0 1, ⟨255⟩⟩,
          ⟨.pack 0 1, .writable⟩] }, {}, #[]⟩,
      _, _, _, _, _,
      .step (.beginAdd (.socket 1) .readable ⟨7⟩ rfl) <| .step (.callChange rfl rfl) <|
      .step (.resumeChange rfl rfl) <| .step (.endChange rfl) <|
      .step (.beginAdd (.socket 2) .readable ⟨8⟩ rfl) <| .step (.callChange rfl rfl) <|
      .step (.resumeChange rfl rfl) <| .step (.endChange rfl) <|
      .step (.beginPoll none rfl) <| .step (.callWait rfl rfl) <|
      .step (.resumeWait rfl rfl) <| .refl _,
      .endPoll rfl rfl, rfl, rfl, rfl, rfl, rfl⟩
  obtain ⟨-, hdropped, hequal, -⟩ := reports_go_to_holders hr hs
  refine ⟨host, L, m, m', result, answer, hr, hs, hreported, hanswer,
    (holderOf?_eq_some_iff.mp hholder).2, hdropped ⟨.pack 0 0, .readable⟩ fun x htag hx => ?_,
    hconsidered ▸ (hequal (by rw [hanswer]; rfl)).1⟩
  have hsome := holderOf?_eq_some_iff.mpr ⟨htag, hx⟩
  cases hstale.symm.trans hsome

end Moment

end Readiness
