import Readiness.Facility.Poll
import Readiness.Proofs.MomentLists
import Readiness.Proofs.WordCounters

/-! # The window of a poll

Between taking its marker and its end a poll does not hold the lock on the rings, and other threads
add and remove descriptors as they like.

* **One poll at a time.**  The lock on the buffer keeps all other polls out of the window
  (`Moment.Moving.window`), so nothing is reclaimed in it.
* **Reclaiming is exact** (`Moment.poll_reclaims_exactly`).  When the poll returns, the records that
  were dead at its marker are free, and those retired in its window are dead.
* **Tags stay alive** (`Moment.live_tags_survive`).  The tag of a record that was active at some
  moment in the window resolves at the end of the poll, whatever was added or removed since. -/

namespace Readiness

variable {β : Type}

namespace Label

/-- The record that a step moves to the dead ring. -/
def retired? (a : Label β) : Option UInt32 := a.operation?.bind RosterOperation.retired?

theorem isPolled_of_reclaim {a : Label β} {marker : Nat}
    (h : a.operation? = some (.reclaim marker)) : a.isPolled = true := by
  unfold operation? at h
  split at h <;> first | rfl | cases h

/-- Only the end of a poll reclaims. -/
theorem isReclaim_of_mem {L : List (Label β)} (hL : ∀ a ∈ L, a.isPolled = false) :
    ∀ op ∈ L.filterMap operation?, op.isReclaim = false := by
  intro op hop
  obtain ⟨a, ha, hop⟩ := List.mem_filterMap.mp hop
  cases op with
  | reclaim marker => cases (hL a ha).symm.trans (isPolled_of_reclaim hop)
  | _ => rfl

end Label

namespace Moment

variable {m m' m₀ m₁ m₂ m₃ : Moment β} {a : Label β} {l : RosterLists} {L L₀ L₁ L₂ : List (Label β)}
  {n marker marker' : Nat}

/-- The dead ring from head to tail. -/
def dead (m : Moment β) : List UInt32 := m.roster.dead.forward m.roster.records

/-- The free ring from head to tail. -/
def free (m : Moment β) : List UInt32 := m.roster.free.forward m.roster.records

/-! ### One poll at a time -/

/-- The poll with a serial number is in progress. -/
def InWindow (n marker : Nat) (m : Moment β) : Prop :=
  m.poll.map Polling.ticket = some (n, marker)

/-- The poll with a serial number is over. -/
def Past (n : Nat) (m : Moment β) : Prop :=
  n < m.polls ∧ ∀ marker, ¬ InWindow n marker m

theorem Past.moves (h : Past n m) (hs : Moves m a m') : Past n m' := by
  obtain ⟨hlt, hout⟩ := h
  cases hs with
  | quiet _ _ _ _ hpoll hpolls =>
      refine ⟨hpolls ▸ hlt, fun marker hin => hout marker ?_⟩
      rwa [InWindow, ← hpoll]
  | beginAdd d i id hb => exact ⟨hlt, hout⟩
  | beginRemove d hb => exact ⟨hlt, hout⟩
  | endChange hc => exact ⟨hlt, hout⟩
  | beginPoll timeout hb =>
      refine ⟨Nat.lt_succ_of_lt hlt, fun marker hin => ?_⟩
      exact Nat.ne_of_gt hlt (congrArg Prod.fst (Option.some.inj hin))
  | endPoll hp he => exact ⟨hlt, nofun⟩

theorem Past.moving (h : Past n m) (hr : Moving m L m') : Past n m' := by
  induction hr with
  | refl m => exact h
  | step hs _ ih => exact ih (h.moves hs)

/-- A step leaves the window of a poll only by the end of that poll. -/
theorem InWindow.moves (h : InWindow n marker m) (hm : m.Shows l) (hs : Moves m a m') :
    (InWindow n marker m' ∧ a.isPolled = false) ∨ Past n m' := by
  have hlt : n < m.polls := by
    obtain ⟨p, hp, hticket⟩ := Option.map_eq_some_iff.mp h
    have hserial : p.serial = n := congrArg Prod.fst hticket
    exact hm.serial n (by rw [hp, Option.map_some, hserial])
  cases hs with
  | @quiet _ a ha _ _ _ hpoll _ =>
      refine .inl ⟨hpoll.trans h, ?_⟩
      cases a <;> first | rfl | cases ha
  | beginPoll timeout hb =>
      have hnone := hm.poll_eq_none (WatchSet.beginPoll_eq_ok hb).1
      rw [InWindow, hnone] at h
      cases h
  | endPoll hp he => exact .inr ⟨hlt, nofun⟩
  | _ => exact .inl ⟨h, rfl⟩

/-- As long as a poll is not over, no poll ends, and the poll keeps its marker. -/
theorem Moving.window (hr : Moving m L m') (hm : m.Shows l) (h : InWindow n marker m)
    (hend : ¬ Past n m') : InWindow n marker m' ∧ ∀ a ∈ L, a.isPolled = false := by
  induction hr generalizing l with
  | refl m => exact ⟨h, fun a ha => absurd ha List.not_mem_nil⟩
  | step hs hrest ih =>
      rcases h.moves hm hs with ⟨h', hpolled⟩ | hpast
      · obtain ⟨l', hstep⟩ := hm.moves hs
        obtain ⟨hwindow, hL⟩ := ih hstep.shows h' hend
        exact ⟨hwindow, List.forall_mem_cons.mpr ⟨hpolled, hL⟩⟩
      · exact absurd (hpast.moving hrest) hend

theorem Moves.inWindow_marked (hs : Moves m (.marked n marker) m') :
    InWindow n marker m' ∧ marker = m.roster.retired := by
  cases hs with
  | quiet ha => cases ha
  | beginPoll timeout hb =>
      obtain ⟨-, -, hmarker, -⟩ := WatchSet.beginPoll_eq_ok hb
      exact ⟨rfl, hmarker.symm⟩

/-- The end of a poll is made of what its wait returned, and the poll is over then. -/
theorem Moves.eq_of_polled {result : Outcome SystemError Unit × NativeBuffer}
    {answer : Outcome Error Nat × List Event} (hs : Moves m (.polled n marker result answer) m') :
    InWindow n marker m ∧ ∃ s, m.set.finishPoll marker [] result = (answer, s) ∧
      m' = { m with set := s, poll := none } := by
  cases hs with
  | quiet ha => cases ha
  | endPoll hp he => exact ⟨hp, _, he, rfl⟩

/-- From the start of a poll to its end nothing is reclaimed, and the marker is the number of
records that were retired at its start. -/
theorem Shows.window_of_poll {l₀ : RosterLists}
    {result : Outcome SystemError Unit × NativeBuffer} {answer : Outcome Error Nat × List Event}
    (hm₀ : m₀.Shows l₀) (hmark : Moves m₀ (.marked n marker) m₁) (h₁ : Moving m₁ L m₂)
    (hend : Moves m₂ (.polled n marker' result answer) m₃) :
    ∃ l₂ l₃, l₀.run? (L.filterMap Label.operation?) = some l₂ ∧ m₂.Shows l₂ ∧
      m₂.Advances l₂ (.polled n l₀.retired result answer) m₃ l₃ ∧
      ∀ a ∈ L, a.isPolled = false := by
  obtain ⟨l₁, hstep₁⟩ := hm₀.moves hmark
  obtain rfl : l₀ = l₁ := Option.some.inj hstep₁.lists
  obtain ⟨l₂, hm₂, hrun₂, -⟩ := hstep₁.shows.moving h₁
  obtain ⟨hwindow, hmarker⟩ := hmark.inWindow_marked
  obtain ⟨hwindow', -⟩ := hend.eq_of_polled
  obtain ⟨hstill, hL⟩ := h₁.window hstep₁.shows hwindow fun hpast => hpast.2 _ hwindow'
  have hsame := congrArg Prod.snd (Option.some.inj (hstill.symm.trans hwindow'))
  obtain rfl : marker' = l₀.retired := hsame.symm.trans (hmarker.trans hm₀.refines.retired)
  obtain ⟨l₃, hstep₃⟩ := hm₂.moves hend
  exact ⟨l₂, l₃, hrun₂, hm₂, hstep₃, hL⟩

variable [Facility β] {W : Host β → Host β → Prop}

theorem Step.eq_of_polled {result : Outcome SystemError Unit × NativeBuffer}
    {answer : Outcome Error Nat × List Event} (hs : Step W m (.polled n marker result answer) m') :
    ∃ s, m.set.finishPoll marker [] result = (answer, s) ∧
      m' = { m with set := s, poll := none } := hs.moves.eq_of_polled.2

/-- The window of a poll in a run that begins with a new set. -/
theorem window_of_poll {host : Host β} {capacity : Nat} {threadSafe : Bool}
    {result : Outcome SystemError Unit × NativeBuffer} {answer : Outcome Error Nat × List Event}
    (h₀ : Run W (start host capacity threadSafe) L₀ m₀) (hmark : Step W m₀ (.marked n marker) m₁)
    (h₁ : Run W m₁ L m₂) (hend : Step W m₂ (.polled n marker' result answer) m₃) :
    ∃ l₀ l₂ l₃, RosterLists.run? (L₀.filterMap Label.operation?) {} = some l₀ ∧ m₀.Shows l₀ ∧
      l₀.run? (L.filterMap Label.operation?) = some l₂ ∧ m₂.Shows l₂ ∧
      m₂.Advances l₂ (.polled n l₀.retired result answer) m₃ l₃ ∧
      ∀ a ∈ L, a.isPolled = false := by
  obtain ⟨l₀, hshows₀, hrun₀, -⟩ := (shows_start host capacity threadSafe).run h₀
  obtain ⟨l₂, l₃, hwindow⟩ := hshows₀.window_of_poll hmark.moves h₁.moving hend.moves
  exact ⟨l₀, l₂, l₃, hrun₀, hshows₀, hwindow⟩

/-! ### Reclaiming -/

/-- The counter of retirements counts the removals of a run. -/
theorem retired_of_run {host : Host β} {capacity : Nat} {threadSafe : Bool}
    (hr : Run W (start host capacity threadSafe) L m) :
    m.roster.retired = (L.filterMap Label.retired?).length := by
  obtain ⟨l, hm, hrun, -⟩ := (shows_start host capacity threadSafe).run hr
  rw [hm.refines.retired, (RosterLists.run?_queue hrun).2, RosterLists.retirements,
    List.filterMap_filterMap]
  rfl

/-- With fewer than 2⁶⁴ removals the counters and the marker of a poll fit in words, whatever
readiness is noted. -/
theorem inWords_of_window {host : Host β} {capacity : Nat} {threadSafe : Bool}
    (h₀ : Run W (start host capacity threadSafe) L₀ m₀) (hmark : Step W m₀ (.marked n marker) m₁)
    (h₁ : Run W m₁ L m₂) (hbound : ((L₀ ++ L).filterMap Label.retired?).length < UInt64.size)
    (seen : List NativeEvent) : (seen.foldl Roster.noteReadiness m₂.roster).InWords marker := by
  have hr : Run W (start host capacity threadSafe) (L₀ ++ .marked n marker :: L) m₂ :=
    h₀.trans (.step hmark h₁)
  obtain ⟨l₂, hm₂, -⟩ := (shows_start host capacity threadSafe).run hr
  obtain ⟨-, hmarker⟩ := hmark.moves.inWindow_marked
  have hbefore := retired_of_run h₀
  have hafter := retired_of_run hr
  have hmarked : (Label.marked (β := β) n marker).retired? = none := rfl
  rw [List.filterMap_append, List.filterMap_cons_none hmarked, List.length_append] at hafter
  rw [List.filterMap_append, List.length_append] at hbound
  have hretired := hm₂.refines.retired
  exact (hm₂.refines.noteAll seen).1.inWords (by omega) (by omega)

/-- **Reclaiming is exact.**  Whatever the wait of a poll returned and whatever other threads did
meanwhile: when the poll returns, the dead ring holds exactly the records retired after the poll
took its marker, in this order, and the records that were dead at the marker, which are the last
ones retired by then, are at the tail of the free ring in the order in which they were retired.
With fewer than 2⁶⁴ removals until then the counters and the marker may be words. -/
theorem poll_reclaims_exactly {host : Host β} {capacity : Nat} {threadSafe : Bool}
    {result : Outcome SystemError Unit × NativeBuffer} {answer : Outcome Error Nat × List Event}
    (h₀ : Run W (start host capacity threadSafe) L₀ m₀) (hmark : Step W m₀ (.marked n marker) m₁)
    (h₁ : Run W m₁ L m₂) (hend : Step W m₂ (.polled n marker' result answer) m₃)
    (hanswer : answer.1.isHalted = false) :
    m₃.dead = L.filterMap Label.retired? ∧ m₃.free = m₂.free ++ m₀.dead ∧
      m₀.dead <:+ L₀.filterMap Label.retired? ∧ (∀ i ∈ m₀.dead, i ∉ m₃.dead) ∧
      (((L₀ ++ L).filterMap Label.retired?).length < UInt64.size →
        ∀ seen : List NativeEvent,
          (seen.foldl Roster.noteReadiness m₂.roster).InWords marker) := by
  obtain ⟨l₀, l₂, l₃, hrun₀, hshows₀, hrun₂, hshows₂, hstep₃, hL⟩ :=
    window_of_poll h₀ hmark h₁ hend
  have hretired : ∀ L : List (Label β),
      (L.filterMap Label.operation?).filterMap RosterOperation.retired? =
        L.filterMap Label.retired? := fun L => List.filterMap_filterMap
  obtain ⟨hdead, hreclaimed⟩ := RosterLists.run?_dead hrun₂ (Label.isReclaim_of_mem hL)
  obtain ⟨hdead₃, hfree₃⟩ := RosterLists.reclaim_retired hdead hreclaimed
  -- a poll that is not given up reclaims
  obtain rfl : l₂.reclaim l₀.retired = l₃ := by
    have hlists := hstep₃.lists
    obtain ⟨answered, events⟩ := answer
    cases answered with
    | done _ | failed _ => exact Option.some.inj hlists
    | halted cause => cases hanswer
  have hd₀ : m₀.dead = l₀.dead := hshows₀.refines.forward_dead
  have hd₃ : m₃.dead = L.filterMap Label.retired? := by
    rw [← hretired, ← hdead₃]
    exact hstep₃.shows.refines.forward_dead
  have hf₃ : m₃.free = m₂.free ++ m₀.dead := by
    rw [hd₀, show m₂.free = l₂.free from hshows₂.refines.forward_free, ← hfree₃]
    exact hstep₃.shows.refines.forward_free
  refine ⟨hd₃, hf₃, ?_, ?_, ?_⟩
  · have hsuffix := RosterLists.run?_dead_suffix hrun₀
    rwa [hretired, List.nil_append, ← hd₀] at hsuffix
  · intro i hi hi'
    have hfree : i ∈ (l₂.reclaim l₀.retired).free := by
      rw [hfree₃, ← hd₀]
      exact List.mem_append_right _ hi
    have hdead' : i ∈ (l₂.reclaim l₀.retired).dead := by
      rwa [← show m₃.dead = _ from hstep₃.shows.refines.forward_dead]
    exact ((RosterLists.apart hstep₃.shows.refines.nodup).2.1 i hdead').1 hfree
  · exact fun hbound seen => inWords_of_window h₀ hmark h₁ hbound seen

/-- Two descriptors are added and the first is removed; during a wait the second is removed and a
third one added. -/
theorem poll_reclaims_exactly_with_changes :
    ∃ (m₀ m₁ m₂ m₃ : Moment Poll) (L₀ L : List (Label Poll))
      (result : Outcome SystemError Unit × NativeBuffer) (answer : Outcome Error Nat × List Event),
      Run (fun _ _ => False) (start ⟨{}, { levels := [(51, 1)] }, #[]⟩ 4 true) L₀ m₀ ∧
      Step (fun _ _ => False) m₀ (.marked 0 1) m₁ ∧ Run (fun _ _ => False) m₁ L m₂ ∧
      Step (fun _ _ => False) m₂ (.polled 0 1 result answer) m₃ ∧ answer.1 = .done 1 ∧
      m₃.dead = [1] ∧ m₃.free = [0] := by
  obtain ⟨m₀, m₁, m₂, m₃, L₀, L, result, answer, h₀, hmark, h₁, hend, hanswer, hretired, hlists⟩ :
      ∃ (m₀ m₁ m₂ m₃ : Moment Poll) (L₀ L : List (Label Poll))
        (result : Outcome SystemError Unit × NativeBuffer)
        (answer : Outcome Error Nat × List Event),
        Run (fun _ _ => False) (start ⟨{}, { levels := [(51, 1)] }, #[]⟩ 4 true) L₀ m₀ ∧
        Step (fun _ _ => False) m₀ (.marked 0 1) m₁ ∧ Run (fun _ _ => False) m₁ L m₂ ∧
        Step (fun _ _ => False) m₂ (.polled 0 1 result answer) m₃ ∧
        answer.1 = .done 1 ∧ L.filterMap Label.retired? = [1] ∧
        m₂.free ++ m₀.dead = [0] := by
    refine ⟨_, _, _, _, _, _, _, _,
      .step (.beginAdd (.socket 50) .readable ⟨50⟩ rfl) <| .step (.callChange rfl rfl) <|
      .step (.endChange rfl) <|
      .step (.beginAdd (.socket 51) .readable ⟨51⟩ rfl) <| .step (.callChange rfl rfl) <|
      .step (.endChange rfl) <|
      .step (.beginRemove (.socket 50) rfl) <| .step (.callChange rfl rfl) <|
      .step (.endChange rfl) <| .refl _,
      .beginPoll none rfl,
      .step (.callWait rfl rfl) <|
      .step (.beginRemove (.socket 51) rfl) <| .step (.callChange rfl rfl) <|
      .step (.endChange rfl) <|
      .step (.beginAdd (.socket 52) .readable ⟨52⟩ rfl) <| .step (.callChange rfl rfl) <|
      .step (.endChange rfl) <| .step (.resumeWait rfl rfl) <| .refl _,
      .endPoll rfl rfl, ?_, ?_, ?_⟩
    · rfl
    · rfl
    · rfl
  obtain ⟨hdead, hfree, -⟩ := poll_reclaims_exactly h₀ hmark h₁ hend (by rw [hanswer]; rfl)
  exact ⟨m₀, m₁, m₂, m₃, L₀, L, result, answer, h₀, hmark, h₁, hend, hanswer,
    hdead.trans hretired, hfree.trans hlists⟩

/-! ### Tags -/

/-- The adding of `x` succeeded, and its record was not retired since. -/
def Live (x : Addition) (L : List (Label β)) : Prop :=
  ∃ L' L'', L = L' ++ .ended (.adding x) (.done ()) :: L'' ∧
    ∀ a ∈ L'', a.retired? ≠ some x.tag.index

end Moment

namespace Label

variable {x : Addition} {added : List Addition} {a : Label β} {L : List (Label β)}

theorem mem_tell (hx : x ∈ added) (ha : a.retired? ≠ some x.tag.index) : x ∈ a.tell added := by
  cases a with
  | ended c outcome =>
      cases c with
      | adding y =>
          cases outcome with
          | done value => exact List.mem_append_left _ hx
          | failed _ | halted _ => exact hx
      | removing d i found =>
          cases found with
          | none => cases outcome <;> exact hx
          | some j =>
              cases outcome with
              | done _ | failed _ =>
                  refine List.mem_filter.mpr ⟨hx, decide_eq_true fun he => ha ?_⟩
                  rw [he]
                  rfl
              | halted cause => exact hx
  | _ => exact hx

theorem mem_foldl_tell (hx : x ∈ added) (hL : ∀ a ∈ L, a.retired? ≠ some x.tag.index) :
    x ∈ L.foldl (fun added a => a.tell added) added := by
  induction L generalizing added with
  | nil => exact hx
  | cons a rest ih =>
      exact ih (mem_tell hx (hL a List.mem_cons_self)) fun b hb => hL b (List.mem_cons_of_mem a hb)

end Label

namespace Moment

variable {m m' m₀ m₁ m₂ m₃ : Moment β} {l : RosterLists} {L L₀ L₁ L₂ : List (Label β)}
  {n marker marker' : Nat} {x : Addition} {j : UInt32}

theorem Live.mem_added {added : List Addition} (h : Live x L) :
    x ∈ L.foldl (fun added a => a.tell added) added := by
  obtain ⟨L', L'', rfl, hL⟩ := h
  rw [List.foldl_append, List.foldl_cons]
  exact Label.mem_foldl_tell (List.mem_append_right _ List.mem_cons_self) hL

/-- Without the end of a poll, the records that are active or dead are not taken for other
additions. -/
theorem Moving.occupied (hr : Moving m L m') (hm : m.Shows l) (hL : ∀ a ∈ L, a.isPolled = false)
    (hj : j ∈ l.active ++ l.dead) :
    m'.roster.addition? j = m.roster.addition? j ∧
      ∀ y, .began (.adding y) ∈ L → y.tag.index ≠ j := by
  induction hr generalizing l with
  | refl m => exact ⟨rfl, fun y hy => absurd hy List.not_mem_nil⟩
  | @step m m₁ m₂ a L hs _ ih =>
      obtain ⟨hpolled, hrest⟩ := List.forall_mem_cons.mp hL
      obtain ⟨l₁, hstep⟩ := hm.moves hs
      have hops : ∀ op ∈ a.operation?.toList, op.isReclaim = false := by
        have := Label.isReclaim_of_mem (L := [a]) (by simpa using hpolled)
        rwa [RosterLists.filterMap_cons_eq, List.filterMap_nil, List.append_nil] at this
      obtain ⟨hsame, hfresh⟩ :=
        ih hstep.shows hrest (RosterLists.run?_occupied hstep.lists hops hj)
      refine ⟨hsame.trans (hstep.kept j hj), fun y hy => ?_⟩
      rcases List.mem_cons.mp hy with hy | hy
      · rintro rfl
        exact hstep.fresh y hy.symm hj
      · exact hfresh y hy

variable [Facility β] {W : Host β → Host β → Prop}

/-- **Live tags survive a poll in progress.**  Take any moment `m` in the window of a poll, and an
addition `x` whose record is active then.  Whatever happens until the end of the poll, no other
adding takes the record, the tag of `x` resolves to the record as it was filled for `x`, and every
native event with this tag is reported with the descriptor and the identifier of `x` and masked by
the interests of `x`. -/
theorem live_tags_survive {host : Host β} {capacity : Nat} {threadSafe : Bool}
    {result : Outcome SystemError Unit × NativeBuffer} {answer : Outcome Error Nat × List Event}
    (h₀ : Run W (start host capacity threadSafe) L₀ m₀) (hmark : Step W m₀ (.marked n marker) m₁)
    (h₁ : Run W m₁ L₁ m) (hx : Live x (L₀ ++ .marked n marker :: L₁)) (h₂ : Run W m L₂ m₂)
    (hend : Step W m₂ (.polled n marker' result answer) m₃) :
    (∀ y, .began (.adding y) ∈ L₂ → y.tag.index ≠ x.tag.index) ∧
      (∃ r, m₂.roster.resolve? x.tag = some r ∧ r.descriptor = x.descriptor ∧
        r.interests = x.interests ∧ r.id = x.id) ∧
      (∀ e : NativeEvent, e.tag = x.tag → m₂.roster.event? e = x.event? e.readiness) ∧
      (answer.1.isHalted = false →
        answer.2 = (WatchSet.considered result.2 result.1).filterMap m₂.roster.event?) := by
  obtain ⟨-, -, -, -, -, -, -, -, hL⟩ := window_of_poll h₀ hmark (h₁.trans h₂) hend
  obtain ⟨l, hm, -, hadded⟩ :=
    (shows_start host capacity threadSafe).run (h₀.trans (.step hmark h₁))
  have hmem : x ∈ m.roster.added := hadded ▸ hx.mem_added
  obtain ⟨hactive, hrecord⟩ := hm.refines.mem_added_iff.mp hmem
  obtain ⟨hsame, hfresh⟩ := h₂.moving.occupied hm (fun a ha => hL a (List.mem_append_right _ ha))
    (List.mem_append_left _ hactive)
  have hrecord₂ : m₂.roster.addition? x.tag.index = some x := hsame.trans hrecord
  obtain ⟨s, hs, -⟩ := hend.eq_of_polled
  exact ⟨hfresh, Roster.resolve?_eq hrecord₂, fun e he => Roster.event?_eq hrecord₂ he,
    WatchSet.finishPoll_events hs⟩

/-- The descriptor of a wait in progress is removed and another one added, and the wait still
reports the descriptor that was removed. -/
theorem live_tags_survive_removal :
    ∃ (m₀ m₁ m m₂ m₃ : Moment Poll) (L₀ L₁ L₂ : List (Label Poll))
      (result : Outcome SystemError Unit × NativeBuffer) (answer : Outcome Error Nat × List Event),
      Run (fun _ _ => False) (start ⟨{}, { levels := [(51, 1)] }, #[]⟩ 4 true) L₀ m₀ ∧
      Step (fun _ _ => False) m₀ (.marked 0 0) m₁ ∧ Run (fun _ _ => False) m₁ L₁ m ∧
      Live ⟨.pack 0 0, .socket 51, .readable, ⟨7⟩⟩ (L₀ ++ .marked 0 0 :: L₁) ∧
      Run (fun _ _ => False) m L₂ m₂ ∧
      Step (fun _ _ => False) m₂ (.polled 0 0 result answer) m₃ ∧
      L₂.filterMap Label.retired? = [0] ∧
      (∀ y, .began (.adding y) ∈ L₂ → y.tag.index ≠ 0) ∧
      m₂.roster.event? ⟨.pack 0 0, .readable⟩ = some ⟨.socket 51, ⟨7⟩, .readable⟩ ∧
      answer = (.done 1, [⟨.socket 51, ⟨7⟩, .readable⟩]) := by
  obtain ⟨m₀, m₁, m, m₂, m₃, L₀, L₁, L₂, result, answer, h₀, hmark, h₁, hx, h₂, hend, hretired,
      hanswer⟩ :
      ∃ (m₀ m₁ m m₂ m₃ : Moment Poll) (L₀ L₁ L₂ : List (Label Poll))
        (result : Outcome SystemError Unit × NativeBuffer)
        (answer : Outcome Error Nat × List Event),
        Run (fun _ _ => False) (start ⟨{}, { levels := [(51, 1)] }, #[]⟩ 4 true) L₀ m₀ ∧
        Step (fun _ _ => False) m₀ (.marked 0 0) m₁ ∧ Run (fun _ _ => False) m₁ L₁ m ∧
        Live ⟨.pack 0 0, .socket 51, .readable, ⟨7⟩⟩ (L₀ ++ .marked 0 0 :: L₁) ∧
        Run (fun _ _ => False) m L₂ m₂ ∧
        Step (fun _ _ => False) m₂ (.polled 0 0 result answer) m₃ ∧
        L₂.filterMap Label.retired? = [0] ∧
        answer = (.done 1, [⟨.socket 51, ⟨7⟩, .readable⟩]) := by
    refine ⟨_, _, _, _, _, _, _, _, _, _,
      .step (.beginAdd (.socket 51) .readable ⟨7⟩ rfl) <| .step (.callChange rfl rfl) <|
      .step (.endChange rfl) <| .refl _,
      .beginPoll none rfl,
      .step (.callWait rfl rfl) <| .refl _,
      ?_,
      .step (.beginRemove (.socket 51) rfl) <| .step (.callChange rfl rfl) <|
      .step (.endChange rfl) <|
      .step (.beginAdd (.socket 52) .readable ⟨8⟩ rfl) <| .step (.callChange rfl rfl) <|
      .step (.endChange rfl) <| .step (.resumeWait rfl rfl) <| .refl _,
      .endPoll rfl rfl, ?_, ?_⟩
    · exact ⟨[_, _], [_, _], rfl, by simp [Label.retired?, Label.operation?]⟩
    · rfl
    · rfl
  obtain ⟨hfresh, -, hevent, -⟩ := live_tags_survive h₀ hmark h₁ hx h₂ hend
  exact ⟨m₀, m₁, m, m₂, m₃, L₀, L₁, L₂, result, answer, h₀, hmark, h₁, hx, h₂, hend, hretired,
    hfresh, hevent ⟨.pack 0 0, .readable⟩ rfl, hanswer⟩

end Moment

end Readiness
