import Readiness.Proofs.ClosedForGood
import Readiness.Proofs.FailedAdditions
import Readiness.Proofs.GivenUp

/-! # Destroyed sets

Destroying a set does not touch its records, so all calls go on working on the records, over a
facility that refuses everything.

* **Whole calls** (`WatchSet.Defunct`).  A destroyed set refuses to add: descriptors that are
  active, then those for which there is no room, and then all others.  It removes as ever, a poll
  fails and reclaims, and destroying it again does nothing.
* **Calls in parts** (`Scene.Dead`).  A change that calls the facility after destroying has returned
  is refused, whatever other threads do between its turns, and so is a poll.  No descriptor becomes
  active and nothing is registered, once no earlier change is left.
* **Calls in progress** (`destroyed_sets_may_gain`).  Destroying takes no lock, so a change or a poll
  that has called the facility before may still succeed afterwards. -/

namespace Readiness

open Registry

/-- The additions without those of the record found for a descriptor are those of the other
descriptors. -/
theorem Roster.Refines.filter_found {roster : Roster} {l : RosterLists} (h : roster.Refines l)
    (hdistinct : (roster.added.map (·.descriptor.fd)).Nodup) {d : Descriptor} {j : UInt32}
    (hfind : roster.find? d = some j) :
    roster.added.filter (·.tag.index ≠ j) = roster.added.filter (·.descriptor.fd ≠ d.fd) := by
  obtain ⟨-, x, hx, rfl, hd, hrecord⟩ := h.find?_eq_some hfind
  refine Members.filter_index hdistinct hx hd fun y hy => ⟨fun hindex => ?_, fun he => he ▸ rfl⟩
  have hyrecord := (h.mem_added_iff.mp hy).2
  rw [hindex, hrecord] at hyrecord
  exact (Option.some.inj hyrecord).symm

/-- A record is found exactly for the descriptors that are added. -/
theorem Roster.Refines.any_added {roster : Roster} {l : RosterLists} (h : roster.Refines l)
    (d : Descriptor) : roster.added.any (·.descriptor.fd = d.fd) = (roster.find? d).isSome := by
  rw [Bool.eq_iff_iff, h.isSome_find?_iff, Members.mem_of]
  simp

/-- No record is found for a descriptor that is not added. -/
theorem Roster.Refines.find?_of_absent {roster : Roster} {l : RosterLists} (h : roster.Refines l)
    {d : Descriptor} (hnew : ∀ x ∈ roster.added, x.descriptor.fd ≠ d.fd) :
    roster.find? d = none := by
  rw [← Option.not_isSome_iff_eq_none, ← h.any_added]
  simpa using hnew

/-! ### Whole calls -/

namespace WatchSet

variable {β : Type} [Registry β]

/-- A call that the facility refuses at once is over at once. -/
theorem within_rebuffed {ρ γ : Type} {call : Host β → Progress (Host β) ρ × Host β} {answer : ρ}
    {k : ρ → WatchSet β → γ × WatchSet β} {s : WatchSet β}
    (hr : s.host.Rebuffs answer (call s.host)) :
    s.within call k = Progress.atOnce (k answer) { s with host := (call s.host).2 } := by
  rw [within, Progress.within]
  cases hc : call s.host with
  | mk p host =>
      rw [hc] at hr
      obtain rfl : p = .returned answer := hr.answer
      rfl

variable [Facility β]

/-- What a destroyed set answers to whole calls.

* Adding is refused, in this order: the descriptor is active, there is no room or no record for it,
  and in any other case.  In the last case a record is taken and put back.
* Removing says whether the descriptor was active, and retires its record.
* A poll fails with nothing to report, and reclaims all dead records.
* Destroying the set again does nothing.

Nothing is registered by any of these. -/
structure Defunct (s : WatchSet β) : Prop where
  add_known (d : Descriptor) (i : Interests) (id : EventId) : s.roster.held = false →
    (∃ x ∈ s.roster.value.added, x.descriptor.fd = d.fd) →
      s.add d i id = (.returned (.failed (.rejected .alreadyExists)), s.note (.adding d i id))
  add_full (d : Descriptor) (i : Interests) (id : EventId) : s.roster.held = false →
    (∀ x ∈ s.roster.value.added, x.descriptor.fd ≠ d.fd) →
    s.capacity ≤ s.roster.value.active.len ∨ s.roster.value.Exhausted →
      s.add d i id = (.returned (.failed (.rejected .noSpace)), s.note (.adding d i id))
  add_new (d : Descriptor) (i : Interests) (id : EventId) : s.roster.held = false →
    (∀ x ∈ s.roster.value.added, x.descriptor.fd ≠ d.fd) →
    s.roster.value.active.len < s.capacity → ¬ s.roster.value.Exhausted →
      ∃ s', s.add d i id = (.returned (.failed (.rejected .badDescriptor)), s') ∧
        s.roster.value.PutBack s'.roster.value ∧ s'.host.entries = s.host.entries
  remove (d : Descriptor) : s.roster.held = false →
    ∃ s', s.remove d =
        (.returned (.done (s.roster.value.added.any (·.descriptor.fd = d.fd))), s') ∧
      s'.roster.value.added = s.roster.value.added.filter (·.descriptor.fd ≠ d.fd) ∧
      s'.atRest.dead = s.atRest.dead ++ (s.roster.value.find? d).toList ∧
      s'.host.entries = s.host.entries
  poll (events : List Event) (timeout : Option Duration) : s.roster.held = false →
    s.buffer.held = false →
      ∃ s', s.poll events timeout =
          (.returned (.failed (.waitFailed .badDescriptor), []), s') ∧
        s'.roster.value.added = s.roster.value.added ∧ s'.atRest.dead = [] ∧
        s'.atRest.free = s.atRest.free ++ s.atRest.dead ∧ s'.host.entries = s.host.entries
  destroy : s.destroy = (.done (), s)

variable [Closable β] [LawfulClosable β] {s : WatchSet β} {l : RosterLists} {d : Descriptor}
  {i : Interests} {id : EventId}

theorem add_rebuffed (hshut : s.host.Shut) (hl : s.roster.value.Refines l)
    (hfree : s.roster.held = false)
    (hnew : ∀ x ∈ s.roster.value.added, x.descriptor.fd ≠ d.fd)
    (hroom : s.roster.value.active.len < s.capacity) (hleft : ¬ s.roster.value.Exhausted) :
    ∃ s', s.add d i id = (.returned (.failed (.rejected .badDescriptor)), s') ∧
      s.roster.value.PutBack s'.roster.value ∧ s'.host.entries = s.host.entries := by
  obtain ⟨⟨t, roster⟩, ha⟩ :=
    Option.ne_none_iff_exists'.mp (mt hl.allocate_eq_none_iff.mp hleft)
  have hr := LawfulClosable.watch_shut d.fd i t (s.host.note (.adding d i id))
    ⟨hshut.faultless, hshut.closed⟩
  rw [add_of_ok hfree (accept_of_some (hl.find?_of_absent hnew) hroom ha),
    within_rebuffed (s := (s.note (.adding d i id)).locked roster) hr]
  exact ⟨_, rfl, hl.putBack ha, hr.unmoved.entries⟩

theorem remove_rebuffed (hshut : s.host.Shut) (hl : s.roster.value.Refines l)
    (hdistinct : (s.roster.value.added.map (·.descriptor.fd)).Nodup)
    (hfree : s.roster.held = false) (d : Descriptor) :
    ∃ s', s.remove d =
        (.returned (.done (s.roster.value.added.any (·.descriptor.fd = d.fd))), s') ∧
      s'.roster.value.added = s.roster.value.added.filter (·.descriptor.fd ≠ d.fd) ∧
      s'.atRest.dead = s.atRest.dead ++ (s.roster.value.find? d).toList ∧
      s'.host.entries = s.host.entries := by
  have hr := LawfulClosable.unwatch_shut d.fd
    (interestsOf s.roster.value (s.roster.value.find? d)) (s.host.note (.removing d))
    ⟨hshut.faultless, hshut.closed⟩
  rw [remove_of_free hfree,
    within_rebuffed (s := (s.note (.removing d)).locked s.roster.value) hr, hl.any_added]
  cases hfind : s.roster.value.find? d with
  | none =>
      rw [hfind] at hr
      have hsame : s.roster.value.added.filter (·.descriptor.fd ≠ d.fd) = s.roster.value.added :=
        List.filter_eq_self.mpr (by simpa using hl.find?_eq_none hfind)
      exact ⟨_, rfl, hsame.symm, (List.append_nil _).symm, hr.unmoved.entries⟩
  | some j =>
      rw [hfind] at hr
      obtain ⟨hactive, -⟩ := hl.find?_eq_some hfind
      refine ⟨_, rfl, ?_, ?_, hr.unmoved.entries⟩
      · exact (hl.added_retire hactive).trans (hl.filter_found hdistinct hfind)
      · rw [Moment.dead, Moment.dead]
        exact (hl.retire hactive).forward_dead.trans (congrArg (· ++ [j]) hl.forward_dead.symm)

/-- A poll that is refused reclaims all dead records. -/
theorem poll_rebuffed (hshut : s.host.Shut) (hl : s.roster.value.Refines l)
    (hroster : s.roster.held = false) (hbuffer : s.buffer.held = false) (events : List Event)
    (timeout : Option Duration) :
    ∃ s', s.poll events timeout =
        (.returned (.failed (.waitFailed .badDescriptor), []), s') ∧
      s'.roster.value.added = s.roster.value.added ∧ s'.atRest.dead = [] ∧
      s'.atRest.free = s.atRest.free ++ s.atRest.dead ∧ s'.host.entries = s.host.entries := by
  have hr := LawfulClosable.wait_shut s.buffer.value timeout (s.host.note (.polling timeout))
    ⟨hshut.faultless, hshut.closed⟩
  have hreclaimed : (s.roster.value.reclaim s.roster.value.retired).Refines
      (l.reclaim l.retired) := hl.retired ▸ hl.reclaim s.roster.value.retired
  obtain ⟨hdead, hfree⟩ := RosterLists.reclaim_retired (List.append_nil l.dead).symm rfl
  rw [poll_of_free hbuffer hroster]
  let waiting : WatchSet β :=
    { s with host := s.host.note (.polling timeout), buffer := { s.buffer with held := true } }
  rw [within_rebuffed (s := waiting) hr, Progress.atOnce,
    finishPoll_failed (s := { waiting with host := _ }) hroster]
  refine ⟨_, rfl, ?_, ?_, ?_, hr.unmoved.entries⟩
  · exact hl.added_congr hreclaimed rfl fun j _ => Roster.addition?_reclaim ..
  · exact hreclaimed.forward_dead.trans hdead
  · rw [Moment.free, Moment.free, Moment.dead]
    exact hreclaimed.forward_free.trans
      (hfree.trans (congrArg₂ (· ++ ·) hl.forward_free.symm hl.forward_dead.symm))

theorem defunct (hdestroyed : s.destroyed = true) (hshut : s.host.Shut)
    (hl : s.roster.value.Refines l)
    (hdistinct : (s.roster.value.added.map (·.descriptor.fd)).Nodup) : s.Defunct where
  add_known d i id hfree hd := add_of_error hfree (accept_of_found (by
    rw [← hl.any_added]
    simpa using hd))
  add_full d i id hfree hnew hfull := add_of_error hfree <|
    hfull.elim (accept_of_full (hl.find?_of_absent hnew)) fun hnone =>
      accept_of_none (hl.find?_of_absent hnew) (hl.allocate_eq_none_iff.mpr hnone)
  add_new d i id hfree hnew hroom hleft := add_rebuffed hshut hl hfree hnew hroom hleft
  remove d hfree := remove_rebuffed hshut hl hdistinct hfree d
  poll events timeout hroster hbuffer := poll_rebuffed hshut hl hroster hbuffer events timeout
  destroy := if_pos hdestroyed

end WatchSet

/-! ### Calls in parts -/

/-- When a change is refused, nothing is added. -/
theorem Label.sublist_tell {β : Type} {a : Label β} (added : List Addition)
    (h : ∀ c outcome, a = .ended c outcome → outcome = .failed .badDescriptor) :
    (a.tell added).Sublist added := by
  cases a with
  | ended c outcome =>
      obtain rfl := h c outcome rfl
      cases c with
      | adding x => exact .refl _
      | removing d i found =>
          cases found with
          | none => exact .refl _
          | some j => exact List.filter_sublist
  | _ => exact .refl _

namespace Scene

variable {β : Type}

/-- As long as all changes are refused, additions only go. -/
theorem sublist_moving {v v' : Scene β} {l : RosterLists} (hm : v.moment.Shows l)
    {A : List (Act β)} (hr : Moment.Moving v.moment (A.map Act.label) v'.moment)
    (h : ∀ c outcome, .part (.ended c outcome) ∈ A → outcome = .failed .badDescriptor) :
    v'.roster.added.Sublist v.roster.added := by
  obtain ⟨-, -, -, hadded⟩ := hm.moving hr
  rw [show v'.roster.added = _ from hadded]
  show (List.foldl _ v.roster.added _).Sublist _
  generalize v.roster.added = added
  clear hadded hr
  induction A generalizing added with
  | nil => exact .refl _
  | cons a A ih =>
      refine (ih (fun c outcome ha => h c outcome (.tail _ ha)) _).trans ?_
      refine Label.sublist_tell added fun c outcome ha => ?_
      cases a with
      | part b =>
          obtain rfl : b = _ := ha
          exact h c outcome (.head _)
      | turned serial c' before after => cases c' <;> cases ha
      | called | closing => cases ha

variable [Registry β] [Turns β] {W : Host β → Host β → Prop} {v v' v₁ v₂ v₃ : Scene β}
  {A : List (Act β)}

/-- A set whose destroying has returned.

* Whole calls are answered as `Defunct` says, and do not change the registrations.
* Every record is in one of the rings, or taken by the adding in progress.
* Nobody closes the facility any more, or destroys the set.
* Unless a change has called the facility before, all changes are refused by it, additions only go,
  and nothing is registered, whatever happens.
* A poll that begins fails with nothing to report, unless the lock on the rings is taken when it
  ends.  It frees the records that were dead when it began. -/
structure Dead [Facility β] (W : Host β → Host β → Prop) (v : Scene β) : Prop where
  answers : v.set.Defunct
  places : v.moment.Places []
  released : ∀ A v', Run W v A v' → .part .destroyed ∉ A ∧ ∀ h h', .closing h h' ∉ A
  refused : v.Idle → ∀ A v', Run W v A v' →
    (∀ c outcome, .part (.ended c outcome) ∈ A → outcome = .failed .badDescriptor) ∧
      v'.set.host.entries = v.set.host.entries ∧
      v'.roster.added.Sublist v.roster.added ∧
      v'.roster.stats.active ≤ v.roster.stats.active
  polls : ∀ n marker marker' A v₁ v₂ v₃ result answer,
    Step W v (.part (.marked n marker)) v₁ → Run W v₁ A v₂ →
    Step W v₂ (.part (.polled n marker' result answer)) v₃ → v₂.set.roster.held = false →
      answer = (.failed (.waitFailed .badDescriptor), []) ∧
        v₃.moment.dead = (A.map Act.label).filterMap Label.retired? ∧
        v₃.moment.free = v₂.moment.free ++ v.moment.dead

variable [Closable β] [ClosableTurns β]

/-- Unless a change has called the facility before, additions only go and nothing is registered. -/
theorem Orderly.only_shrinks (hW : Undisturbing W) (h : v.Orderly) (hd : v.set.destroyed = true)
    (hc : v.closing = none) (hidle : v.Idle) {l : RosterLists} (hm : v.moment.Shows l)
    (hr : Run W v A v') :
    (∀ c outcome, .part (.ended c outcome) ∈ A → outcome = .failed .badDescriptor) ∧
      v'.set.host.entries = v.set.host.entries ∧
      v'.roster.added.Sublist v.roster.added ∧
      v'.roster.stats.active ≤ v.roster.stats.active := by
  obtain ⟨hclosed, hall⟩ := (h.refused hd hc hidle).run (lasting_refused hW _) hr
  have hended : ∀ c outcome, .part (.ended c outcome) ∈ A → outcome = .failed .badDescriptor :=
    fun c outcome ha => hall _ ha
  have hsub := sublist_moving hm hr.moving hended
  obtain ⟨l', hm', -⟩ := hm.moving hr.moving
  refine ⟨hended, hclosed.host.entries, hsub, ?_⟩
  rw [show v.roster.stats.active = _ from hm.refines.length_added.symm,
    show v'.roster.stats.active = _ from hm'.refines.length_added.symm]
  exact hsub.length_le

/-- A poll that begins fails, and frees what was dead when it began. -/
theorem Orderly.poll_fails (hW : Undisturbing W) (h : v.Orderly) (hd : v.set.destroyed = true)
    (hc : v.closing = none) {l : RosterLists} (hm : v.moment.Shows l) {n marker marker' : Nat}
    {result : Outcome SystemError Unit × NativeBuffer} {answer : Outcome Error Nat × List Event}
    (hmark : Step W v (.part (.marked n marker)) v₁) (hr : Run W v₁ A v₂)
    (hend : Step W v₂ (.part (.polled n marker' result answer)) v₃)
    (hfree : v₂.set.roster.held = false) :
    answer = (.failed (.waitFailed .badDescriptor), []) ∧
      v₃.moment.dead = (A.map Act.label).filterMap Label.retired? ∧
      v₃.moment.free = v₂.moment.free ++ v.moment.dead := by
  obtain ⟨l₂, l₃, hrun₂, hm₂, hstep₃, hL⟩ := hm.window_of_poll hmark.moves hr.moving hend.moves
  have hnone : v.poll = none := by
    cases hmark with
    | beginPoll timeout hb =>
        exact Option.map_eq_none_iff.mp (hm.poll_eq_none (WatchSet.beginPoll_eq_ok hb).1)
  obtain ⟨-, hall⟩ := (h.waitless hd hc hnone).run (lasting_waitless hW)
    (.step hmark (hr.trans (.single hend)))
  obtain ⟨b, hresult⟩ := hall (.part (.polled n marker' result answer)) (by simp)
  obtain ⟨outcome, b'⟩ := result
  obtain ⟨rfl, rfl⟩ : outcome = .failed .badDescriptor ∧ b' = b := by simpa using hresult
  obtain ⟨-, s, hfinish, -⟩ := hend.moves.eq_of_polled
  obtain rfl : _ = answer :=
    congrArg Prod.fst ((WatchSet.finishPoll_failed hfree marker' _ b').symm.trans hfinish)
  obtain rfl : l₂.reclaim l.retired = l₃ := Option.some.inj hstep₃.lists
  obtain ⟨hdead, hreclaimed⟩ := RosterLists.run?_dead hrun₂ (Label.isReclaim_of_mem hL)
  obtain ⟨hdead₃, hfree₃⟩ := RosterLists.reclaim_retired hdead hreclaimed
  refine ⟨rfl, ?_, ?_⟩
  · exact hstep₃.shows.refines.forward_dead.trans (hdead₃.trans List.filterMap_filterMap)
  · rw [Moment.free, Moment.free, Moment.dead]
    exact hstep₃.shows.refines.forward_free.trans (hfree₃.trans
      (congrArg₂ (· ++ ·) hm₂.refines.forward_free.symm hm.refines.forward_dead.symm))

variable [Facility β] [LawfulClosable β]

/-- In a run without faults, a set whose destroying has returned is dead. -/
theorem Orderly.dead (hW : Undisturbing W) (hd : v.set.destroyed = true) (hc : v.closing = none)
    {host : Host β} (hk : host.kernel.Faultless) {capacity : Nat} {threadSafe : Bool}
    (hr : Run W (start host capacity threadSafe) A v) : v.Dead W := by
  obtain ⟨h, hlost⟩ := (orderly_start hk capacity threadSafe).run hW hr
  have hnone : ({} : RosterLists).outside.Perm
      ((start host capacity threadSafe).moment.taken.toList ++ []) := .refl _
  obtain ⟨l, hm, ho⟩ :=
    (Moment.shows_start host capacity threadSafe).outside_moving hnone hr.moving
  rw [hlost] at ho
  refine { answers := WatchSet.defunct hd (h.shut hd hc) hm.refines hm.distinct,
           places := hm.places ho, released := ?_, refused := ?_, polls := ?_ }
  · intro A v' hr
    obtain ⟨-, hall⟩ := (h.goes_on hd hc).run (lasting_allows hW) hr
    exact ⟨fun ha => hall _ ha, fun h h' ha => hall _ ha⟩
  · intro hidle A v' hr
    exact h.only_shrinks hW hd hc hidle hm hr
  · intro n marker marker' A v₁ v₂ v₃ result answer hmark hr hend hfree
    exact h.poll_fails hW hd hc hm hmark hr hend hfree

end Scene

/-- Once destroying a set has returned in a run without faults, the set is dead for good. -/
structure StaysDestroyed (β : Type) [Facility β] [Turns β] [Registry β] : Prop where
  /-- A call that nobody disturbs is a call of the set. -/
  whole : WholeCalls β
  dead : ∀ (W : Host β → Host β → Prop) (host : Host β) (capacity : Nat) (threadSafe : Bool)
    (A₀ A : List (Act β)) (v₀ v₁ v : Scene β), Undisturbing W → host.kernel.Faultless →
      Scene.Run W (Scene.start host capacity threadSafe) A₀ v₀ →
      Scene.Step W v₀ (.part .destroyed) v₁ → Scene.Run W v₁ A v → v.Dead W

theorem StaysDestroyed.of_lawful (β : Type) [Facility β] [Turns β] [FaithfulTurns β] [Registry β]
    [Closable β] [ClosableTurns β] [LawfulClosable β] : StaysDestroyed β where
  whole := .of_faithful β
  dead W host capacity threadSafe A₀ A v₀ v₁ v hW hk h₀ hdestroy hr := by
    obtain ⟨horderly₀, -⟩ := (Scene.orderly_start hk capacity threadSafe).run hW h₀
    obtain ⟨hd₁, hc₁⟩ := horderly₀.destroyed hdestroy
    obtain ⟨hclosed, -⟩ :=
      ((horderly₀.step hW hdestroy).goes_on hd₁ hc₁).run (Scene.lasting_allows hW) hr
    exact Scene.Orderly.dead hW hclosed.destroyed hclosed.closing hk (h₀.trans (.step hdestroy hr))

/-- **A destroyed set stays dead**, on every facility and whatever is called later. -/
theorem destroyed_sets_stay_dead :
    StaysDestroyed Epoll ∧ StaysDestroyed Poll ∧ StaysDestroyed Kqueue :=
  ⟨.of_lawful Epoll, .of_lawful Poll, .of_lawful Kqueue⟩

/-- Two descriptors are added and the first is removed, and the set is destroyed during a wait.
After that poll one record is active and one is free, and nothing is registered. -/
theorem destroyed_sets_stay_dead_during_wait :
    ∃ (host : Host Epoll) (A₀ A : List (Act Epoll)) (v₀ v₁ v : Scene Epoll),
      Scene.Run (fun _ _ => False) (Scene.start host 2 true) A₀ v₀ ∧
      Scene.Step (fun _ _ => False) v₀ (.part .destroyed) v₁ ∧
      Scene.Run (fun _ _ => False) v₁ A v ∧ v.roster.stats = ⟨1, 0, 1, 2⟩ ∧
      v.set.host.entries = [] ∧ v.Dead fun _ _ => False := by
  obtain ⟨host, A₀, A, v₀, v₁, v, h₀, hdestroy, hr, hhost, hstats, hentries⟩ :
      ∃ (host : Host Epoll) (A₀ A : List (Act Epoll)) (v₀ v₁ v : Scene Epoll),
        Scene.Run (fun _ _ => False) (Scene.start host 2 true) A₀ v₀ ∧
        Scene.Step (fun _ _ => False) v₀ (.part .destroyed) v₁ ∧
        Scene.Run (fun _ _ => False) v₁ A v ∧ host.kernel = { live := [1000] } ∧
        v.roster.stats = ⟨1, 0, 1, 2⟩ ∧ v.set.host.entries = [] := by
    refine ⟨⟨⟨⟨1000⟩⟩, { live := [1000] }, #[]⟩, _, _, _, _, _,
      .step (.beginAdd (.socket 50) .readable ⟨50⟩ rfl) <| .step (.callChange rfl) <|
      .step (.turnChange rfl) <| .step (.endChange rfl) <|
      .step (.beginAdd (.socket 51) .both ⟨51⟩ rfl) <| .step (.callChange rfl) <|
      .step (.turnChange rfl) <| .step (.endChange rfl) <|
      .step (.beginRemove (.socket 50) rfl) <| .step (.callChange rfl) <|
      .step (.turnChange rfl) <| .step (.endChange rfl) <|
      .step (.beginPoll none rfl) <| .step (.callWait rfl) <| .step (.turnWait rfl) <|
      .step (.beginDestroy rfl) <| .step (.turnClosing rfl) <| .step (.turnClosing rfl) <|
      .refl _,
      .endDestroy rfl,
      .step (.turnWait rfl) <| .step (.endPoll rfl rfl) <| .refl _, rfl, ?_, ?_⟩
    · rfl
    · rfl
  exact ⟨host, A₀, A, v₀, v₁, v, h₀, hdestroy, hr, hstats, hentries,
    destroyed_sets_stay_dead.1.dead (fun _ _ => False) host 2 true A₀ A v₀ v₁ v nofun
      (by rw [hhost]; exact ⟨rfl, by decide⟩) h₀ hdestroy hr⟩

/-- **A destroyed set may gain a descriptor.**  With `poll` an adding has looked whether the facility
was closed when another thread destroys the set: afterwards it registers its descriptor all the same,
and succeeds.  And a poll in progress reports what it finds when destroying has returned. -/
theorem destroyed_sets_may_gain :
    (∃ (A₀ A : List (Act Poll)) (v₀ v₁ v : Scene Poll) (x : Addition),
      Scene.Run (fun _ _ => False) (Scene.start ⟨{}, {}, #[]⟩ 4 true) A₀ v₀ ∧
      Scene.Step (fun _ _ => False) v₀ (.part .destroyed) v₁ ∧
      Scene.Run (fun _ _ => False) v₁ A v ∧ .part (.ended (.adding x) (.done ())) ∈ A ∧
      v₁.set.host.entries = [] ∧ v.set.host.entries = wanted x ∧
      v₁.roster.stats = ⟨0, 0, 0, 1⟩ ∧ v.roster.stats = ⟨1, 0, 0, 1⟩) ∧
    ∃ (A₀ A : List (Act Poll)) (v₀ v₁ v₂ v₃ : Scene Poll)
      (result : Outcome SystemError Unit × NativeBuffer) (events : List Event),
      Scene.Run (fun _ _ => False) (Scene.start ⟨{}, { levels := [(5, 1)] }, #[]⟩ 4 true) A₀ v₀ ∧
      Scene.Step (fun _ _ => False) v₀ (.part .destroyed) v₁ ∧
      Scene.Run (fun _ _ => False) v₁ A v₂ ∧
      Scene.Step (fun _ _ => False) v₂ (.part (.polled 0 0 result (.done 1, events))) v₃ ∧
      events = [⟨.socket 5, ⟨5⟩, .readable⟩] := by
  constructor
  · refine ⟨_, _, _, _, _, _,
      .step (.beginAdd (.socket 50) .readable ⟨50⟩ rfl) <| .step (.callChange rfl) <|
      .step (.turnChange rfl) <| .step (.turnChange rfl) <|
      .step (.beginDestroy rfl) <| .step (.turnClosing rfl) <| .step (.turnClosing rfl) <|
      .refl _,
      .endDestroy rfl,
      .step (.turnChange rfl) <| .step (.turnChange rfl) <| .step (.endChange rfl) <| .refl _,
      .tail _ (.tail _ (.head _)), rfl, ?_, ?_, ?_⟩ <;> rfl
  · refine ⟨_, _, _, _, _, _, _, _,
      .step (.beginAdd (.socket 5) .readable ⟨5⟩ rfl) <| .step (.callChange rfl) <|
      .step (.turnChange rfl) <| .step (.turnChange rfl) <| .step (.turnChange rfl) <|
      .step (.turnChange rfl) <| .step (.endChange rfl) <|
      .step (.beginPoll none rfl) <| .step (.callWait rfl) <| .step (.turnWait rfl) <|
      .step (.turnWait rfl) <|
      .step (.beginDestroy rfl) <| .step (.turnClosing rfl) <| .step (.turnClosing rfl) <|
      .refl _,
      .endDestroy rfl,
      .step (.turnWait rfl) <| .step (.turnWait rfl) <| .refl _,
      .endPoll rfl rfl, ?_⟩
    rfl

end Readiness
