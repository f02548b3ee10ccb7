import Readiness.Proofs.HostInvariants
import Readiness.Proofs.LonePolls
import Readiness.Proofs.Registrations
import Readiness.Proofs.Room

/-! # From adding to reporting with `epoll`

What a poll reports, said of nothing but the levels of the descriptors and the history of the set.

* **Order.**  The registrations are those of the additions, in the order in which the descriptors
  were added (`Epoll.Lists`).  This needs that every active descriptor that was removed was
  unwatched (`Label.Steady`); adds may fail as they like.
* **Room.**  There are never more registrations than the buffer has room for, so a wait returns the
  events of all of them (`Epoll.alone_wait`).
* **Events.**  Each registration passes the bits that are reported to its descriptor, and has an
  event exactly if something is reported (`Epoll.reports`).
* **Result.**  `Moment.epoll_reports_levels` puts this together for every state of every run. -/

namespace Readiness

open Registry

namespace Label

/-- The facility was not closed, and an active descriptor that was removed was unwatched. -/
def Steady {β : Type} : Label β → Prop
  | ended (.removing _ _ (some _)) outcome => outcome = .done ()
  | destroyed => False
  | _ => True

end Label

/-! ### The kernel -/

theorem toNat_room {capacity : Nat} (h : capacity ≤ 2147483647) :
    (room capacity).toInt.toNat = capacity := by
  rw [room, Nat.min_eq_left h, Int32.toInt_ofNat_of_lt (by omega)]
  rfl

/-- The rest of a wait, if it succeeds, returns as many events as there is room for in the state that
the others have left. -/
theorem Kernel.epollWait_resumed {k k' : Kernel} {handle size timeout : Int32}
    {events : List EpollEvent} {resume : Kernel → Outcome SystemError (List EpollEvent) × Kernel}
    (hp : (k.epollWait handle size timeout).1 = .inside resume)
    (hr : (resume k').1 = .done events) :
    events = (k'.epollInjected ++ k'.epollRegistrations.filterMap k'.epollReport?).take
      size.toInt.toNat := by
  unfold Kernel.epollWait at hp
  dsimp only at hp
  split at hp
  · cases hp
  · obtain rfl := Progress.inside.inj hp
    obtain ⟨verdicts, hact | ⟨-, hnot⟩⟩ := Kernel.obey_eq (Prod.ext hr rfl)
    · split at hact
      · cases hact
      · exact (Outcome.done.inj (congrArg Prod.fst hact)).symm
    · exact absurd rfl (hnot events)

/-- A wait that fails at once returns no events. -/
theorem Kernel.epollWait_returned {k : Kernel} {handle size timeout : Int32}
    {r : Outcome SystemError (List EpollEvent)}
    (hp : (k.epollWait handle size timeout).1 = .returned r) : ∀ events, r ≠ .done events := by
  unfold Kernel.epollWait at hp
  dsimp only at hp
  split at hp
  · obtain rfl := Progress.returned.inj hp
    exact nofun
  · cases hp

/-- A wait that succeeds returns as many events as there is room for. -/
theorem Kernel.epollWait_done {k : Kernel} {handle size timeout : Int32} {events : List EpollEvent}
    (h : (Progress.alone (k.epollWait handle size timeout)).1 = .done events) :
    events = (k.epollInjected ++ k.epollRegistrations.filterMap k.epollReport?).take
      size.toInt.toNat := by
  have hstate : (k.epollWait handle size timeout).2 = k.record (.epollWait handle size timeout) := by
    unfold Kernel.epollWait
    dsimp only
    split <;> rfl
  cases hp : k.epollWait handle size timeout with
  | mk p k' =>
      rw [hp] at h hstate
      obtain rfl : k' = _ := hstate
      cases p with
      | returned r => exact absurd h (Kernel.epollWait_returned (congrArg Prod.fst hp) events)
      | inside resume =>
          have hr : (resume (k.record (.epollWait handle size timeout))).1 = .done events := h
          have hevents := Kernel.epollWait_resumed (congrArg Prod.fst hp) hr
          exact hevents

namespace Epoll

/-! ### Registrations in order -/

/-- The registration for an addition. -/
def registration (x : Addition) : EpollRegistration :=
  ⟨x.descriptor.fd, requested x.interests, x.tag⟩

/-- The registrations are those of the additions, in order. -/
def Lists (h : Host Epoll) (added : List Addition) : Prop := h.entries = added.map registration

variable {h h' : Host Epoll} {added : List Addition} {x : Addition} {d : Descriptor}
  {i : Interests} {found : Option UInt32} {outcome : Outcome SystemError Unit}

theorem Lists.watched (hl : Lists h added)
    (hp : watch x.descriptor.fd x.interests x.tag h = (outcome, h')) :
    Lists h' ((Change.adding x).tell outcome added) := by
  obtain ⟨kernel, hadd, rfl⟩ := Host.system_eq hp
  rcases Kernel.epollAdd_eq hadd with ⟨rfl, -, hk⟩ | ⟨hne, hk⟩
  · show kernel.epollRegistrations = (added ++ [x]).map registration
    rw [hk, List.map_append]
    exact congrArg (· ++ _) hl
  · show kernel.epollRegistrations = _
    rw [hk]
    cases outcome with
    | done value => exact absurd rfl hne
    | failed _ | halted _ => exact hl

/-- The registrations of other descriptors than the one removed are those of the other records. -/
theorem filter_registration (hdistinct : (added.map (·.descriptor.fd)).Nodup)
    (hsound : (Change.removing d i found).Sound added) :
    (added.map registration).filter (·.fd ≠ d.fd) =
      ((Change.removing d i found).tell (.done ()) added).map registration := by
  rw [List.filter_map]
  cases found with
  | none =>
      refine congrArg _ (List.filter_eq_self.mpr fun y hy => ?_)
      exact decide_eq_true (hsound.2 y hy)
  | some j =>
      obtain ⟨x, hx, hd, -, hj⟩ := hsound
      refine congrArg _ (List.filter_congr fun y hy => ?_)
      have hfd : y.descriptor.fd = d.fd ↔ y.tag.index = j := by
        rw [hj y hy, ← hd]
        exact ⟨fun he => List.inj_on_of_nodup_map hdistinct hy hx he, fun he => he ▸ rfl⟩
      exact decide_eq_decide.mpr (not_congr hfd)

theorem Lists.unwatched (hl : Lists h added) (hsound : (Change.removing d i found).Sound added)
    (hdistinct : (added.map (·.descriptor.fd)).Nodup) (hp : unwatch d.fd h = (outcome, h'))
    (hsteady : (Label.ended (β := Epoll) (.removing d i found) outcome).Steady) :
    Lists h' ((Change.removing d i found).tell outcome added) := by
  obtain ⟨kernel, hdelete, rfl⟩ := Host.system_eq hp
  rcases Kernel.epollDelete_eq hdelete with ⟨rfl, hk⟩ | ⟨hne, hk⟩
  · show kernel.epollRegistrations = _
    rw [hk, ← filter_registration hdistinct hsound]
    exact congrArg _ hl
  · cases found with
    | some j => exact absurd hsteady hne
    | none =>
        show kernel.epollRegistrations = _
        rw [hk]
        cases outcome <;> exact hl

/-- **In order.**  Every step but a failed unwatch keeps the registrations in order. -/
theorem upholds_lists : Upholds (β := Epoll) Label.Steady Lists where
  destroyed := id
  host he hl := he.trans hl
  call := by
    intro c added h h' p hsound hdistinct hl hp _
    cases c with
    | adding x =>
        obtain ⟨rfl, rfl⟩ := Prod.mk.inj hp
        exact ⟨_, rfl, fun _ => hl.watched rfl⟩
    | removing d i found =>
        obtain ⟨rfl, rfl⟩ := Prod.mk.inj hp
        exact ⟨_, rfl, fun hsteady => hl.unwatched hsound hdistinct rfl hsteady⟩

/-! ### Waiting -/

theorem keepsRoom : KeepsRoom Epoll := fun b timeout h =>
  Progress.yields_systemWithin (fun outcome _ => by cases outcome <;> rfl) h

/-- No event waits to be returned that no registration has. -/
def Uninjected (h : Host Epoll) : Prop := h.kernel.epollInjected = []

/-- System calls that leave the injected events alone. -/
theorem injected_obey {α : Type} {name : CallName}
    {act : Kernel → Outcome SystemError α × Kernel}
    (hact : ∀ k, k.epollInjected = [] → (act k).2.epollInjected = []) (k : Kernel)
    (hk : k.epollInjected = []) : (k.obey name act).2.epollInjected = [] :=
  Kernel.obey_preserves (R := fun k => k.epollInjected = []) (fun _ _ => id) hact k hk

theorem injected_epollAdd {k : Kernel} (hk : k.epollInjected = []) (handle fd : Int32)
    (events : UInt32) (t : Tag) : (k.epollAdd handle fd events t).2.epollInjected = [] := by
  refine injected_obey (fun k hk => ?_) _ hk
  split
  · exact hk
  · split <;> exact hk

theorem injected_epollDelete {k : Kernel} (hk : k.epollInjected = []) (handle fd : Int32) :
    (k.epollDelete handle fd).2.epollInjected = [] := by
  refine injected_obey (fun k hk => ?_) _ hk
  split
  · exact hk
  · split <;> exact hk

theorem injected_epollWait (handle room timeout : Int32) :
    Progress.Preserves (fun k => k.epollInjected = []) (Kernel.epollWait handle room timeout) := by
  intro k hk
  unfold Kernel.epollWait
  dsimp only
  split
  · exact ⟨hk, trivial⟩
  · refine ⟨hk, injected_obey fun k hk => ?_⟩
    split
    · exact hk
    · show k.epollInjected.drop _ = []
      rw [hk, List.drop_nil]

theorem injected_closeHandle {k : Kernel} (hk : k.epollInjected = []) (handle : Int32) :
    (k.closeHandle handle).2.epollInjected = [] := by
  refine injected_obey (fun k hk => ?_) _ hk
  split <;> exact hk

theorem preserved_uninjected : Preserved (β := Epoll) Uninjected where
  native h h' _ hk hq := by rw [Uninjected, hk]; exact hq
  watch fd i t := .atOnce fun h hq => injected_epollAdd hq ..
  unwatch fd i := .atOnce fun h hq => injected_epollDelete hq ..
  wait b timeout h := Progress.Preserves.systemWithin (injected_epollWait _ _ _) (fun _ => id)
    (fun _ _ _ => id) (fun _ _ => id) h
  close h hq := by
    show (h.facility.handle.close h.kernel).2.2.epollInjected = []
    unfold Handle.close
    split
    · exact hq
    · exact injected_closeHandle hq _

/-- The native event for an addition. -/
def native? (k : Kernel) (x : Addition) : Option NativeEvent :=
  (k.epollReport? (registration x)).map native

theorem report?_registration (k : Kernel) (x : Addition) :
    k.epollReport? (registration x) =
      if k.level x.descriptor.fd &&& reportedBits x.interests = 0 then none
      else some ⟨k.level x.descriptor.fd &&& reportedBits x.interests, x.tag⟩ := rfl

/-- The kernel returns the readiness of the levels. -/
theorem reports {roster : Roster} {k : Kernel}
    (hrecord : ∀ x ∈ added, roster.addition? x.tag.index = some x) :
    roster.Reports k.level added (native? k) where
  record := hrecord
  tag x _ e he := by
    rw [native?, report?_registration] at he
    split at he
    · cases he
    · obtain rfl := Option.some.inj he
      rfl
  mask x _ e he := by
    rw [native?, report?_registration] at he
    split at he
    · cases he
    · obtain rfl := Option.some.inj he
      exact mask_readiness ..
  none x _ := by
    rw [native?, report?_registration, ← level_eq_zero_iff]
    split <;> simp [*]

/-- A wait alone is the system call, and what it returns is put into the buffer. -/
theorem alone_wait_eq (b : NativeBuffer) (timeout : Option Duration) (h : Host Epoll) :
    Progress.alone (wait b timeout h) =
      (deliver b.clear (Progress.alone (h.kernel.epollWait h.facility.handle.fd (room b.capacity)
          (timeoutMillis timeout))).1,
        { h with kernel := (Progress.alone (h.kernel.epollWait h.facility.handle.fd
          (room b.capacity) (timeoutMillis timeout))).2 }) :=
  Progress.alone_within (fun h : Host Epoll => h.kernel) (fun kernel h => { h with kernel })
    (fun _ _ => rfl) (fun _ _ _ => rfl) ..

/-- A wait that succeeds returns the events of all registrations. -/
theorem alone_wait {b : NativeBuffer} {timeout : Option Duration} {events : List EpollEvent}
    (hl : Lists h added) (hinjected : Uninjected h) (hroom : added.length ≤ b.capacity)
    (hmax : b.capacity ≤ 2147483647)
    (hwait : (Progress.alone (h.kernel.epollWait h.facility.handle.fd (room b.capacity)
      (timeoutMillis timeout))).1 = .done events) :
    (Progress.alone (wait b timeout h)).1 =
      (.done (), b.clear.extend (added.filterMap (native? h.kernel))) := by
  have hall : events = added.filterMap fun x => h.kernel.epollReport? (registration x) := by
    have hregistrations : h.kernel.epollRegistrations = added.map registration := hl
    rw [Kernel.epollWait_done hwait, hinjected, List.nil_append, toNat_room hmax, hregistrations,
      List.filterMap_map]
    exact List.take_of_length_le (Nat.le_trans (List.length_filterMap_le _ _) hroom)
  rw [alone_wait_eq, hwait, deliver, hall, List.map_filterMap]
  rfl

/-- The world may change as it likes, as long as it leaves the registrations alone and injects
nothing. -/
def Undisturbed (h h' : Host Epoll) : Prop :=
  h'.entries = h.entries ∧ (Uninjected h → Uninjected h')

end Epoll

namespace Moment

open Epoll

/-- **Levels are reported.**  After any run that begins with a new set, in which no unwatch of an
active descriptor failed, nothing was injected and the set was not destroyed: a poll that nothing
comes between and whose wait succeeds returns one event for each descriptor that is added and whose
level calls for one, in the order in which the descriptors were added, and their number, or says that
there are none. -/
theorem epoll_reports_levels {host : Host Epoll} {capacity : Nat} {threadSafe : Bool}
    {L : List (Label Epoll)} {m : Moment Epoll} {events : List EpollEvent}
    (hempty : host.entries = []) (hinjected : Uninjected host) (hmax : capacity ≤ 2147483647)
    (hr : Run Undisturbed (start host capacity threadSafe) L m) (hL : ∀ a ∈ L, a.Steady)
    (hchange : m.change = none) (hpoll : m.poll = none) (timeout : Option Duration)
    (hwait : (Progress.alone (m.set.host.kernel.epollWait m.set.host.facility.handle.fd
      (room capacity) (timeoutMillis timeout))).1 = .done events) (before : List Event) :
    (Progress.alone (m.set.poll before timeout)).1 =
      WatchSet.reply ((L.foldl (fun added a => a.tell added) []).filterMap
        (Addition.levelEvent? m.set.host.kernel.level)) := by
  obtain ⟨l, hm, -, hadded⟩ := (shows_start host capacity threadSafe).run hr
  have hroomy := (roomy_start host capacity threadSafe).run keepsRoom
    (shows_start host capacity threadSafe) hr
  have hquiet := ((maintains_start hinjected capacity threadSafe).run preserved_uninjected
    (fun _ _ hw => hw.2) hr).host
  have hlists : Lists m.set.host m.roster.added :=
    Upholds.of_run upholds_lists hempty (hr.mono fun _ _ hw => hw.1) hL hchange
  have hbuffer : m.set.buffer.held = false := by rw [hm.buffer_held, hpoll]; rfl
  have hroster : m.set.roster.held = false := by rw [hm.roster_held, hchange]; rfl
  have hrecord : ∀ x ∈ m.roster.added, m.roster.addition? x.tag.index = some x :=
    fun x hx => (hm.refines.mem_added_iff.mp hx).2
  have halone := alone_wait (h := m.set.host.note (.polling timeout)) hlists hquiet
    (b := m.set.buffer.value) (by rw [hroomy.buffer]; exact hroomy.added)
    (by rw [hroomy.buffer]; exact hmax) (by rw [hroomy.buffer]; exact hwait)
  rw [WatchSet.alone_poll hbuffer hroster]
  have hstart : (start host capacity threadSafe).roster.added = [] := rfl
  rw [show Facility.wait (β := Epoll) = wait from rfl, halone, ← hstart, ← hadded]
  refine Roster.Reports.finishPoll ?_ ?_ _ _
  · exact hroster
  · exact reports hrecord

/-- The second of four descriptors is refused and the third one removed.  The first is watched for
reading and has urgent data and an error, the last one only has what it is not watched for. -/
theorem epoll_reports_levels_refused :
    ∃ (host : Host Epoll) (L : List (Label Epoll)) (m : Moment Epoll) (events : List EpollEvent),
      host.entries = [] ∧ Uninjected host ∧ 4 ≤ 2147483647 ∧
      Run Undisturbed (start host 4 true) L m ∧ (∀ a ∈ L, a.Steady) ∧ m.change = none ∧
      m.poll = none ∧
      (Progress.alone (m.set.host.kernel.epollWait m.set.host.facility.handle.fd (room 4)
        (timeoutMillis none))).1 = .done events ∧
      (Progress.alone (m.set.poll [] none)).1 =
        (.done 2, [⟨.socket 50, ⟨7⟩, ⟨5⟩⟩, ⟨.file 53, ⟨10⟩, .hup⟩]) := by
  obtain ⟨host, L, m, hempty, hinjected, hr, hchange, hpoll, hwait, hL, hadded, hlevel⟩ :
      ∃ (host : Host Epoll) (L : List (Label Epoll)) (m : Moment Epoll), host.entries = [] ∧
        Uninjected host ∧ Run Undisturbed (start host 4 true) L m ∧ m.change = none ∧
        m.poll = none ∧
        (Progress.alone (m.set.host.kernel.epollWait m.set.host.facility.handle.fd (room 4)
          (timeoutMillis none))).1 = .done [⟨10, .pack 0 0⟩, ⟨8192, .pack 2 0⟩] ∧
        (∀ a ∈ L, a.Steady) ∧
        L.foldl (fun added a => a.tell added) [] =
          [⟨.pack 0 0, .socket 50, .readable, ⟨7⟩⟩, ⟨.pack 2 0, .file 53, .writable, ⟨10⟩⟩] ∧
        m.set.host.kernel.level = Kernel.level { levels := [(50, 14), (53, 8193)] } := by
    refine ⟨⟨⟨⟨1000⟩⟩, { live := [1000], invalid := [51] }, #[]⟩, _, _, rfl, rfl,
      .step (.beginAdd (.socket 50) .readable ⟨7⟩ rfl) <| .step (.callChange rfl rfl) <|
      .step (.endChange rfl) <|
      .step (.beginAdd (.socket 51) .both ⟨8⟩ rfl) <| .step (.callChange rfl rfl) <|
      .step (.endChange rfl) <|
      .step (.beginAdd (.socket 52) .both ⟨9⟩ rfl) <| .step (.callChange rfl rfl) <|
      .step (.endChange rfl) <|
      .step (.beginAdd (.file 53) .writable ⟨10⟩ rfl) <| .step (.callChange rfl rfl) <|
      .step (.endChange rfl) <|
      .step (.beginRemove (.socket 52) rfl) <| .step (.callChange rfl rfl) <|
      .step (.endChange rfl) <|
      .step (.world (show Undisturbed _ ⟨⟨⟨1000⟩⟩,
        { live := [1000]
          levels := [(50, 14), (53, 8193)]
          epollRegistrations := [⟨50, 8195, .pack 0 0⟩, ⟨53, 8196, .pack 2 0⟩] }, #[]⟩
        from ⟨rfl, fun _ => rfl⟩)) <| .refl _, rfl, rfl, rfl, ?_, rfl, rfl⟩
    simp only [List.forall_mem_cons]
    exact ⟨trivial, trivial, trivial, trivial, trivial, trivial, trivial, trivial, trivial, trivial,
      trivial, trivial, trivial, trivial, rfl, trivial, by rintro a ⟨⟩⟩
  have hreply := epoll_reports_levels hempty hinjected (by decide) hr hL hchange hpoll none hwait []
  rw [hadded, hlevel] at hreply
  exact ⟨host, L, m, _, hempty, hinjected, by decide, hr, hL, hchange, hpoll, hwait, hreply⟩

end Moment

end Readiness
