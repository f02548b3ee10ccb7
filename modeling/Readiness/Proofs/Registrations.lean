import Readiness.Proofs.DescriptorRegistries
import Readiness.Proofs.FilterRegistry

/-! # Registrations in every run

Between changes, each active record is registered, and nothing else is unless it was left behind.

* **Records.**  A record is registered if each registration for its addition is the only one in its
  slot (`Moment.RecordsRegistered`).  So the facility reports the descriptor with the tag of the
  record, and with no other.
* **Others.**  Registrations that belong to no active record are those that an unwatch or a rollback
  failed to delete (`Moment.NoneLeftBehind`).
* **Result.**  `registrations_match` says this of all runs over `epoll`, `poll` and `kqueue`. -/

namespace Readiness

open Registry

variable {β : Type} [Registry β]

/-- A registration is the only one in its slot. -/
theorem Host.SlotsApart.filter_slot {h : Host β} (hapart : h.SlotsApart) {e : Entry β}
    (he : e ∈ h.entries) : h.entries.filter (slot · = slot e) = [e] := by
  have hnodup : h.entries.Nodup := List.Nodup.of_map _ hapart
  refine List.perm_singleton.mp ?_
  refine (List.perm_ext_iff_of_nodup (hnodup.filter _) (List.nodup_singleton e)).mpr fun e' => ?_
  rw [List.mem_filter, decide_eq_true_iff, List.mem_singleton]
  constructor
  · rintro ⟨he', hslot⟩
    exact List.inj_on_of_nodup_map hapart he' he hslot
  · rintro rfl
    exact ⟨he, rfl⟩

/-- A host without registrations is as it should be without additions. -/
theorem registersOnly_nil {h : Host β} (hempty : h.entries = []) : RegistersOnly h [] := by
  refine ⟨⟨?_, nofun⟩, fun e he => ?_⟩
  · rw [Host.SlotsApart, hempty]
    exact List.nodup_nil
  · rw [hempty] at he
    cases he

namespace Moment

/-- Every registration for the addition of an active record is there, the only one in its slot. -/
def RecordsRegistered (m : Moment β) : Prop :=
  ∀ i ∈ m.roster.active.forward m.roster.records, ∃ x, m.roster.addition? i = some x ∧
    ∀ e ∈ wanted (β := β) x, m.set.host.entries.filter (slot · = slot e) = [e]

/-- Every registration is one for the addition of an active record. -/
def NoneLeftBehind (m : Moment β) : Prop :=
  ∀ e ∈ m.set.host.entries, ∃ i ∈ m.roster.active.forward m.roster.records,
    ∃ x, m.roster.addition? i = some x ∧ e ∈ wanted x

variable {m : Moment β} {l : RosterLists}

theorem Shows.recordsRegistered (hm : m.Shows l) (h : Registers m.set.host m.roster.added) :
    m.RecordsRegistered := by
  obtain ⟨hapart, hpresent⟩ := h
  intro i hi
  rw [hm.refines.forward_active] at hi
  have hall : i ∈ l.all := by simp [RosterLists.all, hi]
  obtain ⟨x, hx⟩ := hm.refines.isSome_addition? hall
  refine ⟨x, hx, fun e he => hapart.filter_slot (hpresent x ?_ e he)⟩
  rw [hm.refines.added_eq]
  exact List.mem_filterMap.mpr ⟨i, hi, hx⟩

theorem noneLeftBehind_of_registersOnly (h : RegistersOnly m.set.host m.roster.added) :
    m.NoneLeftBehind := by
  intro e he
  obtain ⟨x, hx, hex⟩ := h.2 e he
  obtain ⟨i, hi, hxi⟩ := List.mem_filterMap.mp hx
  exact ⟨i, hi, x, hxi, hex⟩

variable [Facility β]

/-- The registrations of a facility agree with the active records in every run that begins with a
new set and no registration.  Between changes, each active record is registered, and there are no
other registrations unless one was left behind. -/
def RegistrationsMatch (β : Type) [Facility β] [Registry β] : Prop :=
  ∀ (host : Host β) (capacity : Nat) (threadSafe : Bool) (L : List (Label β)) (m : Moment β),
    host.entries = [] →
    Run (fun h h' => h'.entries = h.entries) (start host capacity threadSafe) L m →
    (∀ a ∈ L, a.Fine) → m.change = none →
      m.RecordsRegistered ∧ ((∀ a ∈ L, a.Clean) → m.NoneLeftBehind)

/-- What every step upholds holds between changes, if it holds without additions. -/
theorem Upholds.of_run [LawfulRegistry β] {Fine : Label β → Prop}
    {P : Host β → List Addition → Prop} (hu : Upholds Fine P) {host : Host β} {capacity : Nat}
    {threadSafe : Bool} {L : List (Label β)} (hstart : P host [])
    (hr : Run (fun h h' => h'.entries = h.entries) (start host capacity threadSafe) L m)
    (hL : ∀ a ∈ L, Fine a) (hc : m.change = none) : P m.set.host m.roster.added := by
  have hshows := shows_start host capacity threadSafe
  have hquiet : (start host capacity threadSafe).WaitsQuietly := nofun
  have hexpects : (start host capacity threadSafe).Expects Fine P :=
    (expects_of_none rfl).mpr hstart
  exact (expects_of_none hc).mp (hexpects.run hu (fun _ _ => id) hshows hquiet hr hL)

theorem registrationsMatch_of_lawful [LawfulRegistry β] : RegistrationsMatch β := by
  intro host capacity threadSafe L m hempty hr hfine hc
  obtain ⟨l, hm, -⟩ := (shows_start host capacity threadSafe).run hr
  have honly : RegistersOnly host [] := registersOnly_nil hempty
  constructor
  · exact hm.recordsRegistered (Upholds.of_run upholds_registers honly.1 hr hfine hc)
  · intro hclean
    refine noneLeftBehind_of_registersOnly (Upholds.of_run upholds_registersOnly honly hr ?_ hc)
    exact fun a ha => ⟨hfine a ha, hclean a ha⟩

/-- **Registrations match.**  Whichever calls of the facility fail, and whatever is added and
removed while others wait, between changes each active record is registered with its descriptor,
its interests and its tag, and there are no other registrations if every active descriptor that was
removed was unwatched and every rollback succeeded. -/
theorem registrations_match :
    RegistrationsMatch Epoll ∧ RegistrationsMatch Poll ∧ RegistrationsMatch Kqueue :=
  ⟨registrationsMatch_of_lawful, registrationsMatch_of_lawful, registrationsMatch_of_lawful⟩

/-- The first call that watches a descriptor is interrupted.  While a poll waits, another one is
refused its second filter, and the first one is deleted again. -/
theorem registrations_match_rollback :
    ∃ (host : Host Kqueue) (L : List (Label Kqueue)) (m : Moment Kqueue), host.entries = [] ∧
      Run (fun h h' => h'.entries = h.entries) (start host 4 true) L m ∧ (∀ a ∈ L, a.Fine) ∧
      m.change = none ∧ (∀ a ∈ L, a.Clean) ∧
      m.set.host.entries = [⟨50, -1, .pack 0 0⟩, ⟨50, -2, .pack 0 0⟩] ∧
      m.RecordsRegistered ∧ m.NoneLeftBehind := by
  obtain ⟨host, L, m, hempty, hr, hc, hentries, hfine, hclean⟩ :
      ∃ (host : Host Kqueue) (L : List (Label Kqueue)) (m : Moment Kqueue), host.entries = [] ∧
        Run (fun h h' => h'.entries = h.entries) (start host 4 true) L m ∧ m.change = none ∧
        m.set.host.entries = [⟨50, -1, .pack 0 0⟩, ⟨50, -2, .pack 0 0⟩] ∧
        (∀ a ∈ L, a.Fine) ∧ (∀ a ∈ L, a.Clean) := by
    refine ⟨⟨⟨⟨1000⟩⟩, { live := [1000], verdicts := [(.kevent, .fail 4 (by decide)),
        (.kevent, .pass), (.kevent, .pass), (.kevent, .fail 12 (by decide))] }, #[]⟩, _, _, rfl,
      .step (.beginAdd (.socket 50) .both ⟨7⟩ rfl) <| .step (.callChange rfl rfl) <|
      .step (.endChange rfl) <|
      .step (.beginPoll none rfl) <| .step (.callWait rfl rfl) <|
      .step (.beginAdd (.socket 51) .both ⟨8⟩ rfl) <| .step (.callChange rfl rfl) <|
      .step (.endChange rfl) <| .refl _, ?_, ?_, ?_, ?_⟩
    · rfl
    · rfl
    · simp only [List.forall_mem_cons]
      refine ⟨trivial, ?_, rfl, trivial, trivial, trivial, ?_, rfl, by rintro a ⟨⟩⟩
      · refine ⟨fun _ => ⟨rfl, rfl⟩, fun h => ?_, trivial⟩
        cases h
      · refine ⟨fun h => ?_, fun h => ?_, fun h => ?_, trivial⟩
        · cases h
        · cases h
        · cases h
    · simp only [List.forall_mem_cons]
      exact ⟨trivial, rfl, trivial, trivial, trivial, trivial, rfl, trivial, by rintro a ⟨⟩⟩
  obtain ⟨hrecords, hothers⟩ := registrations_match.2.2 host 4 true L m hempty hr hfine hc
  exact ⟨host, L, m, hempty, hr, hfine, hc, hclean, hentries, hrecords, hothers hclean⟩

end Moment

end Readiness
