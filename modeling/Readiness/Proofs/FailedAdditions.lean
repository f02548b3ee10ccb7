import Readiness.Proofs.MemberMap
import Readiness.Proofs.Rollbacks

/-! # Additions that fail

Adding takes a record, calls the facility, and gives the record back if the facility refuses.  What
is left then is as before, up to the order of the free records and the contents of one of them.

* **Records** (`Roster.PutBack`).  Taking a record out of the free ring, or making one, and putting it
  back touches no record of the active or the dead ring, neither its contents nor its links.
* **Failures** (`WatchSet.Refusal`).  There are three: the descriptor is active, there is no room or
  no record left, and the facility refuses.  In the first two nothing happens at all.
* **Traces** (`LeavesNoTrace`).  A failed adding changes nothing that can be seen later, in the rings
  and in the registrations. -/

namespace Readiness

open Registry

/-! ### Records that are taken and put back -/

namespace Roster

variable {roster roster' : Roster} {l : RosterLists} {d : Descriptor} {f : Interests} {id : EventId}
  {t : Tag} {j : UInt32}

/-- Allocating takes nothing from the active and the dead ring, and counts nothing. -/
theorem allocate_eq_some (ha : roster.allocate d f id = some (t, roster')) :
    roster'.active = roster.active ∧ roster'.dead = roster.dead ∧
      roster'.retired = roster.retired ∧ roster'.reclaimed = roster.reclaimed := by
  unfold Roster.allocate at ha
  split at ha
  · obtain ⟨-, rfl⟩ := Prod.mk.inj (Option.some.inj ha)
    exact ⟨rfl, rfl, rfl, rfl⟩
  · obtain ⟨-, he⟩ := Option.ite_none_left_eq_some.mp ha
    obtain ⟨-, rfl⟩ := Prod.mk.inj (Option.some.inj he)
    exact ⟨rfl, rfl, rfl, rfl⟩

/-- Allocating does not touch the records of the active and the dead ring. -/
theorem Refines.record?_allocate (h : roster.Refines l)
    (ha : roster.allocate d f id = some (t, roster')) (hj : j ∈ l.active ++ l.dead) :
    roster'.record? j = roster.record? j := by
  obtain ⟨hactive, hdead, -⟩ := RosterLists.apart h.nodup
  have hfree : j ∉ l.free := by
    rcases List.mem_append.mp hj with hj | hj
    · exact (hactive j hj).2.1
    · exact (hdead j hj).1
  cases hl : l.free with
  | nil =>
      rw [allocate_of_free_nil h hl] at ha
      obtain ⟨-, he⟩ := Option.ite_none_left_eq_some.mp ha
      obtain ⟨-, rfl⟩ := Prod.mk.inj (Option.some.inj he)
      have hlt : j.toNat < roster.records.size := by
        refine (h.mem_all j).mp ?_
        simp only [RosterLists.all, List.append_assoc]
        exact List.mem_append.mpr ((List.mem_append.mp hj).imp_right (List.mem_append_left _))
      rw [record?, record?, Array.getElem?_push_lt hlt, Array.getElem?_eq_getElem hlt]
  | cons i rest =>
      rw [allocate_of_free_cons h hl] at ha
      obtain ⟨-, rfl⟩ := Prod.mk.inj (Option.some.inj ha)
      have hi : i ∈ l.free := hl ▸ List.mem_cons_self
      have hne : i ≠ j := fun he => hfree (he ▸ hi)
      show (Array.modify _ _ _)[j.toNat]? = _
      rw [Arena.getElem?_modify_toNat, if_neg hne]
      exact Arena.getElem?_eq_of_links (h.free.links?_erase hi hfree) (Ring.bare?_erase ..)

/-- Releasing a record does not touch the records of the active and the dead ring. -/
theorem Refines.record?_release (h : roster.Refines l) (ht : t.index ∈ l.outside)
    (hj : j ∈ l.active ++ l.dead) : (roster.release t).record? j = roster.record? j := by
  obtain ⟨hactive, hdead, -⟩ := RosterLists.apart h.nodup
  have hout : j ∉ l.free ∧ j ∉ l.outside := by
    rcases List.mem_append.mp hj with hj | hj
    · exact (hactive j hj).2
    · exact hdead j hj
  have hne : t.index ≠ j := fun he => hout.2 (he ▸ ht)
  exact Arena.getElem?_eq_of_links (h.free.links?_push hne hout.1) (Ring.bare?_push ..)

/-- Everything but the free ring and its records is as before. -/
structure Untouched (roster roster' : Roster) : Prop where
  active : roster'.active = roster.active
  dead : roster'.dead = roster.dead
  retired : roster'.retired = roster.retired
  reclaimed : roster'.reclaimed = roster.reclaimed
  record : ∀ j ∈ roster.active.forward roster.records ++ roster.dead.forward roster.records,
    roster'.record? j = roster.record? j

theorem Untouched.refl (roster : Roster) : roster.Untouched roster :=
  ⟨rfl, rfl, rfl, rfl, fun _ _ => rfl⟩

/-- Tags of active and dead records resolve as before. -/
theorem Untouched.resolve?_eq (h : roster.Untouched roster')
    (ht : t.index ∈ roster.active.forward roster.records ++ roster.dead.forward roster.records) :
    roster'.resolve? t = roster.resolve? t := by
  rw [resolve?, resolve?, h.record _ ht]

/-- A record was taken and put back.  Of the free records the first one is the last one now, or there
was none and a new one was made. -/
structure PutBack (roster roster' : Roster) : Prop extends Untouched roster roster' where
  free : (∃ i rest, roster.free.forward roster.records = i :: rest ∧
      roster'.free.forward roster'.records = rest ++ [i] ∧
      roster'.records.size = roster.records.size) ∨
    (roster.free.forward roster.records = [] ∧
      roster'.free.forward roster'.records = [UInt32.ofNat roster.records.size] ∧
      roster'.records.size = roster.records.size + 1)

/-- Allocating and releasing puts the record back. -/
theorem Refines.putBack (h : roster.Refines l)
    (ha : roster.allocate d f id = some (t, roster')) : roster.PutBack (roster'.release t) := by
  obtain ⟨hactive, hdead, hretired, hreclaimed⟩ := allocate_eq_some ha
  rcases h.allocate d f id with ⟨hnone, -⟩ | ⟨t', r', l', hr', hl', h'⟩
  · cases hnone.symm.trans ha
  obtain ⟨rfl, rfl⟩ := Prod.mk.inj (Option.some.inj (hr'.symm.trans ha))
  obtain ⟨hactive', hdead', hout, -, hfree⟩ := RosterLists.allocate_eq_some hl'
  have ht : t'.index ∈ l'.outside := hout ▸ List.mem_cons_self
  have hforward : (r'.release t').free.forward (r'.release t').records = l'.free ++ [t'.index] :=
    (h'.release ht).forward_free
  have hsize : (r'.release t').records.size = r'.records.size := Ring.size_push ..
  refine { active := hactive, dead := hdead, retired := hretired, reclaimed := hreclaimed,
           record := fun j hj => ?_, free := ?_ }
  · rw [h.forward_active, h.forward_dead] at hj
    refine (h'.record?_release ht ?_).trans (h.record?_allocate ha hj)
    rwa [hactive', hdead']
  · rw [h.forward_free, hforward, hsize]
    rcases hfree with hfree | ⟨hnil, hnil'⟩
    · refine .inl ⟨t'.index, l'.free, hfree, rfl, ?_⟩
      rw [allocate_of_free_cons h hfree] at ha
      obtain ⟨-, rfl⟩ := Prod.mk.inj (Option.some.inj ha)
      simp
    · rw [allocate_of_free_nil h hnil] at ha
      obtain ⟨-, he⟩ := Option.ite_none_left_eq_some.mp ha
      obtain ⟨rfl, rfl⟩ := Prod.mk.inj (Option.some.inj he)
      refine .inr ⟨hnil, ?_, by simp⟩
      rw [hnil', Tag.index_pack, h.length_all]
      rfl

end Roster

/-! ### Failures -/

namespace WatchSet

variable {β : Type} [Facility β] {s s' : WatchSet β} {d : Descriptor} {i : Interests} {id : EventId}
  {e : Error}

/-- The ways in which adding fails, with what is left of the set.

* The descriptor is active, or there is no room or no record for it: the set only has another line
  in its log.
* The facility refuses: the record that was taken for the descriptor is put back. -/
inductive Refusal (s : WatchSet β) (d : Descriptor) (i : Interests) (id : EventId) (e : Error)
    (s' : WatchSet β) : Prop
  | known : (∃ x ∈ s.roster.value.added, x.descriptor.fd = d.fd) →
      e = .rejected .alreadyExists → s' = s.note (.adding d i id) → Refusal s d i id e s'
  | full : (∀ x ∈ s.roster.value.added, x.descriptor.fd ≠ d.fd) →
      (s.capacity ≤ s.roster.value.active.len ∨ s.roster.value.Exhausted) →
      e = .rejected .noSpace → s' = s.note (.adding d i id) → Refusal s d i id e s'
  | refused (t : Tag) (cause : SystemError) (host : Host β) :
      (∀ x ∈ s.roster.value.added, x.descriptor.fd ≠ d.fd) →
      s.roster.value.active.len < s.capacity → ¬ s.roster.value.Exhausted →
      Facility.watch d.fd i t (s.host.note (.adding d i id)) = (.returned (.failed cause), host) →
      e = .rejected cause → s'.host = host.note (.rejected d cause) →
      s.roster.value.PutBack s'.roster.value → Refusal s d i id e s'

/-- Adding does not fail while a change is in progress; it does not answer then. -/
theorem held_of_add_failed (h : s.add d i id = (.returned (.failed e), s')) :
    s.roster.held = false := by
  cases hheld : s.roster.held with
  | false => rfl
  | true =>
      obtain ⟨cause, hcause⟩ : ∃ cause, (s.note (.adding d i id)).roster.acquire = .error cause :=
        ⟨_, if_pos hheld⟩
      simp only [add, beginAdd, hcause] at h
      cases h

/-- An adding that was accepted fails if the facility refuses at once, and not otherwise. -/
theorem refused_of_add_failed (hfree : s.roster.held = false) {t : Tag} {roster : Roster}
    (hok : s.roster.value.accept s.capacity d i id = .ok (t, roster))
    (h : s.add d i id = (.returned (.failed e), s')) :
    ∃ cause host, Facility.watch d.fd i t (s.host.note (.adding d i id)) =
        (.returned (.failed cause), host) ∧ e = .rejected cause ∧
      s'.host = host.note (.rejected d cause) ∧ s'.roster.value = roster.release t := by
  rw [add_of_ok hfree hok, within, Progress.within,
    show ((s.note (.adding d i id)).locked roster).host = s.host.note (.adding d i id) from rfl] at h
  cases hw : Facility.watch d.fd i t (s.host.note (.adding d i id)) with
  | mk p host =>
      rw [hw] at h
      cases p with
      | inside resume => cases h
      | returned outcome =>
          have hend := Progress.eq_of_atOnce h
          cases outcome with
          | done value => cases hend
          | halted cause => cases hend
          | failed cause =>
              obtain ⟨he, rfl⟩ := Prod.mk.inj hend
              exact ⟨cause, host, rfl, (Outcome.failed.inj he).symm, rfl, rfl⟩

/-- **A failed adding** has failed in one of three ways. -/
theorem refusal {l : RosterLists} (hl : s.roster.value.Refines l)
    (h : s.add d i id = (.returned (.failed e), s')) : Refusal s d i id e s' := by
  have hfree := held_of_add_failed h
  have herror : ∀ cause, s.roster.value.accept s.capacity d i id = .error cause →
      e = .rejected cause ∧ s' = s.note (.adding d i id) := by
    intro cause hcause
    rw [add_of_error hfree hcause] at h
    obtain ⟨he, rfl⟩ := Prod.mk.inj h
    exact ⟨(Outcome.failed.inj (Progress.returned.inj he)).symm, rfl⟩
  cases hfind : s.roster.value.find? d with
  | some j =>
      obtain ⟨he, hs⟩ := herror _ (accept_of_found (by rw [hfind]; rfl))
      obtain ⟨-, x, hx, -, hd, -⟩ := hl.find?_eq_some hfind
      exact .known ⟨x, hx, hd⟩ he hs
  | none =>
      have hnew := hl.find?_eq_none hfind
      by_cases hroom : s.roster.value.active.len < s.capacity
      · cases ha : s.roster.value.allocate d i id with
        | none =>
            obtain ⟨he, hs⟩ := herror _ (accept_of_none hfind ha)
            exact .full hnew (.inr (hl.allocate_eq_none_iff.mp ha)) he hs
        | some accepted =>
            obtain ⟨t, roster⟩ := accepted
            have hleft : ¬ s.roster.value.Exhausted := fun hnone => by
              cases ha.symm.trans (hl.allocate_eq_none_iff.mpr hnone)
            obtain ⟨cause, host, hw, he, hhost, hroster⟩ :=
              refused_of_add_failed hfree (accept_of_some hfind hroom ha) h
            exact .refused t cause host hnew hroom hleft hw he hhost (hroster ▸ hl.putBack ha)
      · have hfull := Nat.le_of_not_lt hroom
        obtain ⟨he, hs⟩ := herror _ (accept_of_full hfind hfull)
        exact .full hnew (.inl hfull) he hs

/-! ### Traces -/

/-- A failed adding of `d` has left no trace of itself.

* The active and the dead ring with their records, and the counters, are as before, and so is what
  the tags of these records resolve to.
* What it has left of the free ring is at most a record at the tail (`Refusal`).
* The registrations of other descriptors are as before, in the order they had. -/
structure Traceless [Registry β] (s : WatchSet β) (d : Descriptor) (i : Interests) (id : EventId)
    (e : Error) (s' : WatchSet β) : Prop where
  rings : s.roster.value.Untouched s'.roster.value
  resolve : ∀ t : Tag, t.index ∈ s.roster.value.active.forward s.roster.value.records ++
    s.roster.value.dead.forward s.roster.value.records →
      s'.roster.value.resolve? t = s.roster.value.resolve? t
  refusal : s.Refusal d i id e s'
  others : s'.host.entries.filter (fd · ≠ d.fd) = s.host.entries.filter (fd · ≠ d.fd)

theorem Refusal.untouched (h : s.Refusal d i id e s') :
    s.roster.value.Untouched s'.roster.value := by
  cases h with
  | known _ _ hs | full _ _ _ hs => exact hs ▸ .refl _
  | refused t cause host _ _ _ _ _ _ hback => exact hback.toUntouched

/-- A facility that restores what a failed watch has registered leaves no trace of a failed
adding. -/
theorem Refusal.traceless [Registry β] {Proviso : Int32 → Host β → Host β → Prop}
    (hrestores : Restores β Proviso)
    (hnote : ∀ (n : Int32) (h h' : Host β) (entry entry' : LogEntry),
      Proviso n h (h'.note entry') → Proviso n (h.note entry) h')
    (h : s.Refusal d i id e s') :
    s.Traceless d i id e s' ∧
      (((∀ x ∈ s.roster.value.added, x.descriptor.fd ≠ d.fd) → Proviso d.fd s.host s'.host) →
        s'.host.entries = s.host.entries) := by
  have hrings := h.untouched
  suffices hentries : s'.host.entries.filter (fd · ≠ d.fd) = s.host.entries.filter (fd · ≠ d.fd) ∧
      (((∀ x ∈ s.roster.value.added, x.descriptor.fd ≠ d.fd) → Proviso d.fd s.host s'.host) →
        s'.host.entries = s.host.entries) from
    ⟨⟨hrings, fun t => hrings.resolve?_eq, h, hentries.1⟩, hentries.2⟩
  cases h with
  | known _ _ hs | full _ _ _ hs => exact hs ▸ ⟨rfl, fun _ => rfl⟩
  | refused t cause host hnew _ _ hw _ hhost _ =>
      obtain ⟨hothers, hall⟩ := hrestores _ _ _ _ _ _ hw
      rw [hhost]
      exact ⟨hothers, fun hproviso => hall (hnote _ _ _ _ _ (hproviso hnew))⟩

end WatchSet

/-- Whenever adding fails on a set of this kind, at any moment of any run, it leaves no trace in the
rings, and under the proviso the registrations are as before. -/
def LeavesNoTrace (β : Type) [Facility β] [Registry β]
    (Proviso : WatchSet β → Descriptor → WatchSet β → Prop) : Prop :=
  ∀ (W : Host β → Host β → Prop) (host : Host β) (capacity : Nat) (threadSafe : Bool)
    (L : List (Label β)) (m : Moment β), Moment.Run W (.start host capacity threadSafe) L m →
      ∀ d i id e s', m.set.add d i id = (.returned (.failed e), s') →
        m.set.Traceless d i id e s' ∧
          (Proviso m.set d s' → s'.host.entries = m.set.host.entries)

/-- A facility that restores the registrations of a failed watch leaves no trace of a failed
adding. -/
theorem LeavesNoTrace.of_restores {β : Type} [Facility β] [Registry β]
    {Proviso : WatchSet β → Descriptor → WatchSet β → Prop}
    {Restored : Int32 → Host β → Host β → Prop} (hrestores : Restores β Restored)
    (hnote : ∀ (n : Int32) (h h' : Host β) (entry entry' : LogEntry),
      Restored n h (h'.note entry') → Restored n (h.note entry) h')
    (hproviso : ∀ s d s', Proviso s d s' → (∀ x ∈ s.roster.value.added, x.descriptor.fd ≠ d.fd) →
      Restored d.fd s.host s'.host) : LeavesNoTrace β Proviso := by
  intro W host capacity threadSafe L m hr d i id e s' hadd
  obtain ⟨l, hm, -⟩ := (Moment.shows_start host capacity threadSafe).run hr
  obtain ⟨htraceless, hentries⟩ := (WatchSet.refusal hm.refines hadd).traceless hrestores hnote
  exact ⟨htraceless, fun h => hentries (hproviso _ _ _ h)⟩

/-- The deletions that the adding asked for were made, and no registration of the descriptor was
left behind before: unless the descriptor is active, there is none. -/
def Kqueue.RolledBack (s : WatchSet Kqueue) (d : Descriptor) (s' : WatchSet Kqueue) : Prop :=
  Kernel.MakesDeletions (s.host.kernel.changesSince s'.host.kernel) s.host.kernel ∧
    ((∀ x ∈ s.roster.value.added, x.descriptor.fd ≠ d.fd) → ∀ e ∈ s.host.entries, fd e ≠ d.fd)

/-- **A failed adding leaves no trace**, on any of the facilities. -/
theorem failed_adding_leaves_no_trace :
    LeavesNoTrace Epoll (fun _ _ _ => True) ∧ LeavesNoTrace Poll (fun _ _ _ => True) ∧
      LeavesNoTrace Kqueue Kqueue.RolledBack := by
  refine ⟨?_, ?_, ?_⟩
  · exact .of_restores Epoll.restores (fun _ _ _ _ _ h => h) fun _ _ _ _ _ => trivial
  · exact .of_restores Poll.restores (fun _ _ _ _ _ h => h) fun _ _ _ _ _ => trivial
  · exact .of_restores Kqueue.restores (fun _ _ _ _ _ h => h)
      fun _ _ _ ⟨hmade, hclean⟩ hnew => ⟨hmade, hclean hnew⟩

/-- While one descriptor is active, another one is refused its second filter, and its first filter is
deleted again.  Four changes were asked for; what is registered and what is active is as before. -/
theorem failed_adding_leaves_no_trace_rollback :
    ∃ (host : Host Kqueue) (L : List (Label Kqueue)) (m : Moment Kqueue) (s' : WatchSet Kqueue),
      Moment.Run (fun _ _ => False) (.start host 4 true) L m ∧
      m.set.add (.socket 51) .both ⟨8⟩ =
        (.returned (.failed (.rejected (.os 12))), s') ∧
      m.roster.added = [⟨.pack 0 0, .socket 50, .readable, ⟨7⟩⟩] ∧
      s'.host.kernel.calls.size = m.set.host.kernel.calls.size + 3 ∧
      s'.host.entries = m.set.host.entries ∧
      m.set.Traceless (.socket 51) .both ⟨8⟩ (.rejected (.os 12)) s' := by
  obtain ⟨host, L, m, s', hr, hadd, hadded, hcalls, hmade, hclean⟩ :
      ∃ (host : Host Kqueue) (L : List (Label Kqueue)) (m : Moment Kqueue) (s' : WatchSet Kqueue),
        Moment.Run (fun _ _ => False) (.start host 4 true) L m ∧
        m.set.add (.socket 51) .both ⟨8⟩ =
          (.returned (.failed (.rejected (.os 12))), s') ∧
        m.roster.added = [⟨.pack 0 0, .socket 50, .readable, ⟨7⟩⟩] ∧
        s'.host.kernel.calls.size = m.set.host.kernel.calls.size + 3 ∧
        Kernel.MakesDeletions (m.set.host.kernel.changesSince s'.host.kernel) m.set.host.kernel ∧
        m.set.host.entries = [⟨50, -1, .pack 0 0⟩] := by
    refine ⟨⟨⟨⟨1000⟩⟩, { live := [1000], verdicts := [(.kevent, .pass), (.kevent, .pass),
        (.kevent, .fail 12 (by decide))] }, #[]⟩, _, _, _,
      .step (.beginAdd (.socket 50) .readable ⟨7⟩ rfl) <| .step (.callChange rfl rfl) <|
      .step (.endChange rfl) <| .refl _, rfl, rfl, rfl, ?_, rfl⟩
    exact ⟨nofun, nofun, fun _ => ⟨rfl, rfl⟩, trivial⟩
  obtain ⟨htraceless, hentries⟩ :=
    failed_adding_leaves_no_trace.2.2 _ host 4 true L m hr _ _ _ _ s' hadd
  refine ⟨host, L, m, s', hr, hadd, hadded, hcalls, hentries ⟨hmade, fun _ => ?_⟩, htraceless⟩
  rw [hclean]
  simp [fd, slot, Descriptor.fd]

end Readiness
