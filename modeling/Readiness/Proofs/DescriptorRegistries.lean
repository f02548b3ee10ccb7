import Readiness.Facility.Epoll
import Readiness.Proofs.PollArrays
import Readiness.Proofs.Registry

/-! # One registration for each descriptor

* **`epoll`.**  The kernel keeps the registrations.  It refuses a second one for a descriptor, and
  deleting takes the one there is.
* **`poll`.**  The facility has a table of its own.  It refuses a second entry for a descriptor;
  unwatching an active descriptor takes all interests of its entry, so the entry disappears and
  another one takes its place. -/

namespace Readiness

open Registry

/-! ### Calls that do nothing or one thing -/

section

variable {β : Type} [Registry β] {h h' : Host β} {outcome : Outcome SystemError Unit}
  {x : Addition} {d : Int32} {i : Interests}

theorem Watched.of_unchanged (he : h'.entries = h.entries) (hne : outcome ≠ .done ()) :
    Watched x outcome h h' where
  apart hapart := by rw [Host.SlotsApart, he]; exact hapart
  frame e _ := by rw [he]
  present _ hdone := absurd hdone hne
  tidy _ _ _ hnew e hmem hfd := absurd hfd (hnew e (he ▸ hmem))

theorem Watched.of_append {e : Entry β} (he : h'.entries = h.entries ++ [e])
    (hslot : slot e = (x.descriptor.fd, none)) (hwanted : wanted x = [e])
    (hnew : ∀ e' ∈ h.entries, fd e' ≠ x.descriptor.fd) : Watched x (.done ()) h h' where
  apart hapart := by
    rw [Host.SlotsApart, he, List.map_append]
    refine List.nodup_append.mpr ⟨hapart, List.nodup_singleton _, ?_⟩
    intro s hs s' hs' hss
    obtain ⟨e', he', rfl⟩ := List.mem_map.mp hs
    obtain rfl := List.mem_singleton.mp hs'
    exact hnew e' he' (by rw [fd, hss, hslot])
  frame e' hfd := by
    rw [he, List.mem_append, List.mem_singleton]
    refine or_iff_left ?_
    rintro rfl
    exact hfd (by rw [fd, hslot])
  present _ _ e' he' := by
    rw [hwanted] at he'
    exact he ▸ List.mem_append_right _ he'
  tidy _ _ _ _ e' hmem hfd := by
    rw [he] at hmem
    refine ⟨rfl, ?_⟩
    rw [hwanted]
    exact (List.mem_append.mp hmem).resolve_left fun hold => hnew e' hold hfd

theorem Unwatched.of_unchanged (he : h'.entries = h.entries) (hne : outcome ≠ .done ()) :
    Unwatched d i outcome h h' where
  apart hapart := by rw [Host.SlotsApart, he]; exact hapart
  frame e _ := by rw [he]
  absent habsent := he ▸ habsent
  gone _ hdone := absurd hdone hne

end

/-! ### The kernel -/

namespace Kernel

variable {k k' : Kernel} {handle fd : Int32} {outcome : Outcome SystemError Unit}

theorem epollAdd_eq {events : UInt32} {t : Tag}
    (h : k.epollAdd handle fd events t = (outcome, k')) :
    (outcome = .done () ∧ (∀ r ∈ k.epollRegistrations, r.fd ≠ fd) ∧
        k'.epollRegistrations = k.epollRegistrations ++ [⟨fd, events, t⟩]) ∨
      (outcome ≠ .done () ∧ k'.epollRegistrations = k.epollRegistrations) := by
  obtain ⟨verdicts, hact | ⟨rfl, hne⟩⟩ := obey_eq h
  · split at hact
    · obtain ⟨rfl, rfl⟩ := Prod.mk.inj hact
      exact .inr ⟨nofun, rfl⟩
    · split at hact
      · obtain ⟨rfl, rfl⟩ := Prod.mk.inj hact
        exact .inr ⟨nofun, rfl⟩
      · rename_i hnew
        obtain ⟨rfl, rfl⟩ := Prod.mk.inj hact
        refine .inl ⟨rfl, fun r hr he => hnew ?_, rfl⟩
        exact List.any_eq_true.mpr ⟨r, hr, beq_iff_eq.mpr he⟩
  · exact .inr ⟨hne (), rfl⟩

theorem epollDelete_eq (h : k.epollDelete handle fd = (outcome, k')) :
    (outcome = .done () ∧
        k'.epollRegistrations = k.epollRegistrations.filter (·.fd ≠ fd)) ∨
      (outcome ≠ .done () ∧ k'.epollRegistrations = k.epollRegistrations) := by
  obtain ⟨verdicts, hact | ⟨rfl, hne⟩⟩ := obey_eq h
  · split at hact
    · obtain ⟨rfl, rfl⟩ := Prod.mk.inj hact
      exact .inr ⟨nofun, rfl⟩
    · split at hact
      · obtain ⟨rfl, rfl⟩ := Prod.mk.inj hact
        exact .inl ⟨rfl, rfl⟩
      · obtain ⟨rfl, rfl⟩ := Prod.mk.inj hact
        exact .inr ⟨nofun, rfl⟩
  · exact .inr ⟨hne (), rfl⟩

theorem keeps_epollWait (handle room timeout : Int32) :
    Progress.Keeps epollRegistrations (epollWait handle room timeout) := by
  intro k
  unfold epollWait
  dsimp only
  split
  · exact ⟨rfl, nofun⟩
  · refine ⟨rfl, fun resume he t => ?_⟩
    obtain rfl := Progress.inside.inj he
    refine obey_keeps (fun _ _ => rfl) (fun k => ?_) t
    split <;> rfl

end Kernel

/-! ### `epoll` -/

namespace Epoll

instance : Registry Epoll where
  Entry := EpollRegistration
  entries _ k := k.epollRegistrations
  slot r := (r.fd, none)
  wanted x := [⟨x.descriptor.fd, requested x.interests, x.tag⟩]
  Honoured _ _ := True

variable {h h' : Host Epoll} {outcome : Outcome SystemError Unit}

theorem watched {x : Addition}
    (hp : watch x.descriptor.fd x.interests x.tag h = (outcome, h')) : Watched x outcome h h' := by
  obtain ⟨kernel, hadd, rfl⟩ := Host.system_eq hp
  rcases Kernel.epollAdd_eq hadd with ⟨rfl, hnew, hk⟩ | ⟨hne, hk⟩
  · exact .of_append hk rfl rfl hnew
  · exact .of_unchanged hk hne

theorem unwatched {d : Int32} (i : Interests) (hp : unwatch d h = (outcome, h')) :
    Unwatched d i outcome h h' := by
  obtain ⟨kernel, hdelete, rfl⟩ := Host.system_eq hp
  rcases Kernel.epollDelete_eq hdelete with ⟨rfl, hk⟩ | ⟨hne, hk⟩
  · have hk' : Host.entries { h with kernel } = h.entries.filter (fd · ≠ d) := hk
    have hmem : ∀ e, e ∈ Host.entries { h with kernel } ↔ e ∈ h.entries ∧ fd e ≠ d := by
      intro e
      rw [hk', List.mem_filter, decide_eq_true_iff]
    refine { apart := fun hapart => ?_, frame := fun e hfd => ?_, absent := fun _ e he => ?_,
             gone := fun _ _ _ _ _ _ _ _ e he => ?_ }
    · rw [Host.SlotsApart, hk']
      exact hapart.sublist (List.filter_sublist.map _)
    · exact (hmem e).trans (and_iff_left hfd)
    · exact ((hmem e).mp he).2
    · exact ((hmem e).mp he).2
  · exact .of_unchanged hk hne

instance : LawfulRegistry Epoll where
  fd_wanted x e he := by
    obtain rfl := List.mem_singleton.mp he
    rfl
  watch x h h' p hp := by
    obtain ⟨rfl, rfl⟩ := Prod.mk.inj hp
    exact ⟨_, rfl, watched rfl⟩
  unwatch d i h h' p hp := by
    obtain ⟨rfl, rfl⟩ := Prod.mk.inj hp
    exact ⟨_, rfl, unwatched i rfl⟩
  wait b timeout h :=
    Progress.Keeps.systemWithin (Kernel.keeps_epollWait _ _ _) (fun _ _ hk => hk)
      (fun _ _ => rfl) h

end Epoll

/-! ### `poll` -/

namespace Poll

/-- The last entry takes the place of the one that is deleted. -/
theorem perm_swapRemove (l₁ l₂ : List PollEntry) (entry : PollEntry) :
    (swapRemove (l₁ ++ entry :: l₂) l₁.length).Perm (l₁ ++ l₂) := by
  rcases List.eq_nil_or_concat l₂ with rfl | ⟨rest, last, rfl⟩
  · simp [swapRemove]
  · have hlast : (l₁ ++ entry :: (rest ++ [last])).getLast? = some last := by
      simp [List.getLast?_cons]
    have hset : (l₁ ++ entry :: (rest ++ [last])).set l₁.length last =
        (l₁ ++ last :: rest) ++ [last] := by simp
    rw [List.concat_eq_append, swapRemove, hlast]
    dsimp only
    rw [hset, List.dropLast_concat]
    exact (List.perm_append_singleton last rest).symm.append_left l₁

/-- The entry of a descriptor, and its place. -/
theorem entry?_eq_some {table : List PollEntry} {d : Int32} {n : Nat} {entry : PollEntry}
    (h : entry? table d = some (n, entry)) :
    ∃ l₁ l₂, table = l₁ ++ entry :: l₂ ∧ n = l₁.length ∧ entry.fd = d := by
  unfold entry? place? at h
  simp only [Option.bind_eq_bind, Option.bind_eq_some_iff] at h
  obtain ⟨k, hk, e, he, hp⟩ := h
  obtain ⟨rfl, rfl⟩ := Prod.mk.inj (Option.some.inj hp)
  obtain ⟨hlt, hfd, -⟩ := List.findIdx?_eq_some_iff_getElem.mp hk
  obtain ⟨_, rfl⟩ := List.getElem?_eq_some_iff.mp he
  refine ⟨table.take k, table.drop (k + 1), ?_, ?_, beq_iff_eq.mp hfd⟩
  · rw [List.getElem_cons_drop, List.take_append_drop]
  · rw [List.length_take, Nat.min_eq_left (Nat.le_of_lt hlt)]

theorem place?_eq_none {table : List PollEntry} {d : Int32} (h : place? table d = none) :
    ∀ e ∈ table, e.fd ≠ d := by
  intro e he hfd
  have := List.findIdx?_eq_none_iff.mp h e he
  exact Bool.false_ne_true (this.symm.trans (beq_iff_eq.mpr hfd))

/-- A descriptor enters a table that has no entry for it, or it is refused. -/
theorem enlist_cases (d : Int32) (i : Interests) (t : Tag) (table : List PollEntry) :
    (∃ cause, enlist d i t table = .error cause) ∨
      ((∀ e ∈ table, e.fd ≠ d) ∧
        enlist d i t table = .ok (table ++ [⟨d, .ofInterests i, t⟩])) := by
  cases hplace : place? table d with
  | some n => exact .inl ⟨.alreadyExists, by simp [enlist, hplace]⟩
  | none => exact .inr ⟨place?_eq_none hplace, by simp [enlist, hplace]⟩

/-- Taking interests from the entry of a descriptor deletes it, or leaves it with the others. -/
theorem lessen_cases {table : List PollEntry} {d : Int32} {n : Nat} {entry : PollEntry}
    (i : Interests) (h : entry? table d = some (n, entry)) :
    ∃ l₁ l₂, table = l₁ ++ entry :: l₂ ∧ entry.fd = d ∧
      (((entry.interests.diff (.ofInterests i)).isEmpty = true ∧
          (lessen table n entry (.ofInterests i)).Perm (l₁ ++ l₂)) ∨
        ((entry.interests.diff (.ofInterests i)).isEmpty ≠ true ∧
          lessen table n entry (.ofInterests i) =
            l₁ ++ { entry with interests := entry.interests.diff (.ofInterests i) } :: l₂)) := by
  obtain ⟨l₁, l₂, rfl, rfl, hd⟩ := entry?_eq_some h
  refine ⟨l₁, l₂, rfl, hd, ?_⟩
  by_cases hlast : (entry.interests.diff (.ofInterests i)).isEmpty = true
  · refine .inl ⟨hlast, ?_⟩
    rw [lessen, if_pos hlast]
    exact perm_swapRemove l₁ l₂ entry
  · refine .inr ⟨hlast, ?_⟩
    rw [lessen, if_neg hlast]
    simp

instance : Registry Poll where
  Entry := PollEntry
  entries b _ := b.table
  slot e := (e.fd, none)
  wanted x := [⟨x.descriptor.fd, .ofInterests x.interests, x.tag⟩]
  Honoured _ _ := True

variable {h h' : Host Poll} {outcome : Outcome SystemError Unit}

/-- Watching adds an entry to a table that has none for the descriptor, or it does nothing. -/
theorem watch_eq {d : Int32} {i : Interests} {t : Tag} (hp : watch d i t h = (outcome, h')) :
    (outcome = .done () ∧ (∀ e ∈ h.entries, e.fd ≠ d) ∧
        h'.entries = h.entries ++ [⟨d, .ofInterests i, t⟩]) ∨
      (outcome ≠ .done () ∧ h'.entries = h.entries) := by
  unfold watch at hp
  by_cases hneg : d < 0
  · simp only [if_pos hneg] at hp
    obtain ⟨rfl, rfl⟩ := Prod.mk.inj hp
    exact .inr ⟨nofun, rfl⟩
  · simp only [if_neg hneg] at hp
    cases hsystem : h.system (·.getFlags d) with
    | mk valid g =>
        obtain ⟨kernel, -, rfl⟩ := Host.system_eq hsystem
        rw [hsystem] at hp
        cases valid with
        | halted cause =>
            obtain ⟨rfl, rfl⟩ := Prod.mk.inj hp
            exact .inr ⟨nofun, rfl⟩
        | failed cause =>
            obtain ⟨rfl, rfl⟩ := Prod.mk.inj hp
            exact .inr ⟨nofun, rfl⟩
        | done value =>
            dsimp only at hp
            split at hp
            · obtain ⟨rfl, rfl⟩ := Prod.mk.inj hp
              exact .inr ⟨nofun, rfl⟩
            · rcases enlist_cases d i t h.facility.table with ⟨cause, he⟩ | ⟨hnew, he⟩
              · simp only [he] at hp
                obtain ⟨rfl, rfl⟩ := Prod.mk.inj hp
                exact .inr ⟨nofun, rfl⟩
              · simp only [he] at hp
                obtain ⟨rfl, rfl⟩ := Prod.mk.inj hp
                exact .inl ⟨rfl, hnew, rfl⟩

theorem watched {x : Addition}
    (hp : watch x.descriptor.fd x.interests x.tag h = (outcome, h')) : Watched x outcome h h' := by
  rcases watch_eq hp with ⟨rfl, hnew, he⟩ | ⟨hne, he⟩
  · exact .of_append he rfl rfl hnew
  · exact .of_unchanged he hne

/-- Unwatching takes the interests from the entry of the descriptor, which disappears if none is
left, or it does nothing. -/
theorem unwatch_eq {d : Int32} {i : Interests} (hp : unwatch d i h = (outcome, h')) :
    (outcome ≠ .done () ∧ h'.entries = h.entries) ∨
      ∃ l₁ entry l₂, h.entries = l₁ ++ entry :: l₂ ∧ entry.fd = d ∧
        (((entry.interests.diff (.ofInterests i)).isEmpty = true ∧
            h'.entries.Perm (l₁ ++ l₂)) ∨
          ((entry.interests.diff (.ofInterests i)).isEmpty ≠ true ∧
            h'.entries =
              l₁ ++ { entry with interests := entry.interests.diff (.ofInterests i) } :: l₂)) := by
  unfold unwatch at hp
  split at hp
  · obtain ⟨rfl, rfl⟩ := Prod.mk.inj hp
    exact .inl ⟨nofun, rfl⟩
  · split at hp
    · obtain ⟨rfl, rfl⟩ := Prod.mk.inj hp
      exact .inl ⟨nofun, rfl⟩
    · rename_i n entry hentry
      obtain ⟨l₁, l₂, htable, hd, hcases⟩ := lessen_cases i hentry
      obtain rfl : h' = changeTable (lessen h.facility.table n entry (.ofInterests i)) h := by
        dsimp only at hp
        split at hp <;> exact (Prod.mk.inj hp).2.symm
      exact .inr ⟨l₁, entry, l₂, htable, hd, hcases⟩

/-- Entries at other places are for other descriptors. -/
theorem fd_ne_of_apart {l₁ l₂ : List PollEntry} {entry e : PollEntry}
    (hapart : ((l₁ ++ entry :: l₂).map (slot (β := Poll))).Nodup) (he : e ∈ l₁ ++ l₂) :
    e.fd ≠ entry.fd := by
  rw [List.map_append, List.map_cons, List.nodup_middle, ← List.map_append] at hapart
  intro hfd
  exact (List.nodup_cons.mp hapart).1 (List.mem_map.mpr ⟨e, he, congrArg (·, none) hfd⟩)

/-- Unwatching that deletes an entry. -/
theorem unwatched_of_perm {i : Interests} {l₁ l₂ : List PollEntry} {entry : PollEntry}
    (hold : h.entries = l₁ ++ entry :: l₂) (hperm : h'.entries.Perm (l₁ ++ l₂)) :
    Unwatched entry.fd i outcome h h' := by
  have hmem : entry ∈ h.entries := hold ▸ List.mem_append_right _ List.mem_cons_self
  refine { apart := fun hapart => ?_, frame := fun e hfd => ?_, absent := fun habsent => ?_,
           gone := fun _ _ hapart x _ _ _ _ e he hfd => ?_ }
  · rw [Host.SlotsApart, hold] at hapart
    rw [Host.SlotsApart, (hperm.map slot).nodup_iff]
    exact hapart.sublist (((List.sublist_cons_self entry l₂).append_left l₁).map _)
  · rw [hperm.mem_iff, hold, List.mem_append, List.mem_append, List.mem_cons]
    have hne : e ≠ entry := fun he => hfd (he ▸ rfl)
    simp only [hne, false_or]
  · exact absurd rfl (habsent entry hmem)
  · rw [Host.SlotsApart, hold] at hapart
    exact fd_ne_of_apart hapart (hperm.mem_iff.mp he) hfd

/-- Unwatching that takes some interests from an entry. -/
theorem unwatched_of_set {i : Interests} {l₁ l₂ : List PollEntry} {entry : PollEntry}
    (entry' : PollEntry) (hold : h.entries = l₁ ++ entry :: l₂)
    (hnew : h'.entries = l₁ ++ entry' :: l₂) (hfd : entry'.fd = entry.fd)
    (hpartial : ∀ x : Addition, x.descriptor.fd = entry.fd → x.interests = i →
      ¬ ∀ e ∈ h.entries, fd e = entry.fd → e ∈ wanted x) :
    Unwatched entry.fd i outcome h h' := by
  have hmem : entry ∈ h.entries := hold ▸ List.mem_append_right _ List.mem_cons_self
  refine { apart := fun hapart => ?_, frame := fun e hne => ?_, absent := fun habsent => ?_,
           gone := fun _ _ _ x hd hi _ honly => absurd honly (hpartial x hd hi) }
  · have hslot : slot (β := Poll) entry' = slot (β := Poll) entry := congrArg (·, none) hfd
    rw [Host.SlotsApart, hold, List.map_append, List.map_cons] at hapart
    rw [Host.SlotsApart, hnew, List.map_append, List.map_cons, hslot]
    exact hapart
  · have he : e ≠ entry := fun he => hne (he ▸ rfl)
    have he' : e ≠ entry' := fun he => hne (he ▸ hfd)
    rw [hold, hnew, List.mem_append, List.mem_append, List.mem_cons, List.mem_cons]
    simp only [he, he', false_or]
  · exact absurd rfl (habsent entry hmem)

/-- Taking its own interests from an entry leaves none. -/
theorem isEmpty_diff_self (i : Interests) :
    ((Conditions.ofInterests i).diff (.ofInterests i)).isEmpty = true := by
  cases i <;> decide

theorem unwatched {d : Int32} {i : Interests} (hp : unwatch d i h = (outcome, h')) :
    Unwatched d i outcome h h' := by
  rcases unwatch_eq hp with ⟨hne, he⟩ | ⟨l₁, entry, l₂, hold, rfl, ⟨-, hperm⟩ | ⟨hlast, hnew⟩⟩
  · exact .of_unchanged he hne
  · exact unwatched_of_perm hold hperm
  · refine unwatched_of_set _ hold hnew rfl ?_
    rintro x - rfl honly
    have hmem : entry ∈ h.entries := hold ▸ List.mem_append_right _ List.mem_cons_self
    obtain rfl := List.mem_singleton.mp (honly entry hmem rfl)
    exact hlast (isEmpty_diff_self _)

/-! ### Waiting with `poll` -/

theorem keeps_poll (entries : List (Int32 × UInt16)) (timeout : Int32) :
    Progress.Keeps (fun _ : Kernel => ()) (Kernel.poll entries timeout) :=
  fun _ => ⟨rfl, fun _ _ _ => rfl⟩

theorem keeps_round (b : NativeBuffer) (timeout : Option Duration) :
    Progress.Keeps Host.entries (round b timeout) := by
  intro h
  rw [round_eq]
  split
  · exact ⟨rfl, nofun⟩
  · refine Progress.Keeps.systemWithin (keeps_poll _ _) (fun _ _ _ => rfl) (fun result g => ?_) h
    cases result <;> rfl

/-- The rounds in which nobody else runs leave the table alone. -/
theorem entries_settle (timeout : Option Duration) (fuel : Nat) (b : NativeBuffer)
    (h : Host Poll) : (settle timeout fuel b h).2.entries = h.entries := by
  induction fuel generalizing b h with
  | zero => rfl
  | succ fuel ih =>
      have hround := (keeps_round b timeout).alone h
      unfold settle
      split
      · rename_i hp
        rwa [hp] at hround
      · rename_i hp
        rw [hp] at hround
        exact (ih _ _).trans hround

theorem keeps_wait (b : NativeBuffer) (timeout : Option Duration) :
    Progress.Keeps Host.entries (wait b timeout) := by
  refine (keeps_round b timeout).andThen fun result h => ?_
  obtain ⟨outcome | _, b⟩ := result
  · rfl
  · exact entries_settle ..

instance : LawfulRegistry Poll where
  fd_wanted x e he := by
    obtain rfl := List.mem_singleton.mp he
    rfl
  watch x h h' p hp := by
    obtain ⟨rfl, rfl⟩ := Prod.mk.inj hp
    exact ⟨_, rfl, watched rfl⟩
  unwatch d i h h' p hp := by
    obtain ⟨rfl, rfl⟩ := Prod.mk.inj hp
    exact ⟨_, rfl, unwatched rfl⟩
  wait b timeout := keeps_wait b timeout

end Poll

end Readiness
