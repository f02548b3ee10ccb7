import Mathlib.Logic.Relation
import Readiness.Proofs.ClosedFacilities
import Readiness.Proofs.LevelFacilities
import Readiness.Proofs.PollRounds

/-! # The table of `poll` as a map

The table is a list of entries that grows at its end and is not kept in order.  What counts of it is
which descriptor has which interests and which tag.

* **Map** (`registered?`).  A descriptor has one entry at most, so the order of the entries does not
  matter (`registered?_perm`), and no entry is without interests (`IsMap`).
* **Changes.**  Watching adds to the map or does nothing (`watched`).  Unwatching takes interests from
  one descriptor, and takes them although some others were not there (`unwatched`).
* **Runs** (`TableStep`).  Any calls, of which the waits may overlap with the others, leave a map
  (`Sound.run`).
* **Results.**  A wait gives the kernel one entry for each entry of the table and gets the results in
  the same order, so each result belongs to its own descriptor (`Rounds.reports`), although the kernel
  changes from one entry to the next (`Kernel.pollEach_of_apart`). -/

namespace Readiness

/-! ### Distinct descriptors in one call -/

namespace Kernel

variable {k : Kernel}

theorem lookup_filter_ne {forced : List (Int32 × UInt16)} {d e : Int32} (hne : d ≠ e) :
    (forced.filter (·.1 ≠ e)).lookup d = forced.lookup d := by
  induction forced with
  | nil => rfl
  | cons f rest ih =>
      by_cases hf : f.1 = e
      · have hd : (d == f.1) = false := beq_eq_false_iff_ne.mpr (hf ▸ hne)
        rw [List.filter_cons_of_neg (by simpa using hf), ih, List.lookup_cons, hd]
      · rw [List.filter_cons_of_pos (by simpa using hf), List.lookup_cons, List.lookup_cons, ih]

/-- The result for one entry. -/
theorem pollOne_fst (k : Kernel) (entry : Int32 × UInt16) :
    (k.pollOne entry).1 = (k.forced.lookup entry.1).getD
      (if k.isInvalid entry.1 then Poll.nvalBit
        else (k.level entry.1).toUInt16 &&& (entry.2 ||| Poll.errBit ||| Poll.hupBit)) := by
  unfold pollOne
  cases k.forced.lookup entry.1 with
  | none => dsimp only [Option.getD]; split <;> rfl
  | some bits => rfl

/-- Asking for one entry uses up the result that is forced for its descriptor, and nothing else. -/
theorem pollOne_snd (k : Kernel) (entry : Int32 × UInt16) :
    ∃ forced, (k.pollOne entry).2 = { k with forced } ∧
      ∀ d, d ≠ entry.1 → forced.lookup d = k.forced.lookup d := by
  unfold pollOne
  cases k.forced.lookup entry.1 with
  | none => dsimp only; split <;> exact ⟨k.forced, rfl, fun _ _ => rfl⟩
  | some bits => exact ⟨_, rfl, fun _ => lookup_filter_ne⟩

/-- The result for a descriptor does not depend on what was answered for another one. -/
theorem pollOne_frame {entry other : Int32 × UInt16} (hne : entry.1 ≠ other.1) :
    ((k.pollOne other).2.pollOne entry).1 = (k.pollOne entry).1 := by
  obtain ⟨forced, hkernel, hsame⟩ := k.pollOne_snd other
  rw [pollOne_fst, pollOne_fst, hkernel, hsame _ hne]
  rfl

/-- Different descriptors get the results that each of them would get alone. -/
theorem pollEach_of_apart {entries : List (Int32 × UInt16)}
    (hapart : (entries.map Prod.fst).Nodup) :
    (k.pollEach entries).1 = entries.map fun entry => (k.pollOne entry).1 := by
  induction entries generalizing k with
  | nil => rfl
  | cons entry rest ih =>
      rw [List.map_cons, List.nodup_cons] at hapart
      obtain ⟨hnew, hrest⟩ := hapart
      have hframe : ∀ other ∈ rest,
          ((k.pollOne entry).2.pollOne other).1 = (k.pollOne other).1 := by
        intro other hother
        refine pollOne_frame fun hfd => hnew ?_
        rw [← hfd]
        exact List.mem_map_of_mem hother
      show (k.pollOne entry).1 :: ((k.pollOne entry).2.pollEach rest).1 = _
      rw [ih hrest, List.map_cons, List.map_congr_left hframe]

/-- The kernel says that the descriptor is valid. -/
def IsValid (k : Kernel) (fd : Int32) : Prop := 0 ≤ fd ∧ (k.getFlags fd).1 = .done ()

/-- A kernel that lets the call pass says what is so. -/
theorem isValid_iff {fd : Int32} (hpass : (k.nextVerdict .fcntl).1 = .pass) :
    k.IsValid fd ↔ k.isInvalid fd = false := by
  have hflags : (k.getFlags fd).1 =
      if k.isInvalid fd then .failed .badDescriptor else .done () := by
    unfold getFlags
    rw [obey_of_pass (show ((k.record (.getFlags fd)).nextVerdict .fcntl).1 = .pass from hpass)]
    show (if k.isInvalid fd then _ else _ : Outcome SystemError Unit × Kernel).1 = _
    split <;> rfl
  rw [IsValid, hflags]
  unfold isInvalid
  by_cases hneg : fd < 0
  · simp [hneg]
  · simp [hneg, Int32.not_lt.mp hneg]

end Kernel

namespace Poll

/-! ### The table as a map -/

/-- The interests and the tag that a descriptor has in the table. -/
def registered? (table : List PollEntry) (d : Int32) : Option (Conditions × Tag) :=
  (table.find? (·.fd == d)).map fun e => (e.interests, e.tag)

/-- The table is a map: no descriptor occurs twice, and every entry has some interests. -/
structure IsMap (table : List PollEntry) : Prop where
  apart : (table.map (·.fd)).Nodup
  interests : ∀ e ∈ table, ∃ i : Interests, e.interests = .ofInterests i

variable {table table' rest : List PollEntry} {e : PollEntry} {d : Int32} {c : Conditions} {t : Tag}

theorem registered?_cons (e : PollEntry) (rest : List PollEntry) (d : Int32) :
    registered? (e :: rest) d =
      if d = e.fd then some (e.interests, e.tag) else registered? rest d := by
  unfold registered?
  rw [List.find?_cons]
  by_cases hd : d = e.fd
  · simp [hd]
  · have hne : (e.fd == d) = false := beq_eq_false_iff_ne.mpr fun he => hd he.symm
    rw [hne, if_neg hd]

theorem registered?_eq_none_iff : registered? table d = none ↔ ∀ e ∈ table, e.fd ≠ d := by
  simp [registered?]

theorem registered?_eq_some_iff (hapart : (table.map (·.fd)).Nodup) :
    registered? table d = some (c, t) ↔ ⟨d, c, t⟩ ∈ table := by
  induction table with
  | nil => simp [registered?]
  | cons e rest ih =>
      rw [List.map_cons, List.nodup_cons] at hapart
      rw [registered?_cons, List.mem_cons]
      split
      · rename_i hd
        have hrest : (⟨d, c, t⟩ : PollEntry) ∉ rest := fun he =>
          hapart.1 (hd ▸ List.mem_map.mpr ⟨_, he, rfl⟩)
        have hsame : (⟨d, c, t⟩ : PollEntry) = e ↔ e.interests = c ∧ e.tag = t := by
          rw [hd]
          cases e
          simp [eq_comm]
        rw [or_iff_left hrest, hsame, Option.some.injEq, Prod.mk.injEq]
      · rename_i hd
        have hne : (⟨d, c, t⟩ : PollEntry) ≠ e := fun he => hd (he ▸ rfl)
        rw [ih hapart.2]
        simp [hne]

/-- Of a map the order of the entries does not count. -/
theorem registered?_perm (hperm : table'.Perm table) (hapart : (table.map (·.fd)).Nodup) (d : Int32) :
    registered? table' d = registered? table d := by
  have hapart' : (table'.map (·.fd)).Nodup := (hperm.map _).nodup_iff.mpr hapart
  refine Option.ext fun p => ?_
  rw [registered?_eq_some_iff hapart', registered?_eq_some_iff hapart, hperm.mem_iff]

theorem IsMap.perm (h : IsMap table) (hperm : table'.Perm table) : IsMap table' :=
  ⟨(hperm.map _).nodup_iff.mpr h.apart, fun e he => h.interests e (hperm.mem_iff.mp he)⟩

theorem isMap_cons : IsMap (e :: rest) ↔
    (∀ e' ∈ rest, e'.fd ≠ e.fd) ∧ (∃ i : Interests, e.interests = .ofInterests i) ∧ IsMap rest := by
  constructor
  · rintro ⟨hapart, hinterests⟩
    rw [List.map_cons, List.nodup_cons] at hapart
    refine ⟨fun e' he' hfd => hapart.1 (hfd ▸ List.mem_map_of_mem he'),
      hinterests e List.mem_cons_self, hapart.2, fun e' he' => ?_⟩
    exact hinterests e' (List.mem_cons_of_mem e he')
  · rintro ⟨hnew, hsome, hapart, hinterests⟩
    refine ⟨?_, fun e' he' => ?_⟩
    · rw [List.map_cons, List.nodup_cons]
      refine ⟨fun hmem => ?_, hapart⟩
      obtain ⟨e', he', hfd⟩ := List.mem_map.mp hmem
      exact hnew e' he' hfd
    · rcases List.mem_cons.mp he' with rfl | he'
      · exact hsome
      · exact hinterests e' he'

/-! ### Watching -/

variable {h h' : Host Poll} {fd : Int32} {i : Interests}

/-- The ways in which watching may end while the facility is open. -/
theorem watch_of_open (hopen : h.facility.closed = false) (fd : Int32) (i : Interests) (t : Tag) :
    ∃ kernel : Kernel,
      (¬ h.kernel.IsValid fd ∧ watch fd i t h = (.failed .badDescriptor, { h with kernel })) ∨
      (∃ cause, (h.kernel.getFlags fd).1 = .halted cause ∧
        watch fd i t h = (.halted cause, { h with kernel })) ∨
      (h.kernel.IsValid fd ∧ registered? h.facility.table fd ≠ none ∧
        watch fd i t h = (.failed .alreadyExists, { h with kernel })) ∨
      (h.kernel.IsValid fd ∧ registered? h.facility.table fd = none ∧
        watch fd i t h = (.done (),
          changeTable (h.facility.table ++ [⟨fd, .ofInterests i, t⟩]) { h with kernel })) := by
  by_cases hneg : fd < 0
  · have hinvalid : ¬ h.kernel.IsValid fd := fun hv => absurd hv.1 (Int32.not_le.mpr hneg)
    refine ⟨h.kernel, .inl ⟨hinvalid, ?_⟩⟩
    rw [watch, if_pos hneg]
  · cases hflags : h.kernel.getFlags fd with
    | mk valid kernel =>
        have hsystem : h.system (·.getFlags fd) = (valid, { h with kernel }) :=
          Host.system_of_eq hflags
        refine ⟨kernel, ?_⟩
        unfold watch
        rw [if_neg hneg, hsystem]
        cases valid with
        | halted cause => exact .inr (.inl ⟨cause, rfl, rfl⟩)
        | failed cause =>
            refine .inl ⟨fun hv => ?_, rfl⟩
            have := hv.2
            rw [hflags] at this
            cases this
        | done value =>
            have hvalid : h.kernel.IsValid fd :=
              ⟨Int32.not_lt.mp hneg, congrArg Prod.fst hflags⟩
            dsimp only
            rw [if_neg (by rw [hopen]; exact Bool.false_ne_true)]
            unfold enlist
            cases hplace : place? h.facility.table fd with
            | none =>
                have hnone := registered?_eq_none_iff.mpr (place?_eq_none hplace)
                exact .inr (.inr (.inr ⟨hvalid, hnone, rfl⟩))
            | some n =>
                refine .inr (.inr (.inl ⟨hvalid, fun hnone => ?_, rfl⟩))
                obtain ⟨hlt, hfd, -⟩ := List.findIdx?_eq_some_iff_getElem.mp hplace
                exact registered?_eq_none_iff.mp hnone _ (List.getElem_mem hlt) (beq_iff_eq.mp hfd)

/-- What watching does, as a change to the map. -/
structure Watches (fd : Int32) (i : Interests) (t : Tag) (h : Host Poll)
    (outcome : Outcome SystemError Unit) (h' : Host Poll) : Prop where
  succeeds : outcome = .done () ↔
    h.kernel.IsValid fd ∧ registered? h.facility.table fd = none
  invalid : ¬ h.kernel.IsValid fd → outcome = .failed .badDescriptor ∨ outcome.isHalted = true
  present : h.kernel.IsValid fd → registered? h.facility.table fd ≠ none →
    outcome = .failed .alreadyExists
  /-- Only a call on the kernel that is given up gives the call up. -/
  halts : outcome.isHalted = true → (h.kernel.getFlags fd).1.isHalted = true
  refused : outcome ≠ .done () → h'.facility = h.facility
  registers : outcome = .done () → ∀ d, registered? h'.facility.table d =
    if d = fd then some (.ofInterests i, t) else registered? h.facility.table d

/-- A new entry at the end of the table is a new entry of the map. -/
theorem isMap_append (hmap : IsMap table) (hnew : registered? table fd = none) (i : Interests)
    (t : Tag) : IsMap (table ++ [⟨fd, .ofInterests i, t⟩]) ∧
      ∀ d, registered? (table ++ [⟨fd, .ofInterests i, t⟩]) d =
        if d = fd then some (.ofInterests i, t) else registered? table d := by
  have hperm := List.perm_append_singleton (⟨fd, .ofInterests i, t⟩ : PollEntry) table
  have hcons : IsMap ((⟨fd, .ofInterests i, t⟩ : PollEntry) :: table) :=
    isMap_cons.mpr ⟨registered?_eq_none_iff.mp hnew, ⟨i, rfl⟩, hmap⟩
  refine ⟨hcons.perm hperm, fun d => ?_⟩
  rw [registered?_perm hperm hcons.apart, registered?_cons]

theorem watches (hopen : h.facility.closed = false) (hmap : IsMap h.facility.table) (fd : Int32)
    (i : Interests) (t : Tag) : Watches fd i t h (watch fd i t h).1 (watch fd i t h).2 := by
  obtain ⟨kernel, ⟨hinvalid, hw⟩ | ⟨cause, hflags, hw⟩ | ⟨hvalid, hsome, hw⟩ | ⟨hvalid, hnone, hw⟩⟩ :=
    watch_of_open hopen fd i t
  · rw [hw]
    exact ⟨⟨nofun, fun hd => absurd hd.1 hinvalid⟩, fun _ => .inl rfl, fun hv => absurd hv hinvalid,
      nofun, fun _ => rfl, nofun⟩
  · have hinvalid : ¬ h.kernel.IsValid fd := fun hv => by
      have hdone := hv.2
      rw [hflags] at hdone
      cases hdone
    rw [hw]
    exact ⟨⟨nofun, fun hd => absurd hd.1 hinvalid⟩, fun _ => .inr rfl, fun hv => absurd hv hinvalid,
      fun _ => by rw [hflags]; rfl, fun _ => rfl, nofun⟩
  · rw [hw]
    exact ⟨⟨nofun, fun hd => absurd hd.2 hsome⟩, fun hv => absurd hvalid hv, fun _ _ => rfl,
      nofun, fun _ => rfl, nofun⟩
  · rw [hw]
    exact ⟨⟨fun _ => ⟨hvalid, hnone⟩, fun _ => rfl⟩, fun hv => absurd hvalid hv,
      fun _ hsome => absurd hnone hsome, nofun, fun hne => absurd rfl hne,
      fun _ => (isMap_append hmap hnone i t).2⟩

/-! ### Unwatching -/

/-- The entry with fewer interests, unless none are left. -/
def remainder (e : PollEntry) (taken : Conditions) : List PollEntry :=
  if (e.interests.diff taken).isEmpty then []
  else [{ e with interests := e.interests.diff taken }]

/-- Taking interests from an entry changes no other entry. -/
theorem lessen_perm {n : Nat} (hentry : entry? table fd = some (n, e)) (taken : Conditions) :
    e.fd = fd ∧ ∃ rest, table.Perm (e :: rest) ∧
      (lessen table n e taken).Perm (remainder e taken ++ rest) := by
  obtain ⟨l₁, l₂, rfl, rfl, hfd⟩ := entry?_eq_some hentry
  refine ⟨hfd, l₁ ++ l₂, List.perm_middle, ?_⟩
  unfold lessen remainder
  dsimp only
  split
  · exact perm_swapRemove l₁ l₂ e
  · rw [List.set_append_right _ _ (Nat.le_refl _), Nat.sub_self, List.set_cons_zero]
    exact List.perm_middle

/-- The ways in which unwatching may end while the facility is open. -/
theorem unwatch_of_open (hopen : h.facility.closed = false) (fd : Int32) (i : Interests) :
    (registered? h.facility.table fd = none ∧ unwatch fd i h = (.failed .noEntry, h)) ∨
      ∃ e rest table', e.fd = fd ∧ h.facility.table.Perm (e :: rest) ∧
        table'.Perm (remainder e (.ofInterests i) ++ rest) ∧
        unwatch fd i h = (if ((Conditions.ofInterests i).diff e.interests).isEmpty then .done ()
          else .failed .noEntry, changeTable table' h) := by
  unfold unwatch
  rw [if_neg (by rw [hopen]; exact Bool.false_ne_true)]
  cases hentry : entry? h.facility.table fd with
  | none => exact .inl ⟨registered?_eq_none_iff.mpr (entry?_eq_none hentry), rfl⟩
  | some found =>
      obtain ⟨n, e⟩ := found
      obtain ⟨hfd, rest, hold, hnew⟩ := lessen_perm hentry (.ofInterests i)
      refine .inr ⟨e, rest, _, hfd, hold, hnew, ?_⟩
      dsimp only
      split <;> rfl

/-- What unwatching does, as a change to the map. -/
structure Unwatches (fd : Int32) (i : Interests) (h : Host Poll)
    (outcome : Outcome SystemError Unit) (h' : Host Poll) : Prop where
  absent : registered? h.facility.table fd = none → outcome = .failed .noEntry ∧ h' = h
  takes : ∀ old t, registered? h.facility.table fd = some (old, t) →
    ∀ d, registered? h'.facility.table d =
      if d = fd then
        if (old.diff (.ofInterests i)).isEmpty then none else some (old.diff (.ofInterests i), t)
      else registered? h.facility.table d
  succeeds : outcome = .done () ↔ ∃ old t, registered? h.facility.table fd = some (old, t) ∧
    ∀ j ∈ i.split, old.contains (.ofInterests j) = true
  fails : outcome ≠ .done () → outcome = .failed .noEntry

/-- What is left of some interests is nothing, or some interests. -/
theorem diff_ofInterests (i j : Interests) :
    ((Conditions.ofInterests i).diff (.ofInterests j)).isEmpty = true ∨
      ∃ i' : Interests, (Conditions.ofInterests i).diff (.ofInterests j) = .ofInterests i' := by
  cases i <;> cases j <;> first
    | exact .inl (by decide)
    | exact .inr ⟨.readable, by decide⟩
    | exact .inr ⟨.writable, by decide⟩

/-- Nothing is missing if every single direction is there. -/
theorem isEmpty_diff_iff (i old : Interests) :
    ((Conditions.ofInterests i).diff (.ofInterests old)).isEmpty = true ↔
      ∀ j ∈ i.split, (Conditions.ofInterests old).contains (.ofInterests j) = true := by
  cases i <;> cases old <;> decide

/-- The entry that some interests were taken from, before and after, in front of the others. -/
theorem isMap_less (hmap : IsMap (e :: rest)) (i : Interests) :
    IsMap (remainder e (.ofInterests i) ++ rest) ∧
      ∀ d, registered? (remainder e (.ofInterests i) ++ rest) d =
        if d = e.fd then
          if (e.interests.diff (.ofInterests i)).isEmpty then none
          else some (e.interests.diff (.ofInterests i), e.tag)
        else registered? (e :: rest) d := by
  obtain ⟨hnew, ⟨old, hold⟩, hrest⟩ := isMap_cons.mp hmap
  unfold remainder
  by_cases hempty : (e.interests.diff (.ofInterests i)).isEmpty = true
  · simp only [if_pos hempty, List.nil_append]
    refine ⟨hrest, fun d => ?_⟩
    rw [registered?_cons]
    split
    · rename_i hd
      exact registered?_eq_none_iff.mpr (hd ▸ hnew)
    · rfl
  · simp only [if_neg hempty, List.singleton_append]
    have hleft : ∃ i' : Interests, e.interests.diff (.ofInterests i) = .ofInterests i' := by
      rw [hold] at hempty ⊢
      exact (diff_ofInterests old i).resolve_left hempty
    refine ⟨isMap_cons.mpr ⟨hnew, hleft, hrest⟩, fun d => ?_⟩
    rw [registered?_cons, registered?_cons]
    split <;> rfl

theorem unwatches (hopen : h.facility.closed = false) (hmap : IsMap h.facility.table) (fd : Int32)
    (i : Interests) : Unwatches fd i h (unwatch fd i h).1 (unwatch fd i h).2 := by
  rcases unwatch_of_open hopen fd i with ⟨hnone, hu⟩ | ⟨e, rest, table', rfl, hold, hnew, hu⟩
  · rw [hu]
    refine ⟨fun _ => ⟨rfl, rfl⟩, fun old t hsome => ?_, ⟨nofun, fun hd => ?_⟩, fun _ => rfl⟩
    · rw [hnone] at hsome
      cases hsome
    · obtain ⟨old, t, hsome, -⟩ := hd
      rw [hnone] at hsome
      cases hsome
  · have hcons : IsMap (e :: rest) := hmap.perm hold.symm
    obtain ⟨old, hsome⟩ := (isMap_cons.mp hcons).2.1
    have hfound : registered? h.facility.table e.fd = some (e.interests, e.tag) := by
      rw [registered?_perm hold hcons.apart, registered?_cons, if_pos rfl]
    obtain ⟨hless, hmapped⟩ := isMap_less hcons i
    rw [hu]
    refine ⟨fun hnone => ?_, fun old' t hold' d => ?_, ?_, fun hne => ?_⟩
    · rw [hfound] at hnone
      cases hnone
    · obtain ⟨rfl, rfl⟩ := Prod.mk.inj (Option.some.inj (hfound.symm.trans hold'))
      show registered? table' d = _
      rw [registered?_perm hnew hless.apart, hmapped, registered?_perm hold hcons.apart]
    · have hcount : ((Conditions.ofInterests i).diff e.interests).isEmpty = true ↔
          ∀ j ∈ i.split, e.interests.contains (.ofInterests j) = true :=
        hsome ▸ isEmpty_diff_iff i old
      constructor
      · intro hdone
        refine ⟨e.interests, e.tag, hfound, hcount.mp ?_⟩
        by_contra hmissing
        rw [if_neg hmissing] at hdone
        cases hdone
      · rintro ⟨old', t, hold', hall⟩
        obtain ⟨rfl, rfl⟩ := Prod.mk.inj (Option.some.inj (hfound.symm.trans hold'))
        exact if_pos (hcount.mpr hall)
    · dsimp only at hne ⊢
      split at hne
      · exact absurd rfl hne
      · rename_i hmissing
        exact if_neg hmissing

/-! ### Runs of calls -/

/-- A call, or a part of a wait inside which others run.  What the world does meanwhile, it does to the
kernel. -/
inductive TableStep : Host Poll → Host Poll → Prop
  | watch (fd : Int32) (i : Interests) (t : Tag) (h : Host Poll) :
      TableStep h (Poll.watch fd i t h).2
  | unwatch (fd : Int32) (i : Interests) (h : Host Poll) : TableStep h (Poll.unwatch fd i h).2
  | wait (b : NativeBuffer) (timeout : Option Duration) (h : Host Poll) :
      TableStep h (Poll.wait b timeout h).2
  | resume {b : NativeBuffer} {timeout : Option Duration} {g : Host Poll}
      {rest : Host Poll → (Outcome SystemError Unit × NativeBuffer) × Host Poll} (h : Host Poll) :
      (Poll.wait b timeout g).1 = .inside rest → TableStep h (rest h).2
  | world (kernel : Kernel) (h : Host Poll) : TableStep h { h with kernel }

/-- Some calls were made on a facility since it was opened. -/
def Used (h : Host Poll) : Prop :=
  ∃ kernel : Kernel, Relation.ReflTransGen TableStep { facility := {}, kernel } h

/-- The facility is open and its table is a map. -/
structure Sound (h : Host Poll) : Prop where
  isOpen : h.facility.closed = false
  isMap : IsMap h.facility.table

theorem Sound.congr (hs : Sound h) (htable : h'.facility.table = h.facility.table)
    (hclosed : h'.facility.closed = h.facility.closed) : Sound h' :=
  ⟨hclosed.trans hs.isOpen, htable ▸ hs.isMap⟩

theorem Sound.watch (hs : Sound h) (fd : Int32) (i : Interests) (t : Tag) :
    Sound (Poll.watch fd i t h).2 := by
  obtain ⟨kernel, ⟨-, hw⟩ | ⟨_, -, hw⟩ | ⟨-, -, hw⟩ | ⟨-, hnone, hw⟩⟩ :=
    watch_of_open hs.isOpen fd i t
  · rw [hw]
    exact hs.congr rfl rfl
  · rw [hw]
    exact hs.congr rfl rfl
  · rw [hw]
    exact hs.congr rfl rfl
  · rw [hw]
    exact ⟨hs.isOpen, (isMap_append hs.isMap hnone i t).1⟩

theorem Sound.unwatch (hs : Sound h) (fd : Int32) (i : Interests) :
    Sound (Poll.unwatch fd i h).2 := by
  rcases unwatch_of_open hs.isOpen fd i with ⟨-, hu⟩ | ⟨e, rest, table', -, hold, hnew, hu⟩
  · rw [hu]
    exact hs
  · rw [hu]
    exact ⟨hs.isOpen, (isMap_less (hs.isMap.perm hold.symm) i).1.perm hnew⟩

theorem Sound.step (hs : Sound h) (hstep : TableStep h h') : Sound h' := by
  cases hstep with
  | watch fd i t => exact hs.watch fd i t
  | unwatch fd i => exact hs.unwatch fd i
  | wait b timeout =>
      exact hs.congr (keeps_wait b timeout h).1 (LawfulClosable.wait b timeout h).1.closed
  | @resume b timeout g rest _ hrest =>
      exact hs.congr ((keeps_wait b timeout g).2 rest hrest h)
        ((LawfulClosable.wait b timeout g).2 rest hrest h).closed
  | world kernel => exact hs.congr rfl rfl

/-- **The table stays a map.** -/
theorem Used.sound (hu : Used h) : Sound h := by
  obtain ⟨kernel, hrun⟩ := hu
  induction hrun with
  | refl => exact ⟨rfl, List.nodup_nil, nofun⟩
  | tail _ hstep ih => exact ih.step hstep

/-! ### Waiting -/

/-- The result of `poll` for an entry, asked for exactly the interests that remain. -/
def revents (k : Kernel) (e : PollEntry) : UInt16 := (k.pollOne (e.fd, requested e.interests)).1

/-- The event of an entry: its own tag with its own result. -/
def eventOf (k : Kernel) (e : PollEntry) : NativeEvent := ⟨e.tag, readiness (revents k e)⟩

/-- The answer for a map is one result for each entry. -/
theorem answered_isMap (hmap : IsMap table) {k k' : Kernel} {results : List UInt16}
    (ha : answered table k = (.done results, k')) : results = table.map (revents k) := by
  obtain ⟨verdicts, hact | ⟨-, hnot⟩⟩ := Kernel.obey_eq ha
  · obtain ⟨hresults, -⟩ := Prod.mk.inj hact
    have hapart : ((shown table).map Prod.fst).Nodup := by
      rw [shown, List.map_map]
      exact hmap.apart
    rw [← Outcome.done.inj hresults, Kernel.pollEach_of_apart hapart, shown, List.map_map]
    refine List.map_congr_left fun e _ => ?_
    rw [revents, Kernel.pollOne_fst, Function.comp, Kernel.pollOne_fst]
    rfl
  · exact absurd rfl (hnot results)

/-- The events that a wait for this table reports: those of the entries with results, as many as there
is room for.  The kernel is the one that answers. -/
def Reports (table : List PollEntry) (b b' : NativeBuffer) (k : Kernel) : Prop :=
  b' = b.clear.extend (((table.filter fun e => revents k e ≠ 0).take b.capacity).map (eventOf k))

variable {may : Host Poll → Host Poll → Prop} {b b' : NativeBuffer}
  {outcome : Outcome SystemError Unit} {begun left : Host Poll}

/-- Others do not change the table. -/
def KeepsTable (may : Host Poll → Host Poll → Prop) : Prop :=
  ∀ h h', may h h' → h'.facility.table = h.facility.table

theorem round_reports (hmap : IsMap h.facility.table) {remaining : Option Duration}
    (hr : Progress.Ends may (round b remaining h) left (.over (.done ()), b') h') :
    Reports h.facility.table b b' left.kernel := by
  rcases round_ends hr with ⟨-, outcome, hover, hne⟩ | ⟨results, ha, rfl, -, -⟩
  · exact absurd (Round.over.inj hover).symm hne
  · have hfound := found_results h.facility.table id (revents left.kernel)
    rw [List.map_id] at hfound
    rw [answered_isMap hmap ha, hfound, ← List.map_take]
    rfl

/-- Rounds between which nobody changes the table report what the last one found. -/
theorem Rounds.reports (hmap : IsMap h.facility.table) (hmay : KeepsTable may)
    (hr : Rounds may b h begun left outcome b' h') (hdone : outcome = .done ()) :
    Reports h.facility.table b b' left.kernel := by
  induction hr with
  | last remaining hround => exact round_reports hmap (hdone ▸ hround)
  | @again b b₁ b' h g h₁ h₂ begun left h' outcome remaining hround hbetween _ ih =>
      have htable : h₂.facility.table = h.facility.table :=
        (hmay _ _ hbetween).trans (hround.keeps (keeps_round b remaining) hmay)
      have hclear := (round_again hround).2
      have hcapacity : b₁.capacity = b.capacity := (NativeBuffer.mk.inj hclear).1
      have hlast := ih (htable ▸ hmap) hdone
      unfold Reports at hlast ⊢
      rwa [htable, hclear, hcapacity] at hlast
  | undrained remaining cause => cases hdone

/-- **The table is a map.**  After any calls, before the facility is closed: no descriptor occurs twice,
and none without interests; watching a descriptor succeeds if it is valid and absent and else changes
nothing; unwatching takes the given interests from one descriptor and succeeds if all of them were
there; and a wait that succeeds while nobody changes the table pairs each descriptor that has a result
with its own tag and its own result, as the kernel answers in the last round. -/
theorem table_is_map (h : Host Poll) (hu : Used h) :
    IsMap h.facility.table ∧ (∀ e ∈ h.facility.table, e.interests.isEmpty = false) ∧
      (∀ fd, (h.kernel.nextVerdict .fcntl).1 = .pass →
        (h.kernel.IsValid fd ↔ h.kernel.isInvalid fd = false)) ∧
      (∀ fd i t, Watches fd i t h (watch fd i t h).1 (watch fd i t h).2) ∧
      (∀ fd i, Unwatches fd i h (unwatch fd i h).1 (unwatch fd i h).2) ∧
      ∀ may : Host Poll → Host Poll → Prop, KeepsTable may →
        (∀ b begun left b' h', Rounds may b h begun left (.done ()) b' h' →
          Reports h.facility.table b b' left.kernel) ∧
        ∀ b timeout left b' h', (∀ g, may g g) →
          Progress.Ends may (wait b timeout h) left (.done (), b') h' →
            h'.facility.table = h.facility.table ∧
              ∃ begun left, Rounds may b h begun left (.done ()) b' h' ∧
                Reports h.facility.table b b' left.kernel := by
  obtain ⟨hopen, hmap⟩ := hu.sound
  refine ⟨hmap, fun e he => ?_, fun fd => Kernel.isValid_iff, watches hopen hmap,
    unwatches hopen hmap, fun may hmay => ⟨fun b begun left b' h' hr => hr.reports hmap hmay rfl,
      fun b timeout left b' h' hrefl hw => ⟨?_, ?_⟩⟩⟩
  · obtain ⟨i, hi⟩ := hmap.interests e he
    rw [hi]
    cases i <;> decide
  · exact hw.keeps (keeps_wait b timeout) hmay
  · obtain ⟨begun, left, hr⟩ := Rounds.of_wait hrefl hw
    exact ⟨begun, left, hr, hr.reports hmap hmay rfl⟩

/-- Three descriptors are watched, one of them is unwatched for one of its two directions, and the first
one altogether, so that the last entry takes its place.  The kernel has something to read on two
descriptors, but says so only when it is asked a second time. -/
def usedTable : Host Poll :=
  let start : Host Poll :=
    { facility := {}, kernel := { levels := [(7, 5), (6, 1)], forced := [(7, 0), (6, 0)] } }
  let watched := (watch 7 .both (.pack 2 0)
    (watch 6 .writable (.pack 1 0) (watch 5 .both (.pack 0 0) start).2).2).2
  (unwatch 5 .both (unwatch 7 .writable watched).2).2

theorem used_usedTable : Used usedTable :=
  ⟨{ levels := [(7, 5), (6, 1)], forced := [(7, 0), (6, 0)] },
    ((((Relation.ReflTransGen.refl.tail (.watch ..)).tail (.watch ..)).tail (.watch ..)).tail
      (.unwatch ..)).tail (.unwatch ..)⟩

/-- The second round of the wait finds the one descriptor that is watched for reading, and reports it
as readable only, although it is ready for writing as well. -/
theorem table_is_map_swapped :
    Used usedTable ∧
      usedTable.facility.table = [⟨7, .readable, .pack 2 0⟩, ⟨6, .writable, .pack 1 0⟩] ∧
      Unwatches 7 .both usedTable (.failed .noEntry) (unwatch 7 .both usedTable).2 ∧
      (Progress.alone (wait { capacity := 2 } none usedTable)).1 =
        (.done (), NativeBuffer.extend { capacity := 2 } [⟨.pack 2 0, .readable⟩]) ∧
      ∃ begun left h', Rounds Eq { capacity := 2 } usedTable begun left (.done ())
          (NativeBuffer.extend { capacity := 2 } [⟨.pack 2 0, .readable⟩]) h' ∧
        Reports usedTable.facility.table { capacity := 2 }
          (NativeBuffer.extend { capacity := 2 } [⟨.pack 2 0, .readable⟩]) left.kernel := by
  have hmissing : (unwatch 7 .both usedTable).1 = .failed .noEntry := by decide
  have hwait : (Progress.alone (wait { capacity := 2 } none usedTable)).1 =
      (.done (), NativeBuffer.extend { capacity := 2 } [⟨.pack 2 0, .readable⟩]) := by decide
  obtain ⟨-, -, -, -, hunwatches, hwaits⟩ := table_is_map usedTable used_usedTable
  refine ⟨used_usedTable, by decide, ?_, hwait, ?_⟩
  · rw [← hmissing]
    exact hunwatches 7 .both
  · have hends : Progress.Ends Eq (wait { capacity := 2 } none usedTable) _ _ _ := .alone _ rfl
    rw [hwait] at hends
    obtain ⟨-, begun, left, hr, hreports⟩ := (hwaits Eq fun _ _ hsame => hsame ▸ rfl).2 _ none _ _ _
      (fun _ => rfl) hends
    exact ⟨begun, left, _, hr, hreports⟩

end Poll

end Readiness
