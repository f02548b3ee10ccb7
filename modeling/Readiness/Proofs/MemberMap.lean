import Mathlib.Data.Finmap
import Readiness.Proofs.GivenUp
import Readiness.Proofs.Settled

/-! # A watch set is a bounded map

What is added to a set can be kept in a finite map from the raw numbers of descriptors to what the
descriptors were added with.  The map is much simpler than the rings: it knows of no records, and
looking for a descriptor is looking for its number.

* **The map of a set** (`Members.of`) has an entry for each addition.
* **The map of a run** (`Members.told`) is kept by somebody who sees how the changes end, and
  nothing else: an adding that ends well puts an entry in, a removing that ends takes one out, and
  polls and destroying do nothing (`Members.after`).
* **Agreement** (`Moment.IsMap`).  At every moment of every run, and with other calls in progress,
  the map of the set is the map of the run, and the set answers what can be read off the map.

`Moment.Shows.members_step` is the step lemma and `Moment.Shows.members_run` the run lemma;
`Moment.set_is_map` is the result. -/

namespace Readiness

/-- What a descriptor was added with. -/
structure Member where
  descriptor : Descriptor
  interests : Interests
  id : EventId
deriving DecidableEq, Repr

/-- What an addition is for, without its tag. -/
def Addition.member (x : Addition) : Member := ⟨x.descriptor, x.interests, x.id⟩

/-- A finite map from raw numbers to what their descriptors were added with. -/
abbrev Members : Type := Finmap fun _ : Int32 => Member

namespace Members

variable {β : Type}

/-- The entries of some additions. -/
def of (added : List Addition) : Members :=
  (added.map fun x => (⟨x.descriptor.fd, x.member⟩ : Sigma fun _ : Int32 => Member)).toFinmap

/-- The number of entries. -/
def size (M : Members) : Nat := M.keys.card

/-- The map after a step. -/
def after (M : Members) : Label β → Members
  | .ended (.adding x) (.done ()) => M.insert x.descriptor.fd x.member
  | .ended (.removing d _ _) (.done ()) => M.erase d.fd
  | .ended (.removing d _ _) (.failed _) => M.erase d.fd
  | _ => M

/-- The map after some steps, with nothing in it before them. -/
def told (L : List (Label β)) : Members := L.foldl after ∅

/-! ### The map of some additions -/

theorem lookup_of (added : List Addition) (n : Int32) :
    (of added).lookup n = (added.find? (·.descriptor.fd = n)).map Addition.member := by
  induction added with
  | nil => rfl
  | cons x rest ih =>
      rw [of, List.map_cons, Finmap.toFinmap_cons]
      by_cases hx : x.descriptor.fd = n
      · subst hx
        simp
      · rw [Finmap.lookup_insert_of_ne _ (Ne.symm hx), List.find?_cons_of_neg (by simpa using hx)]
        exact ih

theorem mem_of {added : List Addition} {n : Int32} :
    n ∈ of added ↔ ∃ x ∈ added, x.descriptor.fd = n := by
  rw [← Finmap.lookup_isSome, lookup_of, Option.isSome_map, List.find?_isSome]
  simp

/-- Additions of different descriptors have as many entries. -/
theorem size_of {added : List Addition} (h : (added.map (·.descriptor.fd)).Nodup) :
    (of added).size = added.length := by
  have hkeys : (of added).keys = (added.map (·.descriptor.fd)).toFinset := by
    ext n
    rw [Finmap.mem_keys, mem_of, List.mem_toFinset, List.mem_map]
  rw [size, hkeys, List.toFinset_card_of_nodup h, List.length_map]

/-- One more addition, of a new descriptor, is one more entry. -/
theorem of_append {added : List Addition} {x : Addition}
    (hnew : ∀ y ∈ added, y.descriptor.fd ≠ x.descriptor.fd) :
    of (added ++ [x]) = (of added).insert x.descriptor.fd x.member := by
  refine Finmap.ext_lookup fun n => ?_
  rw [lookup_of, List.find?_append]
  by_cases hn : n = x.descriptor.fd
  · subst hn
    rw [Finmap.lookup_insert, List.find?_eq_none.mpr fun y hy => by simpa using hnew y hy]
    simp
  · rw [Finmap.lookup_insert_of_ne _ hn, lookup_of, List.find?_singleton]
    simp [Ne.symm hn]

/-- Without the additions of a descriptor its entry is gone. -/
theorem of_filter (added : List Addition) (n : Int32) :
    of (added.filter (·.descriptor.fd ≠ n)) = (of added).erase n := by
  refine Finmap.ext_lookup fun k => ?_
  rw [lookup_of, List.find?_filter]
  by_cases hk : k = n
  · subst hk
    rw [Finmap.lookup_erase, List.find?_eq_none.mpr (by simp)]
    rfl
  · rw [Finmap.lookup_erase_ne hk, lookup_of]
    congr 2
    funext y
    by_cases hy : y.descriptor.fd = k
    · simp [hy, hk]
    · simp [hy]

/-- Taking out what is not there changes nothing. -/
theorem erase_of_not_mem {added : List Addition} {n : Int32}
    (h : ∀ y ∈ added, y.descriptor.fd ≠ n) : (of added).erase n = of added := by
  rw [← of_filter, List.filter_eq_self.mpr fun y hy => by simpa using h y hy]

/-! ### Runs -/

/-- Of different descriptors, the additions without the record of a descriptor are those of the
others. -/
theorem filter_index {added : List Addition} (hdistinct : (added.map (·.descriptor.fd)).Nodup)
    {x : Addition} (hx : x ∈ added) {n : Int32} (hn : x.descriptor.fd = n) {j : UInt32}
    (hj : ∀ y ∈ added, y.tag.index = j ↔ y = x) :
    added.filter (·.tag.index ≠ j) = added.filter (·.descriptor.fd ≠ n) := by
  refine List.filter_congr fun y hy => decide_eq_decide.mpr (not_congr ?_)
  rw [hj y hy, ← hn]
  exact ⟨fun he => he ▸ rfl, fun he => List.inj_on_of_nodup_map hdistinct hy hx he⟩

/-- The end of a change does to the map of the additions what it does to the additions. -/
theorem of_tell {added : List Addition} {c : Change} (hsound : c.Sound added)
    (hdistinct : (added.map (·.descriptor.fd)).Nodup) (outcome : Outcome SystemError Unit) :
    of (c.tell outcome added) = (of added).after (Label.ended (β := β) c outcome) := by
  cases c with
  | adding x =>
      cases outcome with
      | done value => exact of_append hsound
      | failed cause => rfl
      | halted cause => rfl
  | removing d i found =>
      cases found with
      | none =>
          have hsame := (erase_of_not_mem hsound.2).symm
          cases outcome with
          | done value => exact hsame
          | failed cause => exact hsame
          | halted cause => rfl
      | some j =>
          obtain ⟨x, hx, hd, -, hj⟩ := hsound
          have hgone : of (added.filter (·.tag.index ≠ j)) = (of added).erase d.fd := by
            rw [filter_index hdistinct hx hd hj, of_filter]
          cases outcome with
          | done value => exact hgone
          | failed cause => exact hgone
          | halted cause => rfl

end Members

namespace Moment

variable {β : Type} [Facility β] {W : Host β → Host β → Prop} {m m' : Moment β} {a : Label β}
  {l : RosterLists}

/-- **One step** does to the map of a set what its label says. -/
theorem Shows.members_step (hm : m.Shows l) (hs : Step W m a m') :
    Members.of m'.roster.added = (Members.of m.roster.added).after a := by
  obtain ⟨l', hstep⟩ := hm.step hs
  rw [hstep.added]
  cases hs with
  | endChange hc => exact Members.of_tell (hm.sound (by rw [hc]; rfl)) hm.distinct _
  | _ => rfl

/-- **A run** does to the map of a set what its labels say. -/
theorem Shows.members_run (hm : m.Shows l) {L : List (Label β)} (hr : Run W m L m') :
    Members.of m'.roster.added = L.foldl Members.after (Members.of m.roster.added) := by
  induction hr generalizing l with
  | refl m => rfl
  | step hs _ ih =>
      obtain ⟨l', hstep⟩ := hm.step hs
      rw [ih hstep.shows, hm.members_step hs, List.foldl_cons]

/-! ### Answers -/

end Moment

/-- Looking for a descriptor is looking for its number in the map. -/
theorem Roster.Refines.isSome_find?_iff {roster : Roster} {l : RosterLists} (h : roster.Refines l)
    (d : Descriptor) : (roster.find? d).isSome ↔ d.fd ∈ Members.of roster.added := by
  rw [Members.mem_of]
  cases hfind : roster.find? d with
  | none =>
      have habsent := h.find?_eq_none hfind
      constructor
      · rintro ⟨⟩
      · rintro ⟨x, hx, hd⟩
        exact absurd hd (habsent x hx)
  | some i =>
      obtain ⟨-, x, hx, -, hd, -⟩ := h.find?_eq_some hfind
      exact ⟨fun _ => ⟨x, hx, hd⟩, fun _ => rfl⟩

namespace Moment

variable {β : Type} {m : Moment β} {l : RosterLists}

/-- The change in progress knows whether its descriptor has an entry. -/
theorem Shows.isSome_found_iff (hm : m.Shows l) {d : Descriptor} {i : Interests}
    {found : Option UInt32} (hc : m.change.map Prod.fst = some (.removing d i found)) :
    found.isSome ↔ d.fd ∈ Members.of m.roster.added := by
  have hsound := hm.sound hc
  rw [Members.mem_of]
  cases found with
  | none =>
      constructor
      · rintro ⟨⟩
      · rintro ⟨x, hx, hd⟩
        exact absurd hd (hsound.2 x hx)
  | some j =>
      obtain ⟨x, hx, hd, -⟩ := hsound
      exact ⟨fun _ => ⟨x, hx, hd⟩, fun _ => rfl⟩

variable [Facility β] {capacity : Nat} {M : Members}

/-- A set is the map `M` with room for `capacity` entries.

* The additions of the active records are the entries, one record for each, and never too many.
* Asked while no change is in progress, the set answers with what the map says.  A descriptor that
  has an entry, or that finds the map full, is refused, and only a line is written to the log; for
  any other one the facility is called once.  Removing calls the facility once, in any case.
* A change that has got its answer from the facility is about to answer its caller: adding a new
  descriptor answers what the facility answered, and removing answers whether there is an entry. -/
structure IsMap (capacity : Nat) (M : Members) (m : Moment β) : Prop where
  entries : Members.of m.roster.added = M
  distinct : (m.roster.added.map (·.descriptor.fd)).Nodup
  count : m.roster.stats.active = M.size
  bounded : M.size ≤ capacity
  len : m.set.roster.held = false → m.set.len = .ok M.size
  add_known (d : Descriptor) (i : Interests) (id : EventId) : m.set.roster.held = false →
    d.fd ∈ M → m.set.add d i id =
      (.returned (.failed (.rejected .alreadyExists)), m.set.note (.adding d i id))
  add_full (d : Descriptor) (i : Interests) (id : EventId) : m.set.roster.held = false →
    d.fd ∉ M → capacity ≤ M.size → m.set.add d i id =
      (.returned (.failed (.rejected .noSpace)), m.set.note (.adding d i id))
  add_new (d : Descriptor) (i : Interests) (id : EventId) : m.set.roster.held = false →
    d.fd ∉ M → M.size < capacity → ¬ m.roster.Exhausted →
      ∃ t roster, m.roster.allocate d i id = some (t, roster) ∧ m.set.add d i id =
        ((m.set.note (.adding d i id)).locked roster).within (Facility.watch d.fd i t)
          (WatchSet.finishAdd d t)
  remove (d : Descriptor) : m.set.roster.held = false →
    ∃ found i, found.isSome = decide (d.fd ∈ M) ∧ m.set.remove d =
      ((m.set.note (.removing d)).locked m.roster).within (Facility.unwatch d.fd i)
        (WatchSet.finishRemove d found)
  adding (x : Addition) (outcome : Outcome SystemError Unit) :
    m.change = some (.adding x, .made (.returned outcome)) →
      x.descriptor.fd ∉ M ∧ M.size < capacity ∧
        (m.set.finishAdd x.descriptor x.tag outcome).1 = outcome.mapError .rejected
  removing (d : Descriptor) (i : Interests) (found : Option UInt32)
    (outcome : Outcome SystemError Unit) :
    m.change = some (.removing d i found, .made (.returned outcome)) →
      outcome.isHalted = false →
        (m.set.finishRemove d found outcome).1 = .done (decide (d.fd ∈ M))

/-- A set whose records fit is the map of its additions. -/
theorem Shows.isMap (hm : m.Shows l) (hfits : m.Fitting capacity) :
    m.IsMap capacity (Members.of m.roster.added) := by
  obtain ⟨hset, hadded, hadding⟩ := hm.fitting_iff.mp hfits
  have hsize : (Members.of m.roster.added).size = m.roster.added.length :=
    Members.size_of hm.distinct
  have hactive : m.roster.active.len = (Members.of m.roster.added).size :=
    hm.refines.length_added.symm.trans hsize.symm
  have hfound := hm.refines.isSome_find?_iff
  have hnew : ∀ d : Descriptor, d.fd ∉ Members.of m.roster.added → m.roster.find? d = none :=
    fun d hd => Option.not_isSome_iff_eq_none.mp (mt (hfound d).mp hd)
  refine { entries := rfl, distinct := hm.distinct, count := hactive, bounded := ?_, len := ?_,
           add_known := ?_, add_full := ?_, add_new := ?_, remove := ?_, adding := ?_,
           removing := ?_ }
  · exact hsize ▸ hadded
  · intro hfree
    rw [← hactive]
    simp only [WatchSet.len, Lock.read, Lock.acquire, hfree]
    rfl
  · intro d i id hfree hd
    exact WatchSet.add_of_error hfree (WatchSet.accept_of_found ((hfound d).mpr hd))
  · intro d i id hfree hd hfull
    refine WatchSet.add_of_error hfree (WatchSet.accept_of_full (hnew d hd) ?_)
    rw [hset]
    exact hactive ▸ hfull
  · intro d i id hfree hd hroom hleft
    obtain ⟨⟨t, roster⟩, ha⟩ :=
      Option.ne_none_iff_exists'.mp (mt hm.refines.allocate_eq_none_iff.mp hleft)
    refine ⟨t, roster, ha, WatchSet.add_of_ok hfree ?_⟩
    refine WatchSet.accept_of_some (hnew d hd) ?_ ha
    rw [hset]
    exact hactive ▸ hroom
  · intro d hfree
    refine ⟨m.roster.find? d, _, ?_, WatchSet.remove_of_free hfree⟩
    exact Bool.eq_iff_iff.mpr ((hfound d).trans decide_eq_true_iff.symm)
  · intro x outcome hc
    have hsound : (Change.adding x).Sound m.roster.added := hm.sound (by rw [hc]; rfl)
    refine ⟨?_, hsize ▸ hadding x _ hc, WatchSet.finishAdd_fst ..⟩
    rw [Members.mem_of]
    rintro ⟨y, hy, hd⟩
    exact hsound y hy hd
  · intro d i found outcome hc hgoes
    have hknown : m.change.map Prod.fst = some (.removing d i found) := by rw [hc]; rfl
    have hiff := hm.isSome_found_iff hknown
    rw [WatchSet.finishRemove_fst hgoes]
    exact congrArg _ (Bool.eq_iff_iff.mpr (hiff.trans decide_eq_true_iff.symm))

variable {W : Host β → Host β → Prop}

/-- **A set is a bounded map.**  At every moment of every run that begins with a new set, the set is
the map that the changes of the run have told of, and no step but the end of a change alters it. -/
theorem set_is_map {host : Host β} {threadSafe : Bool} {L : List (Label β)}
    (hr : Run W (start host capacity threadSafe) L m) :
    m.IsMap capacity (Members.told L) ∧
      ∀ a m', Step W m a m' → a.isEnded = false →
        Members.of m'.roster.added = Members.told L := by
  have hstart := shows_start host capacity threadSafe
  obtain ⟨l, hm, -⟩ := hstart.run hr
  have hfits : m.Fitting capacity :=
    Fitting.run hstart (hstart.fitting_iff.mpr ⟨rfl, Nat.zero_le _, nofun⟩) hr
  have htold : Members.of m.roster.added = Members.told L := hstart.members_run hr
  refine ⟨htold ▸ hm.isMap hfits, fun a m' hs ha => ?_⟩
  rw [hm.members_step hs, htold]
  cases a with
  | ended c outcome => cases ha
  | _ => rfl

/-- While a poll waits, two descriptors are added, the facility forgets them, and the first one is
removed under its other kind.  The facility fails, and the second one is the only entry. -/
theorem set_is_map_during_wait :
    ∃ (host : Host Scripted) (W : Host Scripted → Host Scripted → Prop)
      (L : List (Label Scripted)) (m : Moment Scripted),
      Run W (start host 2 true) L m ∧ m.poll.isSome = true ∧
      L.getLast? = some (.ended (.removing (.file 1) .readable (some 0)) (.failed .noEntry)) ∧
      m.IsMap 2 (Members.of [⟨.pack 1 0, .socket 2, .both, ⟨8⟩⟩]) := by
  obtain ⟨host, W, L, m, hr, hpoll, hlast, hadded⟩ :
      ∃ (host : Host Scripted) (W : Host Scripted → Host Scripted → Prop)
        (L : List (Label Scripted)) (m : Moment Scripted),
        Run W (start host 2 true) L m ∧ m.poll.isSome = true ∧
        L.getLast? = some (.ended (.removing (.file 1) .readable (some 0)) (.failed .noEntry)) ∧
        m.roster.added = [⟨.pack 1 0, .socket 2, .both, ⟨8⟩⟩] := by
    exact ⟨⟨{}, {}, #[]⟩, fun _ host => host = ⟨{}, {}, #[]⟩, _, _,
      .step (.beginPoll none rfl) <| .step (.callWait rfl rfl) <|
      .step (.beginAdd (.socket 1) .readable ⟨7⟩ rfl) <| .step (.callChange rfl rfl) <|
      .step (.resumeChange rfl rfl) <| .step (.endChange rfl) <|
      .step (.beginAdd (.socket 2) .both ⟨8⟩ rfl) <| .step (.callChange rfl rfl) <|
      .step (.resumeChange rfl rfl) <| .step (.endChange rfl) <|
      .step (.world rfl) <| .step (.beginRemove (.file 1) rfl) <| .step (.callChange rfl rfl) <|
      .step (.resumeChange rfl rfl) <| .step (.endChange rfl) <| .refl _, rfl, rfl, rfl⟩
  have hmap := (set_is_map hr).1
  rw [← hmap.entries, hadded] at hmap
  exact ⟨host, W, L, m, hr, hpoll, hlast, hmap⟩

end Moment

end Readiness
