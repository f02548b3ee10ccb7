import Mathlib.Data.List.MinMax
import Mathlib.Order.Nat
import Readiness.Facility.Epoll
import Readiness.Proofs.Room

/-! # How large the arena grows

A record is made only when no record is free, so the arena is never larger than it must have been at
some time.

* **Lists.**  An operation on the rings leaves as many records as there were, or as many as are in
  use if these are more (`RosterLists.step?_length_all`).
* **Histories.**  A run together with all moments it goes through (`Moment.History`), and the largest
  value that a number has in them (`Moment.peak`).
* **Result.**  `Moment.allocated_eq_peak`: the arena has as many records as were ever in use at
  once. -/

namespace Readiness

namespace RosterLists

variable {l l' : RosterLists} {op : RosterOperation}

/-- How many records are not free. -/
def inUse (l : RosterLists) : Nat := l.active.length + l.dead.length + l.outside.length

theorem length_all (l : RosterLists) : l.all.length = l.inUse + l.free.length := by
  simp only [all, inUse, List.length_append]
  omega

/-- Allocating makes a record only if no record is free. -/
theorem length_all_allocate {i : UInt32} (h : l.allocate = some (i, l')) :
    l'.all.length = max l.all.length l'.inUse := by
  obtain ⟨hactive, hdead, houtside, -, hfree⟩ := allocate_eq_some h
  have hinUse : l'.inUse = l.inUse + 1 := by
    simp only [inUse, hactive, hdead, houtside, List.length_cons]
    omega
  rw [length_all, length_all, hinUse]
  rcases hfree with hfree | ⟨hfree, hfree'⟩
  · rw [hfree, List.length_cons]
    omega
  · rw [hfree, hfree', List.length_nil]
    omega

/-- After an operation there are as many records as before, or as many as are in use. -/
theorem step?_length_all (h : l.step? op = some l') :
    l'.all.length = max l.all.length l'.inUse := by
  have hkept : l'.all.Perm l.all → l'.all.length = max l.all.length l'.inUse := by
    intro hperm
    have hlength := length_all l'
    rw [hperm.length_eq] at hlength ⊢
    omega
  cases op with
  | allocate d f id =>
      simp only [RosterLists.step?] at h
      split at h
      · obtain rfl := Option.some.inj h
        exact hkept (.refl _)
      · rename_i ha
        obtain rfl := Option.some.inj h
        exact length_all_allocate ha
  | activate t =>
      obtain ⟨ht, hl⟩ := Option.ite_none_right_eq_some.mp h
      obtain rfl := Option.some.inj hl
      exact hkept (perm_activate ht)
  | release t =>
      obtain ⟨ht, hl⟩ := Option.ite_none_right_eq_some.mp h
      obtain rfl := Option.some.inj hl
      exact hkept (perm_release ht)
  | retire i =>
      obtain ⟨hi, hl⟩ := Option.ite_none_right_eq_some.mp h
      obtain rfl := Option.some.inj hl
      exact hkept (perm_retire hi)
  | reclaim marker =>
      obtain rfl := Option.some.inj h
      exact hkept (perm_moveDead _ l)

end RosterLists

namespace Moment

variable {β : Type}

/-- How many records are in use: those that are active or dead, and the one that an adding in
progress holds. -/
def inUse (m : Moment β) : Nat :=
  m.roster.stats.active + m.roster.stats.dead + m.taken.toList.length

/-- The largest value that a number has at some moments. -/
def peak (f : Moment β → Nat) (ms : List (Moment β)) : Nat := (ms.map f).foldr max 0

variable {m m₁ m' : Moment β} {a : Label β} {L : List (Label β)} {ms : List (Moment β)}
  {l l' : RosterLists} {capacity : Nat}

theorem peak_cons (f : Moment β → Nat) (m : Moment β) (ms : List (Moment β)) :
    peak f (m :: ms) = max (f m) (peak f ms) := rfl

theorem le_peak (f : Moment β → Nat) (h : m ∈ ms) : f m ≤ peak f ms :=
  List.le_max_of_le (List.mem_map_of_mem h) (Nat.le_refl _)

theorem peak_le {f : Moment β → Nat} {n : Nat} (h : ∀ m ∈ ms, f m ≤ n) : peak f ms ≤ n :=
  List.max_le_of_forall_le _ _ (List.forall_mem_map.mpr h)

/-! ### Records -/

theorem Shows.allocated_eq (hm : m.Shows l) : m.roster.stats.allocated = l.all.length :=
  hm.refines.length_all.symm

/-- What is in use at a moment is what is in use of the lists. -/
theorem Shows.inUse_eq (hm : m.Shows l) (ho : l.outside.Perm m.taken.toList) :
    m.inUse = l.inUse := by
  rw [inUse, RosterLists.inUse, ho.length_eq, ← hm.refines.active.len, ← hm.refines.dead.len]
  rfl

/-- Records in use are records. -/
theorem Shows.inUse_le (hm : m.Shows l) (ho : l.outside.Perm m.taken.toList) :
    m.inUse ≤ m.roster.stats.allocated := by
  rw [hm.inUse_eq ho, hm.allocated_eq, RosterLists.length_all]
  exact Nat.le_add_right ..

/-- A step makes a record only if more records are in use afterwards than there were. -/
theorem Advances.allocated_eq (hm : m.Shows l) (hstep : m.Advances l a m' l')
    (ho : l'.outside.Perm m'.taken.toList) :
    m'.roster.stats.allocated = max m.roster.stats.allocated m'.inUse := by
  rw [hstep.shows.allocated_eq, hm.allocated_eq, hstep.shows.inUse_eq ho]
  have hlists := hstep.lists
  cases hop : a.operation? with
  | none =>
      rw [hop] at hlists
      obtain rfl := Option.some.inj hlists
      have hlength := RosterLists.length_all l
      omega
  | some op =>
      rw [hop, Option.toList_some, RosterLists.run?_singleton] at hlists
      exact RosterLists.step?_length_all hlists

/-! ### Histories -/

variable [Facility β] {W : Host β → Host β → Prop}

/-- Some steps, with their labels and with the moments before, between and after them. -/
inductive History (W : Host β → Host β → Prop) :
    Moment β → List (Label β) → List (Moment β) → Moment β → Prop
  | refl (m : Moment β) : History W m [] [m] m
  | step {m m₁ m₂ : Moment β} {a : Label β} {L : List (Label β)} {ms : List (Moment β)} :
      Step W m a m₁ → History W m₁ L ms m₂ → History W m (a :: L) (m :: ms) m₂

/-- Every run has a history. -/
theorem Run.history (h : Run W m L m') : ∃ ms, History W m L ms m' := by
  induction h with
  | refl m => exact ⟨[m], .refl m⟩
  | step hs _ ih =>
      obtain ⟨ms, hms⟩ := ih
      exact ⟨_, .step hs hms⟩

theorem History.first_mem (h : History W m L ms m') : m ∈ ms := by
  cases h <;> exact List.mem_cons_self

/-- The arena grows to the largest number of records in use. -/
theorem History.allocated_eq (hm : m.Shows l) (ho : l.outside.Perm m.taken.toList)
    (h : History W m L ms m') (hL : ∀ a ∈ L, a.lost? = none) :
    m'.roster.stats.allocated = max m.roster.stats.allocated (peak inUse ms) := by
  induction h generalizing l with
  | refl m =>
      have hle := hm.inUse_le ho
      rw [peak_cons, show peak inUse [] = 0 from rfl]
      omega
  | @step m m₁ m₂ a L ms hs hrest ih =>
      obtain ⟨ha, hL⟩ := List.forall_mem_cons.mp hL
      obtain ⟨l₁, hstep, hhandles⟩ := hm.handles hs.moves
      have ho₁ : l₁.outside.Perm m₁.taken.toList := by
        rw [← List.append_nil m.taken.toList] at ho
        simpa [ha] using hhandles.outside ho
      have hlater := ih hstep.shows ho₁ hL
      have hone := hstep.allocated_eq hm ho₁
      have hle := hm.inUse_le ho
      have hpeak : m₁.inUse ≤ peak inUse ms := le_peak inUse hrest.first_mem
      rw [peak_cons]
      omega

/-! ### Room -/

theorem Fitting.history (hm : m.Shows l) (h : m.Fitting capacity) (hr : History W m L ms m') :
    ∀ m ∈ ms, m.Fitting capacity := by
  induction hr generalizing l with
  | refl m => exact List.forall_mem_singleton.mpr h
  | step hs _ ih =>
      obtain ⟨l₁, hstep⟩ := hm.step hs
      exact List.forall_mem_cons.mpr ⟨h, ih hstep.shows (h.step hm hs)⟩

/-- **The arena grows by need.**  In every history that begins with a new set, in which no adding is
given up, there are as many records as were ever in use at once.  So there are at most as many as
descriptors fit into the set and records were ever dead at once, and at most one more than were ever
active or dead at once. -/
theorem allocated_eq_peak {host : Host β} {threadSafe : Bool}
    (h : History W (start host capacity threadSafe) L ms m) (hL : ∀ a ∈ L, a.lost? = none) :
    m.roster.stats.allocated = peak inUse ms ∧
      m.roster.stats.allocated ≤ capacity + peak (·.roster.stats.dead) ms ∧
      m.roster.stats.allocated ≤
        peak (fun m => m.roster.stats.active + m.roster.stats.dead) ms + 1 := by
  have hshows := shows_start host capacity threadSafe
  have hpeak : m.roster.stats.allocated = peak inUse ms :=
    (h.allocated_eq hshows (.refl _) hL).trans (Nat.zero_max _)
  refine ⟨hpeak, ?_, ?_⟩
  · rw [hpeak]
    have hstart : (start host capacity threadSafe).Fitting capacity := ⟨rfl, Nat.zero_le _⟩
    have hfits := hstart.history hshows h
    refine peak_le fun m hm => ?_
    have hdead := le_peak (·.roster.stats.dead) hm
    have hactive := (hfits m hm).2
    rw [inUse]
    omega
  · rw [hpeak]
    refine peak_le fun m hm => ?_
    have hold := le_peak (fun m => m.roster.stats.active + m.roster.stats.dead) hm
    have hone : m.taken.toList.length ≤ 1 := Option.length_toList_le
    rw [inUse]
    omega

/-- A descriptor is added and another one is refused twice.  The first one is removed, and its record
is still dead when a third one is added: it gets the record that was made for the second. -/
theorem allocated_eq_peak_refused :
    ∃ (host : Host Epoll) (L : List (Label Epoll)) (ms : List (Moment Epoll)) (m : Moment Epoll),
      History (fun _ _ => False) (start host 2 true) L ms m ∧ (∀ a ∈ L, a.lost? = none) ∧
      m.roster.stats = ⟨1, 1, 0, 2⟩ ∧ peak inUse ms = 2 := by
  obtain ⟨host, L, ms, m, h, hstats, hL⟩ :
      ∃ (host : Host Epoll) (L : List (Label Epoll)) (ms : List (Moment Epoll))
        (m : Moment Epoll), History (fun _ _ => False) (start host 2 true) L ms m ∧
        m.roster.stats = ⟨1, 1, 0, 2⟩ ∧ ∀ a ∈ L, a.lost? = none := by
    refine ⟨⟨⟨⟨1000⟩⟩, { live := [1000], invalid := [51] }, #[]⟩, _, _, _,
      .step (.beginAdd (.socket 50) .readable ⟨7⟩ rfl) <| .step (.callChange rfl rfl) <|
      .step (.endChange rfl) <|
      .step (.beginAdd (.socket 51) .both ⟨8⟩ rfl) <| .step (.callChange rfl rfl) <|
      .step (.endChange rfl) <|
      .step (.beginAdd (.socket 51) .both ⟨8⟩ rfl) <| .step (.callChange rfl rfl) <|
      .step (.endChange rfl) <|
      .step (.beginRemove (.socket 50) rfl) <| .step (.callChange rfl rfl) <|
      .step (.endChange rfl) <|
      .step (.beginAdd (.file 52) .writable ⟨9⟩ rfl) <| .step (.callChange rfl rfl) <|
      .step (.endChange rfl) <| .refl _, rfl, ?_⟩
    simp only [List.forall_mem_cons]
    exact ⟨rfl, rfl, rfl, rfl, rfl, rfl, rfl, rfl, rfl, rfl, rfl, rfl, rfl, rfl, rfl, nofun⟩
  have hpeak := (allocated_eq_peak h hL).1
  rw [hstats] at hpeak
  exact ⟨host, L, ms, m, h, hL, hstats, hpeak.symm⟩

end Moment

end Readiness
