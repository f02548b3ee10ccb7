import Readiness.Proofs.RosterRuns
import Readiness.Proofs.RosterTwins

/-! # When a tag comes again

A record that is allocated from the free ring is *recycled*: it goes on in its next generation,
and the generation wraps around at the end of its word.

* **Counting.**  `Roster.recycles i ops` is how often operations recycle the record at `i`.  After
  every run the generation of a record is its generation before, advanced by that number and
  reduced to a word (`Roster.Refines.generation_run`).
* **Tags.**  An allocating hands out the tag that its record has from then on, so two allocatings
  hand out the same tag exactly when the record is the same and was recycled a full number of
  periods in between (`Roster.tags_repeat_iff`). -/

namespace Readiness

/-- The generations a record goes through before the first one comes again. -/
def Tag.period : Nat := 4294967296

theorem Tag.ext_iff_parts {t u : Tag} : t = u ↔ t.index = u.index ∧ t.generation = u.generation := by
  constructor
  · rintro rfl
    exact ⟨rfl, rfl⟩
  · rintro ⟨hindex, hgeneration⟩
    rw [← Tag.pack_index_generation t, hindex, hgeneration, Tag.pack_index_generation]

/-- Allocating may always be asked for. -/
theorem RosterLists.step?_allocate (l : RosterLists) (d : Descriptor) (f : Interests)
    (id : EventId) : ∃ l', l.step? (.allocate d f id) = some l' := by
  simp only [RosterLists.step?]
  split <;> exact ⟨_, rfl⟩

namespace Roster

/-- The record that an operation takes out of the free ring to use it again. -/
def recycled? (roster : Roster) : RosterOperation → Option UInt32
  | .allocate .. => (roster.free.pop? roster.records).map (·.1)
  | _ => none

/-- How often the record at an index is used again while operations are done. -/
def recycles (i : UInt32) : List RosterOperation → Roster → Nat
  | [], _ => 0
  | op :: rest, roster =>
    (if roster.recycled? op = some i then 1 else 0) + recycles i rest (roster.step op)

variable {roster roster' : Roster} {l l' : RosterLists} {i : UInt32} {t : Tag} {d : Descriptor}
  {f : Interests} {id : EventId}

theorem run_append (ops ops' : List RosterOperation) (roster : Roster) :
    roster.run (ops ++ ops') = (roster.run ops).run ops' :=
  List.foldl_append

theorem step_allocate (h : roster.allocate d f id = some (t, roster')) :
    roster.step (.allocate d f id) = roster' := by
  simp only [Roster.step, h]

theorem recycles_append (i : UInt32) (ops ops' : List RosterOperation) (roster : Roster) :
    roster.recycles i (ops ++ ops') =
      roster.recycles i ops + (roster.run ops).recycles i ops' := by
  induction ops generalizing roster with
  | nil => exact (Nat.zero_add _).symm
  | cons op rest ih =>
      rw [List.cons_append, recycles, recycles, ih, Nat.add_assoc]
      rfl

/-- An allocating recycles the first free record, if there is one. -/
theorem Refines.recycled?_allocate (h : roster.Refines l) (d : Descriptor) (f : Interests)
    (id : EventId) : roster.recycled? (.allocate d f id) = l.free.head? := by
  have hfree := h.free
  unfold recycled?
  cases hl : l.free with
  | nil =>
      rw [hl] at hfree
      rw [hfree.pop?_nil]
      rfl
  | cons i rest =>
      rw [hl] at hfree
      rw [hfree.pop?_cons]
      rfl

/-! ### Generations -/

/-- The next generation, as a number. -/
theorem toNat_next_generation (g : UInt32) :
    ((g + 1) &&& Tag.generationMask).toNat = (g.toNat + 1) % Tag.period := by
  have hmask : Tag.generationMask.toNat = 2 ^ 32 - 1 := rfl
  rw [UInt32.toNat_and, hmask, Nat.and_two_pow_sub_one_eq_mod, UInt32.toNat_add]
  exact Nat.mod_mod ..

/-- There is a record at an index if and only if it stands for something. -/
theorem isSome_addition?_iff (roster : Roster) (i : UInt32) :
    (roster.addition? i).isSome ↔ i.toNat < roster.records.size := by
  simp [addition?, Arena.addition?]

/-- Allocating either recycles the record it hands out, which goes on in its next generation, or
makes a record, in the first generation. -/
theorem Refines.recycled?_cases (h : roster.Refines l)
    (ha : roster.allocate d f id = some (t, roster')) :
    (roster.recycled? (.allocate d f id) = some t.index ∧ (roster.addition? t.index).isSome ∧
        t.generation = (roster.records.generation t.index + 1) &&& Tag.generationMask) ∨
      roster.recycled? (.allocate d f id) = none ∧ roster.addition? t.index = none ∧
        t.generation = 0 := by
  have htag := h.tag_allocate ha
  rw [h.recycled?_allocate]
  cases hfree : l.free with
  | nil =>
      rw [hfree] at htag
      rw [allocate_of_free_nil h hfree] at ha
      obtain ⟨hroom, -⟩ := Option.ite_none_left_eq_some.mp ha
      have hindex : t.index.toNat = roster.records.size := by
        rw [htag, Tag.index_pack]
        exact h.toNat_fresh hroom
      refine .inr ⟨rfl, ?_, htag ▸ Tag.generation_pack ..⟩
      rw [addition?, Arena.addition?, hindex, Array.getElem?_eq_none (Nat.le_refl _),
        Option.map_none]
  | cons i rest =>
      rw [hfree] at htag
      have hindex : t.index = i := htag ▸ Tag.index_pack ..
      obtain ⟨x, hx⟩ := h.isSome_addition? (i := i) (by simp [RosterLists.all, hfree])
      refine .inl ⟨by rw [hindex]; rfl, by rw [hindex, hx]; rfl, ?_⟩
      rw [hindex, generation_eq, htag]
      exact Tag.generation_pack ..

/-- Allocating recycles no record but the one it hands out. -/
theorem Refines.recycled?_ne (h : roster.Refines l)
    (ha : roster.allocate d f id = some (t, roster')) (hi : i ≠ t.index) :
    roster.recycled? (.allocate d f id) ≠ some i := by
  obtain ⟨hrecycled, -⟩ | ⟨hrecycled, -⟩ := h.recycled?_cases ha
  · rw [hrecycled]
    exact fun e => hi (Option.some.inj e).symm
  · rw [hrecycled]
    exact nofun

/-- The record of a new tag has the generation of the tag. -/
theorem Refines.generation_of_allocate (h : roster.Refines l)
    (ha : roster.allocate d f id = some (t, roster')) :
    roster'.records.generation t.index = t.generation := by
  have hadd := (h.addition?_allocate ha t.index).trans (if_pos rfl)
  rw [generation_eq, ← addition?, hadd]
  rfl

/-- An operation keeps all records; the one that it recycles, if there is one, goes on in its next
generation, and the others stay in theirs. -/
theorem Refines.generation_step (h : roster.Refines l) (op : RosterOperation)
    (hi : (roster.addition? i).isSome) :
    ((roster.step op).addition? i).isSome ∧
      ((roster.step op).records.generation i).toNat = ((roster.records.generation i).toNat +
        if roster.recycled? op = some i then 1 else 0) % Tag.period := by
  -- what leaves the addition of the record leaves its generation
  have hsame : ∀ roster' : Roster, roster'.addition? i = roster.addition? i →
      (roster'.addition? i).isSome ∧ (roster'.records.generation i).toNat =
        ((roster.records.generation i).toNat + 0) % Tag.period := by
    intro roster' he
    refine ⟨he ▸ hi, ?_⟩
    rw [generation_eq, ← addition?, he, addition?, ← generation_eq]
    exact (Nat.mod_eq_of_lt (UInt32.toNat_lt _)).symm
  cases op with
  | allocate d f id =>
      cases ha : roster.allocate d f id with
      | none =>
          have hnone : l.free.head? = none := by
            cases hfree : l.free with
            | nil => rfl
            | cons j rest => rw [allocate_of_free_cons h hfree] at ha; cases ha
          rw [h.recycled?_allocate, hnone, Roster.step, ha]
          exact hsame roster rfl
      | some r =>
          obtain ⟨t, roster'⟩ := r
          have hadd := h.addition?_allocate ha i
          rw [step_allocate ha]
          by_cases heq : i = t.index
          · obtain ⟨hrecycled, -, hnext⟩ | ⟨-, hfresh, -⟩ := h.recycled?_cases ha
            · rw [heq, if_pos hrecycled, h.generation_of_allocate ha, hnext, toNat_next_generation]
              rw [← heq, hadd, if_pos heq]
              exact ⟨rfl, rfl⟩
            · rw [heq, hfresh] at hi
              cases hi
          · rw [if_neg heq] at hadd
            rw [if_neg (h.recycled?_ne ha heq)]
            exact hsame roster' hadd
  | activate t => exact hsame _ (addition?_activate ..)
  | release t => exact hsame _ (addition?_release ..)
  | retire j => exact hsame _ (addition?_retire ..)
  | reclaim marker => exact hsame _ (addition?_reclaim ..)

/-- The generation of a record counts how often it was recycled, up to whole periods. -/
theorem Refines.generation_run (h : roster.Refines l) {ops : List RosterOperation}
    (hops : l.run? ops = some l') (hi : (roster.addition? i).isSome) :
    ((roster.run ops).addition? i).isSome ∧
      ((roster.run ops).records.generation i).toNat =
        ((roster.records.generation i).toNat + roster.recycles i ops) % Tag.period := by
  induction ops generalizing roster l with
  | nil => exact ⟨hi, (Nat.mod_eq_of_lt (UInt32.toNat_lt _)).symm⟩
  | cons op rest ih =>
      obtain ⟨l₁, hstep, hrest⟩ := Option.bind_eq_some_iff.mp hops
      obtain ⟨hkept, hone⟩ := h.generation_step op hi
      obtain ⟨hkept', hmore⟩ := ih (h.step hstep) hrest hkept
      refine ⟨hkept', ?_⟩
      show ((((roster.step op).run rest).records.generation i).toNat = _)
      rw [hmore, hone, Nat.mod_add_mod, recycles, Nat.add_assoc]

/-! ### Rounds -/

/-- One record, given back and taken again for `n` times. -/
def rounds (d : Descriptor) (f : Interests) (id : EventId) : Nat → List RosterOperation
  | 0 => []
  | n + 1 =>
    rounds d f id n ++ [.release (.pack 0 (UInt32.ofNat n))] ++ [.allocate d f id]

theorem run?_round (t : Tag) (ht : t.index = 0) (d : Descriptor) (f : Interests) (id : EventId) :
    RosterLists.run? [.release t] { outside := [0] } = some { free := [0] } ∧
      RosterLists.run? [.allocate d f id] { free := [0] } = some { outside := [0] } := by
  refine ⟨?_, rfl⟩
  simp only [RosterLists.run?, RosterLists.step?, ht]
  rfl

theorem run?_rounds (d : Descriptor) (f : Interests) (id : EventId) (n : Nat) :
    RosterLists.run? (rounds d f id n) { outside := [0] } = some { outside := [0] } := by
  induction n with
  | zero => rfl
  | succ n ih =>
      obtain ⟨hrelease, hallocate⟩ :=
        run?_round (.pack 0 (UInt32.ofNat n)) (Tag.index_pack ..) d f id
      rw [rounds, RosterLists.run?_append, RosterLists.run?_append, ih, Option.bind_some,
        hrelease, Option.bind_some, hallocate]

/-- Every round recycles the record once. -/
theorem Refines.recycles_rounds (h : roster.Refines { outside := [0] }) (d : Descriptor)
    (f : Interests) (id : EventId) (n : Nat) : roster.recycles 0 (rounds d f id n) = n := by
  induction n with
  | zero => rfl
  | succ n ih =>
      obtain ⟨hrelease, -⟩ := run?_round (.pack 0 (UInt32.ofNat n)) (Tag.index_pack ..) d f id
      have hfree := (h.run (run?_rounds d f id n)).run hrelease
      rw [rounds, recycles_append, recycles_append, ih, run_append, recycles, recycles, recycles,
        recycles, hfree.recycled?_allocate]
      rfl

/-! ### Tags -/

/-- The tag of a record of the given generation resolves if the record is in it. -/
theorem isSome_resolve?_iff (hi : (roster.addition? t.index).isSome) :
    (roster.resolve? t).isSome ↔ roster.records.generation t.index = t.generation := by
  rw [isSome_addition?_iff] at hi
  simp [resolve?, record?, Arena.generation, Array.getElem?_eq_getElem hi, Option.filter]

/-- The tags of different records differ. -/
theorem tag_ne_of_addition? {j : UInt32} {x y : Addition} (hx : roster.addition? i = some x)
    (hy : roster.addition? j = some y) (hij : i ≠ j) : x.tag ≠ y.tag := by
  intro he
  apply hij
  rw [← index_of_addition? hx, ← index_of_addition? hy, he]

/-- Right after an allocating its record is there, with the generation of the tag. -/
theorem Refines.isSome_of_allocate (h : roster.Refines l)
    (ha : roster.allocate d f id = some (t, roster')) : (roster'.addition? t.index).isSome := by
  rw [h.addition?_allocate ha, if_pos rfl]
  rfl

/-- Operations leave a tag resolvable if and only if they recycled its record for whole periods. -/
theorem Refines.isSome_resolve?_run (h : roster.Refines l) {ops : List RosterOperation}
    (hops : l.run? ops = some l') (hi : (roster.addition? t.index).isSome)
    (hg : roster.records.generation t.index = t.generation) :
    ((roster.run ops).resolve? t).isSome ↔ Tag.period ∣ roster.recycles t.index ops := by
  obtain ⟨hkept, hgeneration⟩ := h.generation_run hops hi
  have hlt := UInt32.toNat_lt t.generation
  rw [isSome_resolve?_iff hkept, ← UInt32.toNat_inj, hgeneration, hg]
  simp only [Tag.period]
  omega

/-- **Tags come again after whole periods only.**  In every run from the empty roster, no two
records have the same tag.  A tag that was handed out resolves if and only if its record was
recycled for whole periods since.  Another allocating hands out the same tag if and only if it
hands out the same record, and the number of times this was recycled, from the first allocating to
the other, is a positive number of periods. -/
theorem tags_repeat_iff (ops : List RosterOperation) (l : RosterLists)
    (h : RosterLists.run? ops {} = some l) :
    (∀ i j x y, (Roster.run ops {}).addition? i = some x →
      (Roster.run ops {}).addition? j = some y → i ≠ j → x.tag ≠ y.tag) ∧
    ∀ before between d₁ f₁ id₁ t₁ roster₁, ops = before ++ .allocate d₁ f₁ id₁ :: between →
      (Roster.run before {}).allocate d₁ f₁ id₁ = some (t₁, roster₁) →
      (((Roster.run ops {}).resolve? t₁).isSome ↔
        Tag.period ∣ roster₁.recycles t₁.index between) ∧
      ∀ d₂ f₂ id₂ t₂ roster₂, (Roster.run ops {}).allocate d₂ f₂ id₂ = some (t₂, roster₂) →
        (t₁ = t₂ ↔ t₁.index = t₂.index ∧
          0 < roster₁.recycles t₁.index (between ++ [.allocate d₂ f₂ id₂]) ∧
          Tag.period ∣ roster₁.recycles t₁.index (between ++ [.allocate d₂ f₂ id₂])) := by
  refine ⟨fun i j x y hx hy hij => tag_ne_of_addition? hx hy hij, ?_⟩
  rintro before between d₁ f₁ id₁ t₁ roster₁ rfl h₁
  -- the run up to the first allocating, and the run from there on
  rw [RosterLists.run?_append] at h
  obtain ⟨l₀, hbefore, hrest⟩ := Option.bind_eq_some_iff.mp h
  obtain ⟨l₁, hstep, hbetween⟩ := Option.bind_eq_some_iff.mp hrest
  have hr₀ : (Roster.run before {}).Refines l₀ := refines_empty.run hbefore
  have hr₁ : roster₁.Refines l₁ := step_allocate h₁ ▸ hr₀.step hstep
  have hthere : (roster₁.addition? t₁.index).isSome := hr₀.isSome_of_allocate h₁
  have hgeneration := hr₀.generation_of_allocate h₁
  have hrun : Roster.run (before ++ .allocate d₁ f₁ id₁ :: between) {} = roster₁.run between := by
    rw [run_append, ← step_allocate h₁]
    rfl
  rw [hrun]
  refine ⟨hr₁.isSome_resolve?_run hbetween hthere hgeneration, ?_⟩
  intro d₂ f₂ id₂ t₂ roster₂ h₂
  have hr := hr₁.run hbetween
  -- the second tag says in which generation the record is after all of it
  obtain ⟨l₂, hl₂⟩ := RosterLists.step?_allocate l d₂ f₂ id₂
  obtain ⟨hkept, -⟩ := hr₁.generation_run hbetween hthere
  have hall : l₁.run? (between ++ [.allocate d₂ f₂ id₂]) = some l₂ := by
    rw [RosterLists.run?_append, hbetween, Option.bind_some, RosterLists.run?, hl₂]
    rfl
  obtain ⟨-, hadvanced⟩ := hr₁.generation_run hall hthere
  have hend : roster₁.run (between ++ [.allocate d₂ f₂ id₂]) = roster₂ := by
    rw [run_append, ← step_allocate h₂]
    rfl
  rw [hend, hgeneration] at hadvanced
  have hlt := UInt32.toNat_lt t₁.generation
  rw [Tag.ext_iff_parts]
  refine and_congr_right fun hindex => ?_
  have hpositive : 0 < roster₁.recycles t₁.index (between ++ [.allocate d₂ f₂ id₂]) := by
    obtain ⟨hrecycled, -⟩ | ⟨-, hnone, -⟩ := hr.recycled?_cases h₂
    · rw [recycles_append, recycles, if_pos (hindex ▸ hrecycled)]
      omega
    · rw [← hindex] at hnone
      rw [hnone] at hkept
      cases hkept
  rw [hindex] at hadvanced hpositive ⊢
  rw [hr.generation_of_allocate h₂] at hadvanced
  rw [← UInt32.toNat_inj, hadvanced, and_iff_right hpositive]
  simp only [Tag.period]
  omega

/-- The tag of a record comes again once the record has gone through all its generations. -/
theorem tags_repeat_iff_rounds :
    ∃ n t roster₁ roster₂, n + 1 = Tag.period ∧
      allocate {} (.socket 1) .both ⟨1⟩ = some (t, roster₁) ∧
      (roster₁.run (rounds (.socket 1) .both ⟨1⟩ n ++
        [.release (.pack 0 (UInt32.ofNat n))])).allocate (.socket 1) .both ⟨1⟩ =
          some (t, roster₂) := by
  obtain ⟨n, hn⟩ : ∃ n, n + 1 = Tag.period := ⟨4294967295, rfl⟩
  obtain ⟨roster₁, h₁⟩ : ∃ roster₁,
      allocate {} (.socket 1) .both ⟨1⟩ = some (.pack 0 0, roster₁) := ⟨_, rfl⟩
  have hr₁ : roster₁.Refines { outside := [0] } := step_allocate h₁ ▸ refines_empty.step rfl
  obtain ⟨hrelease, -⟩ :=
    run?_round (.pack 0 (UInt32.ofNat n)) (Tag.index_pack ..) (.socket 1) .both ⟨1⟩
  have hops : RosterLists.run? ([] ++ .allocate (.socket 1) .both ⟨1⟩ ::
      (rounds (.socket 1) .both ⟨1⟩ n ++ [.release (.pack 0 (UInt32.ofNat n))])) {} =
        some { free := [0] } := by
    have hfirst : RosterLists.step? {} (.allocate (.socket 1) .both ⟨1⟩) =
        some { outside := [0] } := rfl
    rw [List.nil_append, RosterLists.run?, hfirst, Option.bind_some, RosterLists.run?_append,
      run?_rounds, Option.bind_some, hrelease]
  rcases (refines_empty.run hops).allocate (.socket 1) .both ⟨1⟩ with
    ⟨-, hnone⟩ | ⟨t₂, roster₂, l', h₂, hl, -⟩
  · cases hnone
  · have hindex : (0 : UInt32) = t₂.index := (Prod.mk.inj (Option.some.inj hl)).1
    have hcount : roster₁.recycles 0 (rounds (.socket 1) .both ⟨1⟩ (n + 1)) = Tag.period := by
      rw [hr₁.recycles_rounds, hn]
    have hsame : Tag.pack 0 0 = t₂ := by
      refine (((tags_repeat_iff _ _ hops).2 [] _ _ _ _ _ _ rfl h₁).2 _ _ _ _ _ h₂).mpr ?_
      rw [rounds] at hcount
      rw [Tag.index_pack, hcount]
      exact ⟨hindex, by decide, Nat.dvd_refl _⟩
    subst hsame
    refine ⟨n, .pack 0 0, roster₁, roster₂, hn, h₁, ?_⟩
    rw [← step_allocate h₁]
    exact h₂

end Roster

end Readiness
