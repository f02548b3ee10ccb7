import Readiness.Proofs.DescriptorRegistries
import Readiness.Proofs.FilterLoops

/-! # Watches that fail

What a watch that failed leaves registered.

* **Nothing of its own.**  A failed watch of `epoll` or of `poll` has not registered anything.
* **Rolled back.**  `kqueue` may have registered a filter before another one failed.  The rollback
  deletes it again, and the other descriptors are left alone, in the order they had.  If every
  deletion that was asked for was made (`Kernel.MakesDeletions`), and the descriptor had no
  registration before, then it has none afterwards.

`Restores` is what the three have in common. -/

namespace Readiness

open Registry

theorem Progress.eq_of_atOnce {σ ρ : Type} {call : σ → ρ × σ} {s s' : σ} {r : ρ}
    (h : atOnce call s = (.returned r, s')) : call s = (r, s') := by
  obtain ⟨hr, hs⟩ := Prod.mk.inj h
  exact Prod.ext (Progress.returned.inj hr) hs

/-- A watch that fails leaves the registrations of other descriptors as they were, and under the
proviso all registrations. -/
def Restores (β : Type) [Facility β] [Registry β] (Proviso : Int32 → Host β → Host β → Prop) :
    Prop :=
  ∀ (d : Int32) (i : Interests) (t : Tag) (h h' : Host β) (cause : SystemError),
    Facility.watch d i t h = (.returned (.failed cause), h') →
      h'.entries.filter (fd · ≠ d) = h.entries.filter (fd · ≠ d) ∧
        (Proviso d h h' → h'.entries = h.entries)

/-- A watch that fails without registering anything restores everything. -/
theorem Restores.of_unchanged {β : Type} [Facility β] [Registry β]
    (h : ∀ (d : Int32) (i : Interests) (t : Tag) (h h' : Host β) (cause : SystemError),
      Facility.watch d i t h = (.returned (.failed cause), h') → h'.entries = h.entries) :
    Restores β fun _ _ _ => True := by
  intro d i t host host' cause hw
  have hsame := h d i t host host' cause hw
  exact ⟨by rw [hsame], fun _ => hsame⟩

theorem Epoll.restores : Restores Epoll fun _ _ _ => True := by
  refine .of_unchanged fun d i t h h' cause hw => ?_
  have hcall : watch d i t h = (.failed cause, h') := Progress.eq_of_atOnce hw
  obtain ⟨kernel, hadd, rfl⟩ := Host.system_eq hcall
  rcases Kernel.epollAdd_eq hadd with ⟨hdone, -⟩ | ⟨-, hk⟩
  · cases hdone
  · exact hk

theorem Poll.restores : Restores Poll fun _ _ _ => True := by
  refine .of_unchanged fun d i t h h' cause hw => ?_
  rcases Poll.watch_eq (Progress.eq_of_atOnce hw) with ⟨hdone, -⟩ | ⟨-, hsame⟩
  · cases hdone
  · exact hsame

/-- If neither of two states has a registration of a descriptor, and both have the same ones of the
others, they have the same ones. -/
theorem Host.entries_eq {β : Type} [Registry β] {d : Int32} {h h' : Host β}
    (hothers : h'.entries.filter (fd · ≠ d) = h.entries.filter (fd · ≠ d))
    (hgone : ∀ e ∈ h'.entries, fd e ≠ d) (hnew : ∀ e ∈ h.entries, fd e ≠ d) :
    h'.entries = h.entries := by
  rwa [List.filter_eq_self.mpr fun e he => decide_eq_true (hgone e he),
    List.filter_eq_self.mpr fun e he => decide_eq_true (hnew e he)] at hothers

/-! ### Filters -/

namespace Kernel

variable {k k' : Kernel} {c : KqueueChange}

/-- Each deletion among some changes, asked for one after the other, is made. -/
def MakesDeletions : List (Int32 × KqueueChange) → Kernel → Prop
  | [], _ => True
  | (handle, c) :: rest, k =>
    (Kqueue.hasFlag c.flags Kqueue.deleteFlag = true →
      Applied k (k.keventChange handle c).2 c) ∧
    MakesDeletions rest (k.keventChange handle c).2

/-- An applied change leaves the other descriptors alone, in the order they had. -/
theorem Applied.filter_eq (h : Applied k k' c) :
    k'.kqueueRegistrations.filter (·.fd ≠ c.fd) = k.kqueueRegistrations.filter (·.fd ≠ c.fd) := by
  obtain ⟨hzero, hk⟩ := h
  have hother : ∀ r : KqueueRegistration, r.fd ≠ c.fd → c.concerns r = false := fun r hr =>
    Bool.eq_false_iff.mpr fun hc => hr (KqueueChange.concerns_iff.mp hc).1
  rcases applyChange_cases k c with ⟨herror, -⟩ | ⟨-, -, hr⟩ | ⟨-, -, hr⟩
  · exact absurd hzero herror
  · rw [hk, hr]
    split
    · -- a registration that is there already gets another tag
      rw [List.filter_map]
      have hkept : ∀ r ∈ k.kqueueRegistrations,
          ((fun r : KqueueRegistration => decide (r.fd ≠ c.fd)) ∘
            fun r => if c.concerns r then { r with tag := c.tag } else r) r =
              decide (r.fd ≠ c.fd) := by
        intro r _
        dsimp only [Function.comp]
        split <;> rfl
      rw [List.filter_congr hkept]
      refine (List.map_congr_left fun r hr => ?_).trans (List.map_id _)
      rw [hother r (of_decide_eq_true (List.mem_filter.mp hr).2)]
      rfl
    · rw [List.filter_append]
      simp
  · rw [hk, hr, List.filter_filter]
    refine List.filter_congr fun r _ => ?_
    by_cases hfd : r.fd = c.fd
    · simp [hfd]
    · simp [hfd, hother r hfd]

end Kernel

namespace Kqueue

variable {d : Int32} {i : Interests} {t : Tag} {c : KqueueChange}
  {outcome : Outcome SystemError Unit} {h h₁ h' : Host Kqueue}

/-- Asking for a change leaves the other descriptors alone, in the order they had. -/
theorem Changed.filter_eq (hc : Changed c outcome h h') (hd : c.fd = d) :
    h'.entries.filter (fd · ≠ d) = h.entries.filter (fd · ≠ d) := by
  subst hd
  rcases hc.either with ha | hsame
  · exact ha.filter_eq
  · rw [hsame]

/-- A deletion that is asked for is made, and so are the ones after it, if all of them are. -/
theorem Changed.makes (hc : Changed (deleting d t i) outcome h h₁)
    (hcalls : h₁.kernel.calls.toList <+: h'.kernel.calls.toList)
    (hmade : Kernel.MakesDeletions (h.kernel.changesSince h'.kernel) h.kernel) :
    h.kernel.Applied h₁.kernel (deleting d t i) ∧
      Kernel.MakesDeletions (h₁.kernel.changesSince h'.kernel) h₁.kernel := by
  have hdeletes : hasFlag (deleteFlag ||| receiptFlag) deleteFlag = true := by decide
  rw [hc.changesSince hcalls, Kernel.MakesDeletions, ← hc.kernel] at hmade
  exact ⟨hmade.1 hdeletes, hmade.2⟩

/-- Watching leaves the other descriptors alone, in the order they had. -/
theorem filter_watch (d : Int32) (i : Interests) (t : Tag) (h : Host Kqueue) :
    (watch d i t h).2.entries.filter (fd · ≠ d) = h.entries.filter (fd · ≠ d) :=
  watch_composes
    (P := fun h r => r.2.entries.filter (fd · ≠ d) = h.entries.filter (fd · ≠ d))
    ⟨fun _ _ _ => rfl, fun hst htr => htr.trans hst⟩
    (fun _ _ hc => (changed rfl).filter_eq hc) (fun _ _ => rfl) i t h

/-- A rollback whose deletions are made leaves none of its filters. -/
theorem lacks_undoAll {registered : List Interests}
    (hu : undoAll (deregister d t) (fun i cause h => h.note (.rollbackFailed i cause)) registered
      h = (outcome, h')) (hfine : outcome.isHalted = false)
    (hmade : Kernel.MakesDeletions (h.kernel.changesSince h'.kernel) h.kernel) :
    Lacks h' d registered := by
  induction registered generalizing h with
  | nil => exact fun _ _ _ _ => nofun
  | cons i rest ih =>
      cases hd : deregister d t i h with
      | mk o g =>
          have hc : Changed (deleting d t i) o h g := changed hd
          rw [undoAll, hd] at hu
          -- the later deletions leave no new registration, so what is gone stays gone
          have hrest : Fewer d g h' ∧ (Kernel.MakesDeletions (g.kernel.changesSince h'.kernel)
              g.kernel → Lacks h' d rest) := by
            cases o with
            | done value => exact ⟨(undone hu).1, ih hu⟩
            | failed cause =>
                have hlacks := ih hu
                exact ⟨(fewer_note d g i cause).trans (undone hu).1, hlacks⟩
            | halted cause =>
                obtain ⟨rfl, -⟩ := Prod.mk.inj hu
                cases hfine
          obtain ⟨happlied, hlater⟩ := hc.makes hrest.1.calls hmade
          intro e he hfd j hj hfilter
          rcases List.mem_cons.mp hj with rfl | hj
          · exact (applied_delete happlied e (hrest.1.less e he)).2 ⟨hfd, hfilter⟩
          · exact hrest.2 hlater e he hfd j hj hfilter

/-! ### Watching -/

/-- The filters that were registered, if they are all there were of the descriptor, are gone when
another one has failed. -/
def TakesBack (d : Int32) (registered _todo : List Interests) (outcome : Outcome SystemError Unit)
    (h h' : Host Kqueue) : Prop :=
  ∀ cause, outcome = .failed cause →
    Kernel.MakesDeletions (h.kernel.changesSince h'.kernel) h.kernel →
      (∀ e : Entry Kqueue, e ∈ h.entries → fd e = d → ∃ i ∈ registered, e.filter = filterFor i) →
        ∀ e : Entry Kqueue, e ∈ h'.entries → fd e ≠ d

theorem TakesBack.of_rollback {registered todo : List Interests} {cause : SystemError}
    {undo : Outcome SystemError Unit} (hc : Changed (registering d t i) (.failed cause) h h₁)
    (hu : undoAll (deregister d t) (fun i cause h => h.note (.rollbackFailed i cause)) registered
      h₁ = (undo, h')) (hfine : outcome.isHalted = undo.isHalted) :
    TakesBack d registered (i :: todo) outcome h h' := by
  rintro other rfl hmade hold e he hfd
  have hf := (undone hu).1
  rw [hc.changesSince hf.calls, Kernel.MakesDeletions, ← hc.kernel] at hmade
  have hbefore : e ∈ h.entries := hc.failed nofun ▸ hf.less e he
  obtain ⟨j, hj, hfilter⟩ := hold e hbefore hfd
  exact lacks_undoAll hu hfine.symm hmade.2 e he hfd j hj hfilter

theorem TakesBack.cons {registered todo : List Interests}
    (hc : Changed (registering d t i) (.done ()) h h₁) (hn : Near d h₁ h')
    (hrest : TakesBack d (registered ++ [i]) todo outcome h₁ h') :
    TakesBack d registered (i :: todo) outcome h h' := by
  intro cause hfailed hmade hold
  rw [hc.changesSince hn.calls, Kernel.MakesDeletions, ← hc.kernel] at hmade
  refine hrest cause hfailed hmade.2 fun e he hfd => ?_
  have hbefore : e ∈ h.entries ∨ e = registration d t i := by
    rcases hc.either with ha | hsame
    · exact (applied_register ha).2.2 e he
    · exact .inl (hsame ▸ he)
  rcases hbefore with hmem | rfl
  · obtain ⟨j, hj, hfilter⟩ := hold e hmem hfd
    exact ⟨j, List.mem_append_left _ hj, hfilter⟩
  · exact ⟨i, List.mem_append_right _ List.mem_cons_self, rfl⟩

theorem takesBack {registered todo : List Interests}
    (hr : registerFrom (register d t) (deregister d t)
      (fun i cause h => h.note (.rollbackFailed i cause)) registered todo h = (outcome, h')) :
    TakesBack d registered todo outcome h h' := by
  refine registerFrom_cases (P := TakesBack d) (fun registered h => nofun) ?_ ?_ ?_ hr
  · exact fun _ _ _ _ _ _ _ => nofun
  · exact fun _ _ _ _ _ _ _ _ _ hc hu hfine _ => .of_rollback hc hu hfine
  · exact fun _ _ _ _ _ _ _ hc hr hrest => .cons hc (registeredFrom hr).near hrest

/-- The deletions that a watch asked for were made, and the descriptor had no registration
before. -/
def Undone (d : Int32) (h h' : Host Kqueue) : Prop :=
  Kernel.MakesDeletions (h.kernel.changesSince h'.kernel) h.kernel ∧ ∀ e ∈ h.entries, fd e ≠ d

theorem restores : Restores Kqueue Undone := by
  intro d i t h h' cause hw
  have hcall : watch d i t h = (.failed cause, h') := Progress.eq_of_atOnce hw
  have hothers := filter_watch d i t h
  rw [hcall] at hothers
  refine ⟨hothers, fun ⟨hmade, hnew⟩ => Host.entries_eq hothers ?_ hnew⟩
  exact takesBack hcall cause rfl hmade fun e he hfd => absurd hfd (hnew e he)

end Kqueue

end Readiness
