import Readiness.Proofs.RosterLists

/-! # Runs on the rings

A run on the rings is a list of operations (`RosterOperation`).  A roster takes any operation;
`RosterLists.step?` also says which operations may be asked for:

* only a record that was allocated is activated or released, and only once;
* only an active record is retired;
* everything else is possible at any time, reclaiming with any marker.

`rings_are_lists` is the result: from the empty roster on, the rings are what the lists are. -/

namespace Readiness

/-- An operation on the rings. -/
inductive RosterOperation where
  | allocate (d : Descriptor) (i : Interests) (id : EventId)
  | activate (t : Tag)
  | release (t : Tag)
  | retire (i : UInt32)
  | reclaim (marker : Nat)
deriving DecidableEq, Repr

namespace Roster

/-- Do an operation; allocating changes nothing if no record is left. -/
def step (roster : Roster) : RosterOperation → Roster
  | .allocate d i id =>
    match roster.allocate d i id with
    | none => roster
    | some (_, roster) => roster
  | .activate t => roster.activate t
  | .release t => roster.release t
  | .retire i => roster.retire i
  | .reclaim marker => roster.reclaim marker

/-- Do operations one after the other. -/
def run (ops : List RosterOperation) (roster : Roster) : Roster := ops.foldl step roster

end Roster

namespace RosterLists

/-- Do an operation on the lists, if it may be asked for. -/
def step? (l : RosterLists) : RosterOperation → Option RosterLists
  | .allocate .. =>
    match l.allocate with
    | none => some l
    | some (_, l) => some l
  | .activate t => if t.index ∈ l.outside then some (l.activate t.index) else none
  | .release t => if t.index ∈ l.outside then some (l.release t.index) else none
  | .retire i => if i ∈ l.active then some (l.retire i) else none
  | .reclaim marker => some (l.reclaim marker)

/-- Do operations one after the other, if all of them may be asked for. -/
def run? : List RosterOperation → RosterLists → Option RosterLists
  | [], l => some l
  | op :: rest, l => (l.step? op).bind (run? rest)

end RosterLists

/-! ### Stretches without reclaiming -/

namespace RosterOperation

/-- The record that an operation moves to the dead ring. -/
def retired? : RosterOperation → Option UInt32
  | retire i => some i
  | _ => none

/-- The operation may take records out of the dead ring. -/
def isReclaim : RosterOperation → Bool
  | reclaim _ => true
  | _ => false

end RosterOperation

namespace RosterLists

variable {l l' : RosterLists} {i : UInt32}

/-- Allocating takes the first free record, or a new one if no record is free. -/
theorem allocate_eq_some (h : l.allocate = some (i, l')) :
    l'.active = l.active ∧ l'.dead = l.dead ∧ l'.outside = i :: l.outside ∧
      l'.reclaimed = l.reclaimed ∧ (l.free = i :: l'.free ∨ l.free = [] ∧ l'.free = []) := by
  unfold RosterLists.allocate at h
  split at h
  · rename_i hfree
    obtain ⟨rfl, rfl⟩ := Prod.mk.inj (Option.some.inj h)
    exact ⟨rfl, rfl, rfl, rfl, .inl hfree⟩
  · rename_i hfree
    obtain ⟨-, he⟩ := Option.ite_none_left_eq_some.mp h
    obtain ⟨rfl, rfl⟩ := Prod.mk.inj (Option.some.inj he)
    exact ⟨rfl, rfl, rfl, rfl, .inr ⟨hfree, hfree⟩⟩

/-- Without reclaiming, the dead ring only grows, by what is retired. -/
theorem step?_dead {op : RosterOperation} (h : l.step? op = some l') (hop : op.isReclaim = false) :
    l'.dead = l.dead ++ op.retired?.toList ∧ l'.reclaimed = l.reclaimed := by
  cases op with
  | allocate d f id =>
      simp only [RosterOperation.retired?, Option.toList_none, List.append_nil]
      simp only [RosterLists.step?] at h
      split at h
      · obtain rfl := Option.some.inj h
        exact ⟨rfl, rfl⟩
      · rename_i ha
        obtain rfl := Option.some.inj h
        obtain ⟨-, hdead, -, hreclaimed, -⟩ := allocate_eq_some ha
        exact ⟨hdead, hreclaimed⟩
  | activate t =>
      obtain ⟨-, hl⟩ := Option.ite_none_right_eq_some.mp h
      obtain rfl := Option.some.inj hl
      exact ⟨(List.append_nil _).symm, rfl⟩
  | release t =>
      obtain ⟨-, hl⟩ := Option.ite_none_right_eq_some.mp h
      obtain rfl := Option.some.inj hl
      exact ⟨(List.append_nil _).symm, rfl⟩
  | retire i =>
      obtain ⟨-, hl⟩ := Option.ite_none_right_eq_some.mp h
      obtain rfl := Option.some.inj hl
      exact ⟨rfl, rfl⟩
  | reclaim marker => cases hop

/-- Without reclaiming, a record that is active or dead stays so. -/
theorem step?_occupied {op : RosterOperation} (h : l.step? op = some l')
    (hop : op.isReclaim = false) (hi : i ∈ l.active ++ l.dead) : i ∈ l'.active ++ l'.dead := by
  cases op with
  | allocate d f id =>
      simp only [RosterLists.step?] at h
      split at h
      · obtain rfl := Option.some.inj h
        exact hi
      · rename_i ha
        obtain rfl := Option.some.inj h
        obtain ⟨hactive, hdead, -⟩ := allocate_eq_some ha
        rwa [hactive, hdead]
  | activate t =>
      obtain ⟨-, hl⟩ := Option.ite_none_right_eq_some.mp h
      obtain rfl := Option.some.inj hl
      simp only [activate, List.mem_append] at hi ⊢
      exact hi.imp_left .inl
  | release t =>
      obtain ⟨-, hl⟩ := Option.ite_none_right_eq_some.mp h
      obtain rfl := Option.some.inj hl
      exact hi
  | retire j =>
      obtain ⟨-, hl⟩ := Option.ite_none_right_eq_some.mp h
      obtain rfl := Option.some.inj hl
      simp only [retire, List.mem_append, List.mem_singleton] at hi ⊢
      by_cases hij : i = j
      · exact .inr (.inr hij)
      · exact hi.imp (List.mem_erase_of_ne hij).mpr .inl
  | reclaim marker => cases hop

theorem run?_occupied {ops : List RosterOperation} (h : l.run? ops = some l')
    (hops : ∀ op ∈ ops, op.isReclaim = false) (hi : i ∈ l.active ++ l.dead) :
    i ∈ l'.active ++ l'.dead := by
  induction ops generalizing l with
  | nil =>
      obtain rfl := Option.some.inj h
      exact hi
  | cons op rest ih =>
      obtain ⟨l₁, hstep, hrest⟩ := Option.bind_eq_some_iff.mp h
      exact ih hrest (fun o ho => hops o (List.mem_cons_of_mem op ho))
        (step?_occupied hstep (hops op List.mem_cons_self) hi)

theorem run?_append (ops ops' : List RosterOperation) (l : RosterLists) :
    l.run? (ops ++ ops') = (l.run? ops).bind (run? ops') := by
  induction ops generalizing l with
  | nil => rfl
  | cons op rest ih =>
      rw [List.cons_append, run?, run?, Option.bind_assoc]
      exact congrArg _ (funext ih)

theorem filterMap_cons_eq {α γ : Type} (f : α → Option γ) (a : α) (rest : List α) :
    (a :: rest).filterMap f = (f a).toList ++ rest.filterMap f := by
  cases h : f a with
  | none => rw [List.filterMap_cons_none h]; rfl
  | some c => rw [List.filterMap_cons_some h]; rfl

theorem run?_dead {ops : List RosterOperation} (h : l.run? ops = some l')
    (hops : ∀ op ∈ ops, op.isReclaim = false) :
    l'.dead = l.dead ++ ops.filterMap RosterOperation.retired? ∧ l'.reclaimed = l.reclaimed := by
  induction ops generalizing l with
  | nil =>
      obtain rfl := Option.some.inj h
      exact ⟨(List.append_nil _).symm, rfl⟩
  | cons op rest ih =>
      obtain ⟨l₁, hstep, hrest⟩ := Option.bind_eq_some_iff.mp h
      obtain ⟨hdead, hreclaimed⟩ := step?_dead hstep (hops op List.mem_cons_self)
      obtain ⟨hdead', hreclaimed'⟩ := ih hrest fun o ho => hops o (List.mem_cons_of_mem op ho)
      refine ⟨?_, hreclaimed'.trans hreclaimed⟩
      rw [hdead', hdead, List.append_assoc, filterMap_cons_eq]

/-- The dead records are the last ones retired, in this order. -/
theorem run?_dead_suffix {ops : List RosterOperation} (h : l.run? ops = some l') :
    l'.dead <:+ l.dead ++ ops.filterMap RosterOperation.retired? := by
  induction ops generalizing l with
  | nil =>
      obtain rfl := Option.some.inj h
      exact ⟨[], (List.append_nil _).symm⟩
  | cons op rest ih =>
      obtain ⟨l₁, hstep, hrest⟩ := Option.bind_eq_some_iff.mp h
      refine (ih hrest).trans ?_
      cases hop : op.isReclaim with
      | false =>
          have hsame : l₁.dead ++ rest.filterMap RosterOperation.retired? =
              l.dead ++ (op :: rest).filterMap RosterOperation.retired? := by
            rw [(step?_dead hstep hop).1, List.append_assoc, filterMap_cons_eq]
          exact ⟨[], hsame⟩
      | true =>
          obtain ⟨marker, rfl⟩ : ∃ marker, op = .reclaim marker := by
            cases op with
            | reclaim marker => exact ⟨marker, rfl⟩
            | _ => cases hop
          obtain rfl := Option.some.inj hstep
          obtain ⟨moved, hmoved⟩ := List.drop_suffix (l.eligible marker) l.dead
          rw [List.filterMap_cons_none rfl]
          exact ⟨moved, by rw [← List.append_assoc, ← hmoved]; rfl⟩

/-! ### The queue of retirements -/

/-- The records that a run retires, in this order. -/
def retirements (ops : List RosterOperation) : List UInt32 :=
  ops.filterMap RosterOperation.retired?

theorem retirements_append (ops ops' : List RosterOperation) :
    retirements (ops ++ ops') = retirements ops ++ retirements ops' := List.filterMap_append

/-- An operation takes records from the head of the dead ring and puts the one it retires at the
tail. -/
theorem step?_queue {op : RosterOperation} (h : l.step? op = some l') :
    ∃ moved, l.dead ++ op.retired?.toList = moved ++ l'.dead ∧
      l'.reclaimed = l.reclaimed + moved.length := by
  cases hop : op.isReclaim with
  | false =>
      obtain ⟨hdead, hreclaimed⟩ := step?_dead h hop
      exact ⟨[], hdead.symm, hreclaimed⟩
  | true =>
      obtain ⟨marker, rfl⟩ : ∃ marker, op = .reclaim marker := by
        cases op with
        | reclaim marker => exact ⟨marker, rfl⟩
        | _ => cases hop
      obtain rfl := Option.some.inj h
      exact ⟨l.dead.take (l.eligible marker),
        by simp [RosterOperation.retired?, reclaim, moveDead], by simp [reclaim, eligible]⟩

/-- The counter of retirements counts those of an operation. -/
theorem step?_retired {op : RosterOperation} (h : l.step? op = some l') :
    l'.retired = l.retired + op.retired?.toList.length := by
  obtain ⟨moved, hmoved, hcount⟩ := step?_queue h
  have hlen := congrArg List.length hmoved
  simp only [List.length_append] at hlen
  simp only [retired, hcount]
  omega

/-- A run takes records from the head of the dead ring and puts those it retires at the tail. -/
theorem run?_moved {ops : List RosterOperation} (h : l.run? ops = some l') :
    ∃ moved, l.dead ++ retirements ops = moved ++ l'.dead ∧
      l'.reclaimed = l.reclaimed + moved.length := by
  induction ops generalizing l with
  | nil =>
      obtain rfl := Option.some.inj h
      exact ⟨[], List.append_nil _, rfl⟩
  | cons op rest ih =>
      obtain ⟨l₁, hstep, hrest⟩ := Option.bind_eq_some_iff.mp h
      obtain ⟨first, hfirst, hcount⟩ := step?_queue hstep
      obtain ⟨others, hothers, hcount'⟩ := ih hrest
      refine ⟨first ++ others, ?_, ?_⟩
      · rw [retirements, filterMap_cons_eq, ← List.append_assoc, hfirst, List.append_assoc,
          List.append_assoc]
        exact congrArg _ hothers
      · rw [hcount', hcount, List.length_append, Nat.add_assoc]

/-- The counter of retirements counts those of a run. -/
theorem run?_retired {ops : List RosterOperation} (h : l.run? ops = some l') :
    l'.retired = l.retired + (retirements ops).length := by
  obtain ⟨moved, hmoved, hcount⟩ := run?_moved h
  have hlen := congrArg List.length hmoved
  simp only [List.length_append] at hlen
  simp only [retired, hcount]
  omega

/-- The dead records are the retirements of a run, less those that were ever reclaimed. -/
theorem run?_queue {ops : List RosterOperation} (h : run? ops {} = some l) :
    l.dead = (retirements ops).drop l.reclaimed ∧ l.retired = (retirements ops).length := by
  obtain ⟨moved, hmoved, hcount⟩ := run?_moved h
  have hmoved' : retirements ops = moved ++ l.dead := hmoved
  have hcount' : l.reclaimed = moved.length := hcount.trans (Nat.zero_add _)
  refine ⟨?_, ?_⟩
  · rw [hmoved', hcount', List.drop_left]
  · exact (run?_retired h).trans (Nat.zero_add _)

/-- A marker taken before the last retirements `recent` frees the records that were dead then,
and leaves `recent`. -/
theorem reclaim_retired {l₀ : RosterLists} {recent : List UInt32}
    (hdead : l.dead = l₀.dead ++ recent) (hreclaimed : l.reclaimed = l₀.reclaimed) :
    (l.reclaim l₀.retired).dead = recent ∧
      (l.reclaim l₀.retired).free = l.free ++ l₀.dead := by
  have heligible : l.eligible l₀.retired = l₀.dead.length := by
    rw [eligible, retired, hreclaimed, hdead, List.length_append]
    omega
  constructor
  · rw [reclaim, heligible, moveDead, hdead, List.drop_left]
  · rw [reclaim, heligible, moveDead, hdead, List.take_left]

end RosterLists

namespace Roster

variable {roster : Roster} {l l' : RosterLists}

theorem Refines.step (h : roster.Refines l) {op : RosterOperation} (hop : l.step? op = some l') :
    (roster.step op).Refines l' := by
  cases op with
  | allocate d i id =>
      rcases h.allocate d i id with ⟨hr, hl⟩ | ⟨t, roster', l'', hr, hl, h'⟩
      · simp only [RosterLists.step?, hl, Option.some.injEq] at hop
        simpa [Roster.step, hr, hop] using h
      · simp only [RosterLists.step?, hl, Option.some.injEq] at hop
        simpa [Roster.step, hr, hop] using h'
  | activate t =>
      obtain ⟨ht, hl⟩ := Option.ite_none_right_eq_some.mp hop
      obtain rfl := Option.some.inj hl
      exact h.activate ht
  | release t =>
      obtain ⟨ht, hl⟩ := Option.ite_none_right_eq_some.mp hop
      obtain rfl := Option.some.inj hl
      exact h.release ht
  | retire i =>
      obtain ⟨hi, hl⟩ := Option.ite_none_right_eq_some.mp hop
      obtain rfl := Option.some.inj hl
      exact h.retire hi
  | reclaim marker =>
      obtain rfl := Option.some.inj hop
      exact h.reclaim marker

theorem Refines.run (h : roster.Refines l) {ops : List RosterOperation}
    (hops : l.run? ops = some l') : (roster.run ops).Refines l' := by
  induction ops generalizing roster l with
  | nil =>
      obtain rfl := Option.some.inj hops
      exact h
  | cons op rest ih =>
      obtain ⟨l₁, hstep, hrest⟩ := Option.bind_eq_some_iff.mp hops
      exact ih (h.step hstep) hrest

/-- A ring is a list: the links lead from the head through the list and from the tail back, and
the length is that of the list. -/
def Threaded (roster : Roster) (ring : Ring) (l : List UInt32) : Prop :=
  roster.records.Follows (·.next) ring.head l ∧
    roster.records.Follows (·.prev) ring.tail l.reverse ∧ ring.len = l.length

/-- **The rings are lists.**  After every run from the empty roster, each ring is threaded through
its list in both directions; every record of the arena is in exactly one place, and none has the
index that marks a missing record; the next record allocated and the record found for a
descriptor are those of the lists. -/
theorem rings_are_lists (ops : List RosterOperation) (l : RosterLists)
    (h : RosterLists.run? ops {} = some l) :
    (Roster.run ops {}).Threaded (Roster.run ops {}).active l.active ∧
      (Roster.run ops {}).Threaded (Roster.run ops {}).dead l.dead ∧
      (Roster.run ops {}).Threaded (Roster.run ops {}).free l.free ∧
      (l.active ++ l.dead ++ l.free ++ l.outside).Nodup ∧
      (∀ i, i ∈ l.active ++ l.dead ++ l.free ++ l.outside ↔
        i.toNat < (Roster.run ops {}).records.size) ∧
      (∀ i ∈ l.active ++ l.dead ++ l.free ++ l.outside, i.toNat < Tag.maxRecords ∧ i ≠ noLink) ∧
      (∀ d f id, ((Roster.run ops {}).allocate d f id).map (·.1.index) = l.allocate.map (·.1)) ∧
      ∀ d, (Roster.run ops {}).find? d = l.active.find? ((Roster.run ops {}).isFor d) := by
  have hr : (Roster.run ops {}).Refines l := refines_empty.run h
  refine ⟨⟨hr.active.follows_next, hr.active.follows_prev, hr.active.len⟩,
    ⟨hr.dead.follows_next, hr.dead.follows_prev, hr.dead.len⟩,
    ⟨hr.free.follows_next, hr.free.follows_prev, hr.free.len⟩, hr.nodup, hr.mem_all, ?_, ?_,
    hr.find?_eq⟩
  · intro i hi
    exact ⟨Nat.lt_of_lt_of_le ((hr.mem_all i).mp hi) hr.size_le, hr.ne_noLink hi⟩
  · intro d f id
    rcases hr.allocate d f id with ⟨hnone, hl⟩ | ⟨t, roster', l', hsome, hl, -⟩
    · rw [hnone, hl]; rfl
    · rw [hsome, hl]; rfl

/-- Three descriptors, of which the facility refuses the second, the first is removed and
reclaimed, and its record is used again. -/
theorem rings_are_lists_reused :
    RosterLists.run?
        [.allocate (.socket 1) .both ⟨1⟩, .activate (.pack 0 0),
          .allocate (.socket 2) .readable ⟨2⟩, .release (.pack 1 0),
          .allocate (.file 3) .writable ⟨3⟩, .activate (.pack 1 1),
          .retire 0, .reclaim 1, .allocate (.socket 4) .both ⟨4⟩] {} =
      some { active := [1], outside := [0], reclaimed := 1 } ∧
    (Roster.run
        [.allocate (.socket 1) .both ⟨1⟩, .activate (.pack 0 0),
          .allocate (.socket 2) .readable ⟨2⟩, .release (.pack 1 0),
          .allocate (.file 3) .writable ⟨3⟩, .activate (.pack 1 1),
          .retire 0, .reclaim 1, .allocate (.socket 4) .both ⟨4⟩] {}).find? (.socket 3) =
      some 1 := by
  have hops : RosterLists.run?
        [.allocate (.socket 1) .both ⟨1⟩, .activate (.pack 0 0),
          .allocate (.socket 2) .readable ⟨2⟩, .release (.pack 1 0),
          .allocate (.file 3) .writable ⟨3⟩, .activate (.pack 1 1),
          .retire 0, .reclaim 1, .allocate (.socket 4) .both ⟨4⟩] {} =
      some { active := [1], outside := [0], reclaimed := 1 } := by decide
  refine ⟨hops, ?_⟩
  rw [(rings_are_lists _ _ hops).2.2.2.2.2.2.2]
  decide

end Roster

end Readiness
