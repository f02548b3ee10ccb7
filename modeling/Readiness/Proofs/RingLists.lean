import Mathlib.Data.List.Induction
import Mathlib.Data.List.Nodup
import Mathlib.Data.List.Perm.Subperm
import Readiness.Roster.Ring

/-! # Rings as lists

A ring is meant to be a list of records.  `Arena.Linked p l n` says that the links of the records
in `l` thread them in this order, between a record `p` before and a record `n` behind the list,
and `Ring.Holds` that the ends and the length of a ring fit a list threaded in this way.

* **One equation for each operation.**  `Ring.push`, `Ring.erase`, `Ring.pop?` and `Ring.append`
  act on the list as their names say (`Ring.Holds.push` and so on).
* **Frames.**  No operation touches a record outside the lists it works on, so rings over disjoint
  lists do not disturb each other (`Ring.Holds.congr`).  Apart from the links no operation changes
  a record at all (`Ring.bare?_push` and so on).
* **Walks.**  Following the links from the ends gives the list and its reverse.  `Arena.Follows`
  says so without a bound on the steps, and the bounded walks agree with it
  (`Arena.Follows.walk_eq`). -/

namespace Readiness

attribute [ext] Record

namespace Arena

/-- The links of the record at an index. -/
def links? (records : Arena) (i : UInt32) : Option (UInt32 × UInt32) :=
  records[i.toNat]?.map fun r => (r.prev, r.next)

/-- The record at an index without its links. -/
def bare? (records : Arena) (i : UInt32) : Option Record :=
  records[i.toNat]?.map fun r => { r with prev := noLink, next := noLink }

variable {records records' : Arena} {i j n p : UInt32} {l l₁ l₂ : List UInt32}

theorem getElem?_modify_toNat (records : Arena) (i j : UInt32) (f : Record → Record) :
    (records.modify i.toNat f)[j.toNat]? =
      if i = j then records[j.toNat]?.map f else records[j.toNat]? := by
  rw [Array.getElem?_modify]
  simp only [UInt32.toNat_inj]

@[simp] theorem links?_setNext (records : Arena) (i n j : UInt32) :
    (records.setNext i n).links? j =
      if i = j then (records.links? j).map fun q => (q.1, n) else records.links? j := by
  simp only [links?, setNext, getElem?_modify_toNat]
  split <;> simp [Function.comp_def]

@[simp] theorem links?_setPrev (records : Arena) (i p j : UInt32) :
    (records.setPrev i p).links? j =
      if i = j then (records.links? j).map fun q => (p, q.2) else records.links? j := by
  simp only [links?, setPrev, getElem?_modify_toNat]
  split <;> simp [Function.comp_def]

@[simp] theorem links?_setLinks (records : Arena) (i p n j : UInt32) :
    (records.setLinks i p n).links? j =
      if i = j then (records.links? j).map fun _ => (p, n) else records.links? j := by
  simp only [links?, setLinks, getElem?_modify_toNat]
  split <;> simp [Function.comp_def]

@[simp] theorem bare?_setNext (records : Arena) (i n j : UInt32) :
    (records.setNext i n).bare? j = records.bare? j := by
  simp only [bare?, setNext, getElem?_modify_toNat]
  split <;> simp [Function.comp_def]

@[simp] theorem bare?_setPrev (records : Arena) (i p j : UInt32) :
    (records.setPrev i p).bare? j = records.bare? j := by
  simp only [bare?, setPrev, getElem?_modify_toNat]
  split <;> simp [Function.comp_def]

@[simp] theorem bare?_setLinks (records : Arena) (i p n j : UInt32) :
    (records.setLinks i p n).bare? j = records.bare? j := by
  simp only [bare?, setLinks, getElem?_modify_toNat]
  split <;> simp [Function.comp_def]

@[simp] theorem size_setNext (records : Arena) (i n : UInt32) :
    (records.setNext i n).size = records.size := by simp [setNext]

@[simp] theorem size_setPrev (records : Arena) (i p : UInt32) :
    (records.setPrev i p).size = records.size := by simp [setPrev]

@[simp] theorem size_setLinks (records : Arena) (i p n : UInt32) :
    (records.setLinks i p n).size = records.size := by simp [setLinks]

theorem links?_isSome_iff : (records.links? i).isSome ↔ i.toNat < records.size := by
  simp [links?]

/-- A record with the same contents and the same links is the same record. -/
theorem getElem?_eq_of_links (hlinks : records'.links? i = records.links? i)
    (hbare : records'.bare? i = records.bare? i) : records'[i.toNat]? = records[i.toNat]? := by
  unfold links? at hlinks
  unfold bare? at hbare
  cases hr : records[i.toNat]? with
  | none => simpa [hr] using hlinks
  | some r =>
      cases hr' : records'[i.toNat]? with
      | none => simp [hr, hr'] at hlinks
      | some r' =>
          simp only [hr, hr', Option.map_some, Option.some.injEq, Prod.mk.injEq,
            Record.mk.injEq] at hlinks hbare
          obtain ⟨hprev, hnext⟩ := hlinks
          obtain ⟨hd, hi, hid, hready, hgeneration, -⟩ := hbare
          exact congrArg some (Record.ext hd hi hid hready hgeneration hprev hnext)

/-! ### Threaded lists -/

/-- The links thread the records in `l`, from `p` before the first one to `n` behind the last. -/
def Linked (records : Arena) : UInt32 → List UInt32 → UInt32 → Prop
  | _, [], _ => True
  | p, i :: rest, n => records.links? i = some (p, rest.headD n) ∧ Linked records i rest n

/-- The links of the records in `l` are all that counts. -/
theorem Linked.congr (h : records.Linked p l n)
    (same : ∀ i ∈ l, records'.links? i = records.links? i) : records'.Linked p l n := by
  induction l generalizing p with
  | nil => trivial
  | cons i rest ih =>
      refine ⟨(same i List.mem_cons_self).trans h.1, ih h.2 ?_⟩
      exact fun j hj => same j (List.mem_cons_of_mem i hj)

theorem headD_append (l₁ l₂ : List UInt32) (n : UInt32) :
    (l₁ ++ l₂).headD n = l₁.headD (l₂.headD n) := by
  cases l₁ <;> rfl

theorem getLastD_append (l₁ l₂ : List UInt32) (p : UInt32) :
    (l₁ ++ l₂).getLastD p = l₂.getLastD (l₁.getLastD p) := by
  induction l₁ generalizing p with
  | nil => rfl
  | cons i rest ih => rw [List.cons_append, List.getLastD_cons, List.getLastD_cons, ih]

theorem last_notMem (h : (l ++ [i]).Nodup) : i ∉ l :=
  fun hi => (List.nodup_append.mp h).2.2 i hi i List.mem_cons_self rfl

theorem linked_append : records.Linked p (l₁ ++ l₂) n ↔
    records.Linked p l₁ (l₂.headD n) ∧ records.Linked (l₁.getLastD p) l₂ n := by
  induction l₁ generalizing p with
  | nil => simp [Linked]
  | cons i rest ih =>
      rw [List.cons_append, Linked, Linked, ih, headD_append, List.getLastD_cons, and_assoc]

theorem linked_concat : records.Linked p (l ++ [i]) n ↔
    records.Linked p l i ∧ records.links? i = some (l.getLastD p, n) := by
  rw [linked_append]
  simp [Linked]

/-- Every threaded record is in the arena. -/
theorem Linked.lt_size (h : records.Linked p l n) (hi : i ∈ l) : i.toNat < records.size := by
  induction l generalizing p with
  | nil => cases hi
  | cons j rest ih =>
      rcases List.mem_cons.mp hi with rfl | hi
      · exact links?_isSome_iff.mp (by simp [h.1])
      · exact ih h.2 hi

/-- What stands behind the list is told by the last link alone. -/
theorem Linked.setNext_last (h : records.Linked p (l ++ [i]) j) (hi : i ∉ l) (n : UInt32) :
    (records.setNext i n).Linked p (l ++ [i]) n := by
  rw [linked_concat] at h ⊢
  refine ⟨h.1.congr fun k hk => ?_, by simp [h.2]⟩
  have : i ≠ k := fun e => hi (e ▸ hk)
  simp [this]

/-- What stands before the list is told by the first link alone. -/
theorem Linked.setPrev_head (h : records.Linked j (i :: l) n) (hi : i ∉ l) (p : UInt32) :
    (records.setPrev i p).Linked p (i :: l) n := by
  refine ⟨by simp [h.1], h.2.congr fun k hk => ?_⟩
  have : i ≠ k := fun e => hi (e ▸ hk)
  simp [this]

/-! ### Walks -/

/-- Following `link` from `i` on meets the records in `l` one after the other and then ends. -/
def Follows (records : Arena) (link : Record → UInt32) : UInt32 → List UInt32 → Prop
  | i, [] => i = noLink
  | i, j :: rest =>
    i = j ∧ i ≠ noLink ∧ ∃ r, records[i.toNat]? = some r ∧ Follows records link (link r) rest

/-- A walk that is given enough steps meets all records and ends for want of a link. -/
theorem Follows.walk_eq {link : Record → UInt32} (h : records.Follows link i l) {fuel : Nat}
    (enough : l.length ≤ fuel) : records.walk link fuel i = l := by
  induction l generalizing i fuel with
  | nil =>
      cases fuel with
      | zero => rfl
      | succ fuel => simp [walk, show i = noLink from h]
  | cons j rest ih =>
      obtain ⟨rfl, hi, r, hr, hrest⟩ := h
      cases fuel with
      | zero => simp at enough
      | succ fuel =>
          simp only [walk, hi, if_false, hr]
          rw [ih hrest (by simpa using enough)]

theorem links?_eq_some_iff :
    records.links? i = some (p, n) ↔ ∃ r, records[i.toNat]? = some r ∧ r.prev = p ∧ r.next = n := by
  simp [links?]

theorem Linked.follows_next (h : records.Linked p l noLink) (hl : noLink ∉ l) :
    records.Follows (·.next) (l.headD noLink) l := by
  induction l generalizing p with
  | nil => rfl
  | cons i rest ih =>
      obtain ⟨r, hr, -, hn⟩ := links?_eq_some_iff.mp h.1
      refine ⟨rfl, fun e => hl (e ▸ List.mem_cons_self), r, hr, ?_⟩
      show records.Follows _ r.next rest
      rw [hn]
      exact ih h.2 fun hmem => hl (List.mem_cons_of_mem i hmem)

theorem Linked.follows_prev (h : records.Linked noLink l n) (hl : noLink ∉ l) :
    records.Follows (·.prev) (l.getLastD noLink) l.reverse := by
  induction l using List.reverseRecOn generalizing n with
  | nil => rfl
  | append_singleton rest i ih =>
      rw [linked_concat] at h
      obtain ⟨r, hr, hp, -⟩ := links?_eq_some_iff.mp h.2
      rw [List.reverse_append, List.reverse_singleton, List.singleton_append]
      refine ⟨by simp, fun e => hl ?_, r, by simpa using hr, ?_⟩
      · rw [← e]; simp
      · show records.Follows _ r.prev rest.reverse
        rw [hp]
        exact ih h.1 fun hmem => hl (List.mem_append_left [i] hmem)

end Arena

namespace Ring

/-- The ring is the list `l`: its ends and its length fit, and the links thread `l`. -/
structure Holds (ring : Ring) (records : Arena) (l : List UInt32) : Prop where
  head : ring.head = l.headD noLink
  tail : ring.tail = l.getLastD noLink
  len : ring.len = l.length
  linked : records.Linked noLink l noLink
  nodup : l.Nodup
  noLink_notMem : noLink ∉ l

variable {ring other : Ring} {records records' : Arena} {i j : UInt32} {l l₁ l₂ : List UInt32}

theorem holds_nil (records : Arena) : Holds {} records [] :=
  ⟨rfl, rfl, rfl, trivial, List.nodup_nil, List.not_mem_nil⟩

/-- Other records may change as they like. -/
theorem Holds.congr (h : Holds ring records l)
    (same : ∀ i ∈ l, records'.links? i = records.links? i) : Holds ring records' l :=
  { h with linked := h.linked.congr same }

theorem Holds.lt_size (h : Holds ring records l) (hi : i ∈ l) : i.toNat < records.size :=
  h.linked.lt_size hi

/-! ### Following the links -/

theorem Holds.follows_next (h : Holds ring records l) :
    records.Follows (·.next) ring.head l := by
  rw [h.head]
  exact h.linked.follows_next h.noLink_notMem

theorem Holds.follows_prev (h : Holds ring records l) :
    records.Follows (·.prev) ring.tail l.reverse := by
  rw [h.tail]
  exact h.linked.follows_prev h.noLink_notMem

/-- A list without repetitions fits into the arena. -/
theorem Holds.length_le (h : Holds ring records l) : l.length ≤ records.size := by
  have hnodup : (l.map UInt32.toNat).Nodup :=
    h.nodup.map fun _ _ e => UInt32.toNat_inj.mp e
  have hsub : l.map UInt32.toNat ⊆ List.range records.size := by
    intro k hk
    obtain ⟨i, hi, rfl⟩ := List.mem_map.mp hk
    exact List.mem_range.mpr (h.lt_size hi)
  simpa using (List.subperm_of_subset hnodup hsub).length_le

theorem Holds.forward_eq (h : Holds ring records l) : ring.forward records = l :=
  h.follows_next.walk_eq h.length_le

theorem Holds.backward_eq (h : Holds ring records l) : ring.backward records = l.reverse :=
  h.follows_prev.walk_eq (by simpa using h.length_le)

/-! ### Adding at the tail -/

theorem Holds.push (h : Holds ring records l) (hi : i ∉ l) (hne : i ≠ noLink)
    (hlt : i.toNat < records.size) :
    Holds (ring.push records i).1 (ring.push records i).2 (l ++ [i]) := by
  obtain ⟨q, hq⟩ := Option.isSome_iff_exists.mp (Arena.links?_isSome_iff.mpr hlt)
  have hnodup : (l ++ [i]).Nodup := by
    rw [List.nodup_append_comm]
    exact List.nodup_cons.mpr ⟨hi, h.nodup⟩
  have hmem : noLink ∉ l ++ [i] := by
    simpa using ⟨h.noLink_notMem, hne.symm⟩
  have htail := h.tail
  rcases List.eq_nil_or_concat l with rfl | ⟨rest, k, rfl⟩
  · refine ⟨?_, ?_, ?_, ?_, hnodup, hmem⟩ <;>
      simp_all [Ring.push, h.len, Arena.Linked]
  · rw [List.concat_eq_append] at *
    have hk : ring.tail = k := by rw [htail]; simp
    have hkne : k ≠ noLink := fun e => h.noLink_notMem (e ▸ by simp)
    have hki : k ≠ i := fun e => hi (e ▸ by simp)
    have hkrest : k ∉ rest := Arena.last_notMem h.nodup
    -- the new record is written first, which no record of the list notices
    have hlinked : (records.setLinks i k noLink).Linked noLink (rest ++ [k]) noLink := by
      refine h.linked.congr fun m hm => ?_
      have : i ≠ m := fun e => hi (e ▸ hm)
      simp [this]
    have hpush : ring.push records i = ({ ring with tail := i, len := ring.len + 1 },
        (records.setLinks i k noLink).setNext k i) := by
      simp [Ring.push, hk, hkne]
    rw [hpush]
    refine ⟨?_, by simp, by simp [h.len], ?_, hnodup, hmem⟩
    · rw [show Ring.head _ = ring.head from rfl, h.head]
      cases rest <;> simp
    · rw [Arena.linked_concat]
      refine ⟨hlinked.setNext_last hkrest i, ?_⟩
      simp [hki, hq]

/-- Adding a record changes no others but the tail. -/
theorem Holds.links?_push (h : Holds ring records l) (hij : i ≠ j) (hj : j ∉ l) :
    (ring.push records i).2.links? j = records.links? j := by
  unfold Ring.push
  split
  · simp [hij]
  · next hne =>
    have htail : ring.tail ≠ j := by
      rintro rfl
      rcases List.eq_nil_or_concat l with rfl | ⟨rest, k, rfl⟩
      · exact hne h.tail
      · exact hj (by rw [h.tail]; simp)
    simp [hij, htail]

@[simp] theorem bare?_push (ring : Ring) (records : Arena) (i j : UInt32) :
    (ring.push records i).2.bare? j = records.bare? j := by
  unfold Ring.push
  split <;> simp

@[simp] theorem size_push (ring : Ring) (records : Arena) (i : UInt32) :
    (ring.push records i).2.size = records.size := by
  unfold Ring.push
  split <;> simp

/-! ### Taking out -/

/-- Taking a record out, told by its links. -/
theorem erase_eq {p n : UInt32} (hi : records.links? i = some (p, n)) :
    ring.erase records i =
      ({ head := if p = noLink then n else ring.head
         tail := if n = noLink then p else ring.tail
         len := ring.len - 1 },
        ((if n = noLink then (if p = noLink then records else records.setNext p n)
          else (if p = noLink then records else records.setNext p n).setPrev n p)).setLinks i
            noLink noLink) := by
  obtain ⟨r, hr, rfl, rfl⟩ := Arena.links?_eq_some_iff.mp hi
  simp only [Ring.erase, hr]
  split <;> split <;> rfl

theorem Holds.erase (h : Holds ring records (l₁ ++ i :: l₂)) :
    Holds (ring.erase records i).1 (ring.erase records i).2 (l₁ ++ l₂) := by
  obtain ⟨hl₁, hi, hl₂⟩ := Arena.linked_append.mp h.linked
  have hnodup := h.nodup
  rw [List.nodup_middle, List.nodup_cons, List.mem_append, not_or] at hnodup
  obtain ⟨⟨hi₁, hi₂⟩, hnodup⟩ := hnodup
  have hmem : noLink ∉ l₁ ++ l₂ := fun hm => h.noLink_notMem (by
    rw [List.mem_append, List.mem_cons]
    exact (List.mem_append.mp hm).imp_right Or.inr)
  have hlen : ring.len - 1 = (l₁ ++ l₂).length := by
    rw [h.len, List.length_append, List.length_append, List.length_cons]
    omega
  have hhead := h.head
  have htail := h.tail
  rw [erase_eq hi]
  -- the record may stand at either end of the ring, at both, or between two others
  rcases List.eq_nil_or_concat l₁ with rfl | ⟨rest, k, rfl⟩
  · cases l₂ with
    | nil => exact ⟨by simp, by simp, by simpa using hlen, trivial, hnodup, hmem⟩
    | cons m rest =>
        have hm : m ≠ noLink := fun e => hmem (e ▸ by simp)
        have hmrest : m ∉ rest := (List.nodup_cons.mp hnodup).1
        refine ⟨by simp, ?_, hlen, ?_, hnodup, hmem⟩
        · simpa [hm] using htail
        · simp only [List.getLastD_nil, List.headD_cons, hm, if_true, if_false, List.nil_append]
          refine (hl₂.setPrev_head hmrest noLink).congr fun q hq => ?_
          have : i ≠ q := fun e => hi₂ (e ▸ hq)
          simp [this]
  · rw [List.concat_eq_append] at *
    have hk : k ≠ noLink := fun e => hmem (e ▸ by simp)
    have hkrest : k ∉ rest := Arena.last_notMem (List.nodup_append.mp hnodup).1
    have hlast : (rest ++ [k]).getLastD noLink = k := by simp
    cases l₂ with
    | nil =>
        refine ⟨?_, by simp, hlen, ?_, hnodup, hmem⟩
        · rw [hlast]
          simp only [hk, if_false, hhead, List.append_nil]
          cases rest <;> simp
        · simp only [hlast, hk, List.headD_nil, if_true, if_false, List.append_nil]
          refine (hl₁.setNext_last hkrest noLink).congr fun q hq => ?_
          have : i ≠ q := fun e => hi₁ (e ▸ hq)
          simp [this]
    | cons m others =>
        have hm : m ≠ noLink := fun e => hmem (e ▸ by simp)
        obtain ⟨-, hnodup₂, hdisj⟩ := List.nodup_append.mp hnodup
        have hmothers : m ∉ others := (List.nodup_cons.mp hnodup₂).1
        refine ⟨?_, ?_, hlen, ?_, hnodup, hmem⟩
        · rw [hlast]
          simp only [hk, if_false, hhead]
          cases rest <;> simp
        · simp only [List.headD_cons, hm, if_false, htail]
          simp
        · simp only [hlast, hk, List.headD_cons, hm, if_false]
          rw [Arena.linked_append]
          constructor
          · refine (hl₁.setNext_last hkrest m).congr fun q hq => ?_
            have hiq : i ≠ q := fun e => hi₁ (e ▸ hq)
            have hmq : m ≠ q := fun e => hdisj q hq m List.mem_cons_self e.symm
            simp [hiq, hmq]
          · rw [hlast]
            refine (hl₂.setPrev_head hmothers k).congr fun q hq => ?_
            have hiq : i ≠ q := fun e => hi₂ (e ▸ hq)
            have hkq : k ≠ q := fun e => hdisj k (by simp) q hq e
            simp [hiq, hkq]

/-- Taking a record out changes only records of the ring. -/
theorem Holds.links?_erase (h : Holds ring records l) (hi : i ∈ l) (hj : j ∉ l) :
    (ring.erase records i).2.links? j = records.links? j := by
  obtain ⟨l₁, l₂, rfl⟩ := List.append_of_mem hi
  obtain ⟨-, hi', -⟩ := Arena.linked_append.mp h.linked
  have hij : i ≠ j := fun e => hj (e ▸ hi)
  have hnext : l₂.headD noLink = noLink ∨ l₂.headD noLink ≠ j := by
    cases l₂ with
    | nil => exact .inl rfl
    | cons m rest => exact .inr fun e => hj (by simp_all)
  have hprev : l₁.getLastD noLink = noLink ∨ l₁.getLastD noLink ≠ j := by
    rcases List.eq_nil_or_concat l₁ with rfl | ⟨rest, k, rfl⟩
    · exact .inl rfl
    · exact .inr fun e => hj (by simp_all)
  rw [erase_eq hi']
  generalize l₂.headD noLink = n at hnext ⊢
  generalize l₁.getLastD noLink = p at hprev ⊢
  have hset : ∀ a : Arena, (a.setLinks i noLink noLink).links? j = a.links? j := by simp [hij]
  have hnextSet : (if p = noLink then records else records.setNext p n).links? j =
      records.links? j := by
    split
    · rfl
    · next hp => simp [hprev.resolve_left hp]
  rw [hset]
  split
  · exact hnextSet
  · next hn => simpa [hnext.resolve_left hn] using hnextSet

@[simp] theorem bare?_erase (ring : Ring) (records : Arena) (i j : UInt32) :
    (ring.erase records i).2.bare? j = records.bare? j := by
  unfold Ring.erase
  split
  · rfl
  · dsimp only
    split <;> split <;> simp

@[simp] theorem size_erase (ring : Ring) (records : Arena) (i : UInt32) :
    (ring.erase records i).2.size = records.size := by
  unfold Ring.erase
  split
  · rfl
  · dsimp only
    split <;> split <;> simp

/-- The record at the head is taken, if there is one. -/
theorem Holds.pop?_nil (h : Holds ring records []) : ring.pop? records = none := by
  simp [Ring.pop?, h.head]

theorem Holds.pop?_cons (h : Holds ring records (i :: l)) :
    ring.pop? records = some (i, ring.erase records i) := by
  have hne : i ≠ noLink := fun e => h.noLink_notMem (e ▸ List.mem_cons_self)
  have hhead : ring.head = i := h.head
  simp [Ring.pop?, hhead, hne]

theorem Holds.erase_head (h : Holds ring records (i :: l)) :
    Holds (ring.erase records i).1 (ring.erase records i).2 l := by
  have h' : Holds ring records ([] ++ i :: l) := h
  exact h'.erase

/-! ### Splicing -/

theorem Holds.append (h : Holds ring records l₁) (hother : Holds other records l₂)
    (hdisj : ∀ i ∈ l₁, i ∉ l₂) :
    Holds (ring.append other records).1 (ring.append other records).2 (l₁ ++ l₂) := by
  have hnodup : (l₁ ++ l₂).Nodup :=
    List.nodup_append.mpr ⟨h.nodup, hother.nodup, fun i hi j hj e => hdisj i hi (e ▸ hj)⟩
  have hmem : noLink ∉ l₁ ++ l₂ := by
    simpa using ⟨h.noLink_notMem, hother.noLink_notMem⟩
  cases l₂ with
  | nil => simpa [Ring.append, hother.head] using h
  | cons m others =>
      have hm : m ≠ noLink := fun e => hmem (e ▸ by simp)
      have hmhead : other.head = m := hother.head
      rcases List.eq_nil_or_concat l₁ with rfl | ⟨rest, k, rfl⟩
      · have htail : ring.tail = noLink := h.tail
        have hspliced : ring.append other records =
            ({ head := m, tail := other.tail, len := ring.len + other.len }, records) := by
          simp [Ring.append, hmhead, hm, htail]
        rw [hspliced]
        exact ⟨by simp, hother.tail, by simp [h.len, hother.len], hother.linked, hnodup, hmem⟩
      · rw [List.concat_eq_append] at *
        have hktail : ring.tail = k := by rw [h.tail]; simp
        have hk : k ≠ noLink := fun e => hmem (e ▸ by simp)
        have hkrest : k ∉ rest := Arena.last_notMem h.nodup
        have hmothers : m ∉ others := (List.nodup_cons.mp hother.nodup).1
        have hspliced : ring.append other records =
            ({ head := ring.head, tail := other.tail, len := ring.len + other.len },
              (records.setNext k m).setPrev m k) := by
          simp [Ring.append, hmhead, hm, hktail, hk]
        rw [hspliced]
        have hlen : ring.len + other.len = (rest ++ [k] ++ m :: others).length := by
          rw [h.len, hother.len, ← List.length_append]
        refine ⟨?_, ?_, hlen, ?_, hnodup, hmem⟩
        · rw [show Ring.head _ = ring.head from rfl, h.head]
          cases rest <;> simp
        · rw [show Ring.tail _ = other.tail from rfl, hother.tail, Arena.getLastD_append,
            List.getLastD_cons, List.getLastD_cons]
        · rw [Arena.linked_append]
          constructor
          · refine (h.linked.setNext_last hkrest m).congr fun q hq => ?_
            have hmq : m ≠ q := fun e => hdisj q hq (e ▸ List.mem_cons_self)
            simp [hmq]
          · have hlast : (rest ++ [k]).getLastD noLink = k := by simp
            rw [hlast]
            have hframe : (records.setNext k m).Linked noLink (m :: others) noLink := by
              refine hother.linked.congr fun q hq => ?_
              have hkq : k ≠ q := fun e => hdisj k (by simp) (e ▸ hq)
              simp [hkq]
            exact hframe.setPrev_head hmothers k

/-- Splicing changes only the two records between which the lists meet. -/
theorem Holds.links?_append (h : Holds ring records l₁) (hother : Holds other records l₂)
    (hj₁ : j ∉ l₁) (hj₂ : j ∉ l₂) : (ring.append other records).2.links? j = records.links? j := by
  unfold Ring.append
  split
  · rfl
  · next hhead =>
    split
    · rfl
    · next htail =>
      have hne : other.head ≠ j := by
        rintro rfl
        cases l₂ with
        | nil => exact hhead hother.head
        | cons m others => exact hj₂ (by rw [hother.head]; simp)
      have hne' : ring.tail ≠ j := by
        rintro rfl
        rcases List.eq_nil_or_concat l₁ with rfl | ⟨rest, k, rfl⟩
        · exact htail h.tail
        · exact hj₁ (by rw [h.tail]; simp)
      simp [hne, hne']

@[simp] theorem bare?_append (ring other : Ring) (records : Arena) (j : UInt32) :
    (ring.append other records).2.bare? j = records.bare? j := by
  unfold Ring.append
  split
  · rfl
  · split <;> simp

@[simp] theorem size_append (ring other : Ring) (records : Arena) :
    (ring.append other records).2.size = records.size := by
  unfold Ring.append
  split
  · rfl
  · split <;> simp

end Ring

end Readiness
