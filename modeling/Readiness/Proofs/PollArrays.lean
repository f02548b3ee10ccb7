import Readiness.Facility.Poll

/-! # The arrays of a wait with `poll`

A wait builds two arrays from its table, and reads them side by side after the call has written into
one of them, which has the waker's entry in front.

* **Aligned** (`Poll.Arrays.slots_ofTable`, `Poll.Arrays.tags_ofTable`).  Behind the waker, the
  entries of the one array and the tags of the other are those of the table, in its order.
* **Collected** (`Poll.Arrays.collect_answer`).  So every result comes with the tag of its own entry,
  whatever the call has written, and the waker's result is not taken for one of theirs.
* **Fused.**  A round may be thought of as pairing the table itself with the results
  (`Poll.found`, `Poll.conclude`), which is what everything else is said of (`Poll.round_eq`). -/

namespace Readiness

namespace Poll

variable {table : List PollEntry} {results : List UInt16} {b : NativeBuffer}
  {timeout : Option Duration} {h : Host Poll}

/-- The table as the kernel gets it. -/
def shown (table : List PollEntry) : List (Int32 × UInt16) :=
  table.map fun entry => (entry.fd, requested entry.interests)

/-- The events of those entries of a snapshot that have results. -/
def found (snapshot : List PollEntry) (results : List UInt16) : List NativeEvent :=
  ((snapshot.zip results).filter fun pair => pair.2 ≠ 0).map fun pair =>
    ⟨pair.1.tag, readiness pair.2⟩

/-- The end of a round, after the call: drain the waker and collect what was found. -/
def conclude (snapshot : List PollEntry) (b : NativeBuffer) (timeout : Option Duration)
    (outcome : Outcome SystemError (List UInt16)) (h : Host Poll) :
    (Round × NativeBuffer) × Host Poll :=
  match outcome with
  | .halted cause => ((.over (.halted cause), b), h)
  | .failed cause => ((.over (.failed cause), b), h)
  | .done results =>
    let woken := h.facility.woken
    let b := b.extend ((found snapshot results).take b.capacity)
    (((if goesOn woken b timeout then .again else .over (.done ())), b),
      { h with facility := h.facility.drain })

theorem drain_of_quiet {p : Poll} (hquiet : p.woken = false) : p.drain = p := by
  obtain ⟨table, wakeups, closed⟩ := p
  have hzero : wakeups = 0 := by simpa [woken] using hquiet
  rw [hzero]
  rfl

namespace Arrays

/-- The entry for a descriptor, before the call. -/
def slotOf (entry : PollEntry) : PollSlot where
  fd := some entry.fd
  events := requested entry.interests

theorem foldl_push (arrays : Arrays) (table : List PollEntry) :
    table.foldl push arrays =
      ⟨arrays.slots ++ table.map slotOf, arrays.tags ++ table.map (·.tag)⟩ := by
  induction table generalizing arrays with
  | nil => simp
  | cons entry table ih =>
      rw [List.foldl_cons, ih]
      simp [push, slotOf]

/-- **Aligned.**  The entry behind the waker at a place is that of the table at the same place. -/
theorem slots_ofTable (table : List PollEntry) :
    (ofTable table).slots = { fd := none, events := inBit } :: table.map slotOf :=
  congrArg slots (foldl_push waker table)

/-- **Aligned.**  The tag at a place is that of the table at the same place. -/
theorem tags_ofTable (table : List PollEntry) : (ofTable table).tags = table.map (·.tag) :=
  congrArg tags (foldl_push waker table)

theorem asked_ofTable (table : List PollEntry) : (ofTable table).asked = shown table := by
  rw [asked, slots_ofTable, List.filterMap_cons, List.filterMap_map, shown]
  exact congrFun (List.filterMap_eq_map ..) table

theorem write_nil (slots : List PollSlot) : write [] slots = slots := by cases slots <;> rfl

/-- Results that are written into the entries of the table are those of its own entries. -/
theorem zip_write (table : List PollEntry) (results : List UInt16) :
    (((write results (table.map slotOf)).zip (table.map (·.tag))).filter fun pair =>
        pair.1.result ≠ 0).map (fun pair => (⟨pair.2, readiness pair.1.result⟩ : NativeEvent)) =
      found table results := by
  induction table generalizing results with
  | nil => cases results <;> rfl
  | cons entry table ih =>
      cases results with
      | nil =>
          -- nothing is written, so no entry has a result
          have hnone : ∀ pair ∈ ((entry :: table).map slotOf).zip ((entry :: table).map (·.tag)),
              ¬ pair.1.result ≠ 0 := by
            intro pair hpair
            obtain ⟨e, -, he⟩ := List.mem_map.mp (List.of_mem_zip hpair).1
            exact not_not_intro (he ▸ rfl)
          rw [write_nil, List.filter_eq_nil_iff.mpr (by simpa using hnone), found,
            List.zip_nil_right]
          rfl
      | cons result results =>
          have hhead : found (entry :: table) (result :: results) =
              (if result ≠ 0 then [⟨entry.tag, readiness result⟩] else []) ++
                found table results := by
            by_cases hresult : result = 0 <;> simp [found, hresult]
          rw [hhead, ← ih results]
          by_cases hresult : result = 0 <;> simp [write, hresult]

/-- **Collected.**  After the call, the waker has a result if it was readable, and what is collected
from the other entries is what is found in the table. -/
theorem collect_answer (table : List PollEntry) (results : List UInt16) (woken : Bool) (room : Nat) :
    ((ofTable table).answer woken results).collect room =
      (woken, (found table results).take room) := by
  have hwaker : [({ fd := none, events := inBit, result := if woken then inBit else 0 } :
      PollSlot)].any (·.result ≠ 0) = woken := by
    cases woken <;> rfl
  unfold collect
  rw [answer, slots_ofTable, tags_ofTable, write, List.splitAt_eq]
  refine Prod.ext hwaker ?_
  rw [← zip_write, ← List.map_take]
  rfl

end Arrays

/-- The arrays are the table. -/
theorem finish_ofTable (table : List PollEntry) (b : NativeBuffer) (timeout : Option Duration) :
    finish (.ofTable table) b timeout = conclude table b timeout := by
  funext outcome h
  cases outcome with
  | halted _ | failed _ => rfl
  | done results =>
      simp only [finish, conclude, Arrays.collect_answer]
      cases hwoken : h.facility.woken with
      | true => rfl
      | false => rw [if_neg Bool.false_ne_true, drain_of_quiet hwoken]

/-- **A round** shows its table and pairs it with the results. -/
theorem round_eq (b : NativeBuffer) (timeout : Option Duration) (h : Host Poll) :
    round b timeout h =
      if h.facility.closed then (.returned (.over (.failed .badDescriptor), b.clear), h)
      else h.systemWithin (Kernel.poll (shown h.facility.table) (timeoutMillis timeout))
        (conclude h.facility.table b.clear timeout) := by
  unfold round
  dsimp only
  rw [Arrays.asked_ofTable, finish_ofTable]

end Poll

end Readiness
