import Mathlib.Algebra.Group.Nat.Defs
import Readiness.Facility.Epoll
import Readiness.Facility.Kqueue
import Readiness.Proofs.TagPeriods

/-! # Tags as payloads

A tag leaves the program as a payload of a native structure, and a payload comes back as a tag.

* **Packing.**  A tag is nothing but an index and a generation, each a word of 32 bits
  (`Tag.bijective_pack`).
* **Pointers.**  `kqueue` has a pointer for a payload.  A tag survives that if and only if its
  number fits into a pointer (`Tag.ofPointer_toPointer_iff`), and pointers here have 64 bits.
* **Native structures** (`Epoll.RawEvent`, `Kqueue.RawEvent`).  The same structure is filled for a
  registration and read for an event; the kernel may change all of it but the payload.  What the
  facilities hand over and deliver is what these structures stand for
  (`Epoll.watch_eq_newEvent`, `Kqueue.register_eq_newEvent`).
* **Records.**  A payload leads to a record if and only if it is the packing of the index of that
  record and of the generation in which the record is (`Roster.locate?_eq_some_iff`). -/

namespace Readiness

/-! ### Packing -/

namespace Tag

variable {t : Tag}

theorem pack_eq_iff {index generation : UInt32} :
    pack index generation = t ↔ t.index = index ∧ t.generation = generation := by
  rw [ext_iff_parts, index_pack, generation_pack, eq_comm, eq_comm (a := generation)]

/-- An index and a generation make a tag in one way, and every tag is made so. -/
theorem bijective_pack : Function.Bijective fun p : UInt32 × UInt32 => pack p.1 p.2 := by
  refine Function.bijective_iff_has_inverse.mpr ⟨fun t => (t.index, t.generation), ?_, ?_⟩
  · rintro ⟨index, generation⟩
    exact Prod.ext (index_pack ..) (generation_pack ..)
  · exact pack_index_generation

end Tag

/-! ### Pointers -/

/-- The number of bits of a pointer. -/
def pointerBits : Nat := 64

namespace Tag

variable {bits : Nat} {t : Tag}

/-- The tag as a pointer of so many bits, which may be too few. -/
def toPointer (bits : Nat) (t : Tag) : BitVec bits := t.value.toBitVec.setWidth bits

/-- The tag that a pointer stands for. -/
def ofPointer (p : BitVec bits) : Tag := ⟨⟨p.setWidth 64⟩⟩

theorem toNat_value_ofPointer_toPointer (bits : Nat) (t : Tag) :
    (ofPointer (t.toPointer bits)).value.toNat = t.value.toNat % 2 ^ bits := by
  have hlt : t.value.toNat % 2 ^ bits < 2 ^ 64 :=
    Nat.lt_of_le_of_lt (Nat.mod_le ..) t.value.toNat_lt
  rw [ofPointer, toPointer, UInt64.toNat_ofBitVec, BitVec.toNat_setWidth, BitVec.toNat_setWidth,
    UInt64.toNat_toBitVec, Nat.mod_eq_of_lt hlt]

/-- Exactly the tags that fit into a pointer come back from it. -/
theorem ofPointer_toPointer_iff :
    ofPointer (t.toPointer bits) = t ↔ t.value.toNat < 2 ^ bits := by
  have hvalue : ofPointer (t.toPointer bits) = t ↔ t.value.toNat % 2 ^ bits = t.value.toNat := by
    rw [← toNat_value_ofPointer_toPointer, UInt64.toNat_inj]
    exact ⟨congrArg _, congrArg Tag.mk⟩
  rw [hvalue]
  exact Nat.mod_eq_iff_lt (Nat.ne_of_gt (Nat.two_pow_pos bits))

@[simp] theorem ofPointer_toPointer (t : Tag) : ofPointer (t.toPointer pointerBits) = t :=
  ofPointer_toPointer_iff.mpr t.value.toNat_lt

@[simp] theorem toPointer_ofPointer (p : BitVec pointerBits) :
    (ofPointer p).toPointer pointerBits = p :=
  (BitVec.setWidth_setWidth_of_le p (Nat.le_refl 64)).trans p.setWidth_eq

theorem ofPointer_eq_iff {p : BitVec pointerBits} :
    ofPointer p = t ↔ p = t.toPointer pointerBits := by
  constructor
  · rintro rfl
    rw [toPointer_ofPointer]
  · rintro rfl
    rw [ofPointer_toPointer]

end Tag

/-! ### What `epoll` carries -/

namespace Epoll

variable {i : Interests} {t : Tag}

/-- The structure that `epoll` takes for a registration and fills for an event. -/
structure RawEvent where
  events : UInt32
  /-- The payload, a plain number. -/
  data : UInt64
deriving DecidableEq, Repr

/-- The structure for a registration. -/
def newEvent (i : Interests) (t : Tag) : RawEvent := ⟨requested i, t.value⟩

namespace RawEvent

/-- The event that the structure stands for. -/
def event (e : RawEvent) : EpollEvent := ⟨e.events, ⟨e.data⟩⟩

/-- The event in common terms. -/
def native (e : RawEvent) : NativeEvent := Epoll.native e.event

/-- The tag of an event is the one that was registered if and only if the payload is, whatever the
bits are. -/
theorem tag_native_eq_iff {e : RawEvent} : e.native.tag = t ↔ e.data = (newEvent i t).data :=
  ⟨congrArg Tag.value, congrArg Tag.mk⟩

end RawEvent

@[simp] theorem tag_native_newEvent (i : Interests) (t : Tag) : (newEvent i t).native.tag = t :=
  RawEvent.tag_native_eq_iff.mpr rfl

/-- Watching hands the structure for a registration over. -/
theorem watch_eq_newEvent (fd : Int32) (i : Interests) (t : Tag) (h : Host Epoll) :
    watch fd i t h = h.system fun k =>
      k.epollAdd h.facility.handle.fd fd (newEvent i t).events (newEvent i t).event.tag := rfl

/-- A wait delivers what the filled structures stand for. -/
theorem deliver_map_event (b : NativeBuffer) (raw : List RawEvent) :
    deliver b (.done (raw.map (·.event))) = (.done (), b.extend (raw.map (·.native))) := by
  rw [deliver, List.map_map]
  rfl

end Epoll

/-! ### What `kqueue` carries -/

namespace Kqueue

variable {fd : Int32} {filter : Int16} {flags : UInt16} {t : Tag}

/-- The structure that `kqueue` takes for a change and fills for an event. -/
structure RawEvent where
  /-- The descriptor, sign extended. -/
  ident : BitVec pointerBits
  filter : Int16
  flags : UInt16
  fflags : UInt32
  /-- The payload, a pointer that nobody follows. -/
  udata : BitVec pointerBits
deriving DecidableEq, Repr

/-- The structure for a change. -/
def newEvent (fd : Int32) (filter : Int16) (flags : UInt16) (t : Tag) : RawEvent where
  ident := fd.toBitVec.signExtend pointerBits
  filter := filter
  flags := flags
  fflags := 0
  udata := t.toPointer pointerBits

namespace RawEvent

/-- The change that the structure stands for: the descriptor is a word of 32 bits again. -/
def change (e : RawEvent) : KqueueChange :=
  ⟨⟨⟨e.ident.setWidth 32⟩⟩, e.filter, e.flags, .ofPointer e.udata⟩

/-- The event that the structure stands for. -/
def event (e : RawEvent) : KqueueEvent := ⟨e.filter, e.flags, e.fflags, .ofPointer e.udata⟩

/-- The event in common terms. -/
def native (e : RawEvent) : NativeEvent := Kqueue.native e.event

/-- The tag of an event is the one that was registered if and only if the payload is, whatever the
filter, the flags and all else are. -/
theorem tag_native_eq_iff {e : RawEvent} :
    e.native.tag = t ↔ e.udata = (newEvent fd filter flags t).udata :=
  Tag.ofPointer_eq_iff

end RawEvent

@[simp] theorem tag_native_newEvent (fd : Int32) (filter : Int16) (flags : UInt16) (t : Tag) :
    (newEvent fd filter flags t).native.tag = t :=
  RawEvent.tag_native_eq_iff.mpr rfl

/-- A descriptor comes back from a word of the size of a pointer, negative or not. -/
theorem setWidth_signExtend (x : BitVec 32) : (x.signExtend pointerBits).setWidth 32 = x := by
  apply BitVec.eq_of_getLsbD_eq
  intro i hi
  have hfits : i < pointerBits := Nat.lt_trans hi (by decide)
  simp only [BitVec.getLsbD_setWidth, BitVec.getLsbD_signExtend, hi, hfits, decide_true,
    Bool.true_and, if_true]

/-- Nothing of a change is lost on its way through the structure. -/
@[simp] theorem change_newEvent (fd : Int32) (filter : Int16) (flags : UInt16) (t : Tag) :
    (newEvent fd filter flags t).change = ⟨fd, filter, flags, t⟩ := by
  rw [RawEvent.change, newEvent, setWidth_signExtend, Tag.ofPointer_toPointer]
  rfl

/-- Registering a filter hands the structure for its change over. -/
theorem register_eq_newEvent (fd : Int32) (t : Tag) (i : Interests) :
    register fd t i = change (newEvent fd (filterFor i) (addFlag ||| receiptFlag) t).change := by
  rw [change_newEvent, register]

/-- Deleting a filter hands the structure for its change over. -/
theorem deregister_eq_newEvent (fd : Int32) (t : Tag) (i : Interests) :
    deregister fd t i = change (newEvent fd (filterFor i) (deleteFlag ||| receiptFlag) t).change := by
  rw [change_newEvent, deregister]

/-- A wait delivers what the filled structures stand for. -/
theorem deliver_map_event (b : NativeBuffer) (raw : List RawEvent) :
    deliver b (.done (raw.map (·.event))) = (.done (), b.extend (raw.map (·.native))) := by
  rw [deliver, List.map_map]
  rfl

end Kqueue

/-! ### Records -/

namespace Roster

variable {roster : Roster} {t : Tag} {i : UInt32} {r : Record}

/-- The record that a tag names with its index, unless the record is of another generation by
now. -/
def locate? (roster : Roster) (t : Tag) : Option (UInt32 × Record) :=
  (roster.resolve? t).map fun r => (t.index, r)

theorem resolve?_eq_locate? (roster : Roster) (t : Tag) :
    roster.resolve? t = (roster.locate? t).map (·.2) := by
  rw [locate?, Option.map_map]
  exact Option.map_id'.symm

/-- A tag names a record if and only if it is the packing of the index and the generation of that
record. -/
theorem locate?_eq_some_iff :
    roster.locate? t = some (i, r) ↔ roster.record? i = some r ∧ t = .pack i r.generation := by
  rw [locate?, Option.map_eq_some_iff, eq_comm (a := t), Tag.pack_eq_iff]
  constructor
  · rintro ⟨r', hr, he⟩
    obtain ⟨rfl, rfl⟩ := Prod.mk.inj he
    obtain ⟨hrecord, hgeneration⟩ := Option.filter_eq_some_iff.mp hr
    exact ⟨hrecord, rfl, (eq_of_beq hgeneration).symm⟩
  · rintro ⟨hrecord, rfl, hgeneration⟩
    exact ⟨r, Option.filter_eq_some_iff.mpr ⟨hrecord, beq_iff_eq.mpr hgeneration.symm⟩, rfl⟩

/-- What is noted for a tag is noted in the record that it names, and in no other. -/
theorem record?_setReadiness (roster : Roster) (t : Tag) (c : Conditions) (i : UInt32) :
    (roster.setReadiness t c).record? i = (roster.record? i).map fun r =>
      if roster.locate? t = some (i, r) then { r with readiness := c } else r := by
  unfold setReadiness locate?
  cases h : roster.resolve? t with
  | none => simp
  | some found =>
      have hfound : roster.records[t.index.toNat]? = some found :=
        (Option.filter_eq_some_iff.mp h).1
      by_cases hi : t.index = i
      · subst hi
        simp [record?, Array.getElem?_modify, hfound]
      · have hne : t.index.toNat ≠ i.toNat := fun h => hi (UInt32.toNat_inj.mp h)
        simp [record?, Array.getElem?_modify, hi, hne]

end Roster

/-- The structure that `epoll` fills leads to a record if and only if its payload is the packing of
the record's index and generation. -/
theorem Epoll.RawEvent.locate?_native_iff {roster : Roster} {e : RawEvent} {i : UInt32}
    {r : Record} : roster.locate? e.native.tag = some (i, r) ↔
      roster.record? i = some r ∧ e.data = (Tag.pack i r.generation).value := by
  rw [Roster.locate?_eq_some_iff, tag_native_eq_iff (i := r.interests)]
  rfl

/-- The structure that `kqueue` fills leads to a record if and only if its payload is that packing
as a pointer. -/
theorem Kqueue.RawEvent.locate?_native_iff {roster : Roster} {e : RawEvent} {i : UInt32}
    {r : Record} : roster.locate? e.native.tag = some (i, r) ↔
      roster.record? i = some r ∧ e.udata = (Tag.pack i r.generation).toPointer pointerBits :=
  Roster.locate?_eq_some_iff.trans (and_congr_right' Tag.ofPointer_eq_iff)

namespace Tag

/-- **Tags come back as they were.**  Packing an index and a generation is a bijection onto the
tags, undone by reading the two again.  The tag that is put into a native structure, of `epoll` or
of `kqueue`, is read out of it again, and out of any other structure if and only if that carries the
same payload.  So a number resolves to a record, of whatever roster, if and only if it is the packing
of the index of the record and of the generation in which the record is. -/
theorem tags_come_back :
    (∀ index generation, (pack index generation).index = index ∧
      (pack index generation).generation = generation) ∧
    (∀ v : UInt64, (pack (Tag.mk v).index (Tag.mk v).generation).value = v) ∧
    (Function.Bijective fun p : UInt32 × UInt32 => pack p.1 p.2) ∧
    (∀ i t, (Epoll.newEvent i t).native.tag = t ∧
      ∀ e : Epoll.RawEvent, e.native.tag = t ↔ e.data = (Epoll.newEvent i t).data) ∧
    (∀ fd filter flags t, (Kqueue.newEvent fd filter flags t).native.tag = t ∧
      ∀ e : Kqueue.RawEvent, e.native.tag = t ↔
        e.udata = (Kqueue.newEvent fd filter flags t).udata) ∧
    ∀ (roster : Roster) (v : UInt64),
      roster.resolve? ⟨v⟩ = (roster.locate? ⟨v⟩).map (·.2) ∧
      ∀ i r, roster.locate? ⟨v⟩ = some (i, r) ↔
        roster.record? i = some r ∧ v = (pack i r.generation).value := by
  refine ⟨fun _ _ => ⟨index_pack .., generation_pack ..⟩,
    fun v => congrArg value (pack_index_generation ⟨v⟩), bijective_pack,
    fun i t => ⟨Epoll.tag_native_newEvent i t, fun e => Epoll.RawEvent.tag_native_eq_iff⟩,
    fun fd filter flags t => ⟨Kqueue.tag_native_newEvent fd filter flags t,
      fun e => Kqueue.RawEvent.tag_native_eq_iff⟩,
    fun roster v => ⟨roster.resolve?_eq_locate? ⟨v⟩, fun i r => ?_⟩⟩
  have hvalue : (⟨v⟩ : Tag) = pack i r.generation ↔ v = (pack i r.generation).value :=
    ⟨congrArg value, congrArg mk⟩
  rw [Roster.locate?_eq_some_iff, hvalue]

end Tag

end Readiness
