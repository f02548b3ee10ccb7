/-! # Tags

A tag goes to the native facility with a registration and comes back with every event for it.

* **Packing.**  The low 32 bits are the index of a record in the arena, the high 32 bits the
  record's generation (`Tag.pack`, `Tag.index`, `Tag.generation`).
* **Trust.**  A record changes its generation whenever it is used again, so a tag that comes
  back late no longer fits the record at its index. -/

namespace Readiness

/-- The value handed to a facility and returned by it. -/
structure Tag where
  value : UInt64
deriving DecidableEq, Repr

namespace Tag

/-- How many records can be told apart by the index of a tag.  The index above the last one is
left free, as the mark of a missing record. -/
def maxRecords : Nat := 4294967295

/-- The bits a generation may use: all of its word. -/
def generationMask : UInt32 := 4294967295

/-- The tag of the record at `index` in its given generation. -/
def pack (index generation : UInt32) : Tag :=
  ⟨(generation &&& generationMask).toUInt64 <<< 32 ||| index.toUInt64⟩

/-- The index of the record. -/
def index (t : Tag) : UInt32 := t.value.toUInt32

/-- The generation of the record. -/
def generation (t : Tag) : UInt32 := (t.value >>> 32).toUInt32

/-- Ordered as numbers, hence first by generation and then by index. -/
instance : Ord Tag := ⟨fun t u => compare t.value u.value⟩

/-- How log lines show a tag. -/
def text (t : Tag) : String := s!"Tag({t.value})"

/-! ### Packing loses nothing -/

/-- A tag as a number. -/
theorem toNat_value_pack (index generation : UInt32) :
    (pack index generation).value.toNat = generation.toNat * 4294967296 + index.toNat := by
  have hi := index.toNat_lt
  have hg := generation.toNat_lt
  have hmask : generation &&& generationMask = generation := by
    apply UInt32.toNat_inj.mp
    rw [UInt32.toNat_and]
    exact Nat.and_two_pow_sub_one_of_lt_two_pow hg (n := 32)
  simp only [pack, hmask, UInt64.toNat_or, UInt64.toNat_shiftLeft, UInt32.toNat_toUInt64]
  have hshift : (generation.toNat <<< ((32 : UInt64).toNat % 64)) % 2 ^ 64 =
      generation.toNat <<< 32 := by
    rw [Nat.shiftLeft_eq, Nat.shiftLeft_eq]
    apply Nat.mod_eq_of_lt
    rw [show (32 : UInt64).toNat % 64 = 32 by decide]
    omega
  rw [hshift, ← Nat.shiftLeft_add_eq_or_of_lt (by omega), Nat.shiftLeft_eq]

@[simp] theorem index_pack (index generation : UInt32) :
    (pack index generation).index = index := by
  apply UInt32.toNat_inj.mp
  have hi := index.toNat_lt
  rw [Tag.index, UInt64.toNat_toUInt32, toNat_value_pack]
  omega

@[simp] theorem generation_pack (index generation : UInt32) :
    (pack index generation).generation = generation := by
  apply UInt32.toNat_inj.mp
  have hi := index.toNat_lt
  have hg := generation.toNat_lt
  rw [Tag.generation, UInt64.toNat_toUInt32, UInt64.toNat_shiftRight, toNat_value_pack]
  rw [show (32 : UInt64).toNat % 64 = 32 by decide, Nat.shiftRight_eq_div_pow]
  omega

/-- Every tag is the packing of its own parts. -/
@[simp] theorem pack_index_generation (t : Tag) : pack t.index t.generation = t := by
  have hv := t.value.toNat_lt
  have hvalue : (pack t.index t.generation).value = t.value := by
    apply UInt64.toNat_inj.mp
    rw [toNat_value_pack, Tag.index, Tag.generation, UInt64.toNat_toUInt32, UInt64.toNat_toUInt32,
      UInt64.toNat_shiftRight]
    rw [show (32 : UInt64).toNat % 64 = 32 by decide, Nat.shiftRight_eq_div_pow]
    omega
  exact congrArg Tag.mk hvalue

end Tag

end Readiness
