/-! # Interests

What a descriptor is watched for: reading, writing, or both.

* **No empty value.**  A descriptor is always watched for something, so the type has three
  values and no fourth; `Interests.ofBits?` refuses every other bit set.
* **Bits.**  Bit `1` stands for reading and bit `2` for writing (`Interests.bits`).
* **Splitting.**  A facility that keeps one filter for each direction takes the interests
  apart with `Interests.split`, reading first. -/

namespace Readiness

/-- The directions in which a descriptor is watched. -/
inductive Interests where
  | readable
  | writable
  | both
deriving DecidableEq, Repr

namespace Interests

/-- The bit set of the directions: `1` for reading, `2` for writing. -/
def bits : Interests → UInt8
  | readable => 1
  | writable => 2
  | both => 3

/-- The interests with a given bit set, if it is not empty and has no foreign bit. -/
def ofBits? (b : UInt8) : Option Interests :=
  if b = 1 then some readable
  else if b = 2 then some writable
  else if b = 3 then some both
  else none

/-- Reading is among the directions. -/
def isReadable : Interests → Bool
  | writable => false
  | _ => true

/-- Writing is among the directions. -/
def isWritable : Interests → Bool
  | readable => false
  | _ => true

/-- The directions of either value. -/
def union : Interests → Interests → Interests
  | readable, readable => readable
  | writable, writable => writable
  | _, _ => both

instance : OrOp Interests := ⟨union⟩

/-- Ordered as their bit sets are. -/
instance : Ord Interests := ⟨fun i j => compare i.bits j.bits⟩

/-- The single directions, reading before writing. -/
def split : Interests → List Interests
  | readable => [readable]
  | writable => [writable]
  | both => [readable, writable]

/-- How log lines show interests. -/
def text (i : Interests) : String := s!"Interests({i.bits})"

@[simp] theorem ofBits?_bits (i : Interests) : ofBits? i.bits = some i := by
  cases i <;> rfl

theorem bits_injective {i j : Interests} (h : i.bits = j.bits) : i = j := by
  have := congrArg ofBits? h
  simpa using this

@[simp] theorem bits_union (i j : Interests) : (i ||| j).bits = i.bits ||| j.bits := by
  cases i <;> cases j <;> rfl

end Interests

end Readiness
