import Readiness.Interests

/-! # Readiness

The state a descriptor is reported in, as a set of conditions.

* **Conditions.**  Bit `1` readable, `2` writable, `4` error, `8` hang-up.
* **Foreign bits.**  The set is a whole byte.  Bits without a meaning are carried along by
  every operation except `Conditions.truncate`, `Conditions.complement` and `Conditions.mask`.
* **Masking.**  `Conditions.mask` keeps the directions a descriptor is watched for.  An error or a
  hang-up is reported whatever the interests are. -/

namespace Readiness

/-- A set of readiness conditions, one bit each. -/
structure Conditions where
  bits : UInt8
deriving DecidableEq, Repr

namespace Conditions

/-- No condition holds. -/
def empty : Conditions := ⟨0⟩

/-- There is something to read. -/
def readable : Conditions := ⟨1⟩

/-- There is room to write. -/
def writable : Conditions := ⟨2⟩

/-- The descriptor has a pending error. -/
def error : Conditions := ⟨4⟩

/-- The other side is gone. -/
def hup : Conditions := ⟨8⟩

/-- The four conditions with a meaning. -/
def all : Conditions := ⟨15⟩

instance : OrOp Conditions := ⟨fun r s => ⟨r.bits ||| s.bits⟩⟩
instance : AndOp Conditions := ⟨fun r s => ⟨r.bits &&& s.bits⟩⟩
instance : XorOp Conditions := ⟨fun r s => ⟨r.bits ^^^ s.bits⟩⟩

/-- The conditions of `r` that are not in `s`. -/
def diff (r s : Conditions) : Conditions := ⟨r.bits &&& ~~~s.bits⟩

/-- The bits of `r` that have a meaning. -/
def truncate (r : Conditions) : Conditions := r &&& all

/-- The conditions with a meaning that are not in `r`. -/
def complement (r : Conditions) : Conditions := truncate ⟨~~~r.bits⟩

/-- Every bit of `s` is in `r`. -/
def contains (r s : Conditions) : Bool := r &&& s == s

/-- Some bit is in both sets. -/
def intersects (r s : Conditions) : Bool := r &&& s != empty

/-- No bit is set, not even one without a meaning. -/
def isEmpty (r : Conditions) : Bool := r == empty

/-- The value itself, if all its bits have a meaning. -/
def checked? (r : Conditions) : Option Conditions := if r.truncate = r then some r else none

/-- The directions of some interests as conditions. -/
def ofInterests (i : Interests) : Conditions := ⟨i.bits⟩

/-- What is reported of `r` to one who watches for `i`: the directions in `i`, and error and
hang-up in any case. -/
def mask (r : Conditions) (i : Interests) : Conditions := r &&& (ofInterests i ||| error ||| hup)

/-- The conditions with their names, in the order of the bits. -/
def table : List (String × Conditions) :=
  [("READABLE", readable), ("WRITABLE", writable), ("ERROR", error), ("HUP", hup)]

/-- The names of the conditions that hold, in the order of the bits. -/
def names (r : Conditions) : List String :=
  (table.filter fun entry => r.contains entry.2).map Prod.fst

/-- A bit set as a hexadecimal numeral. -/
def hexadecimal (b : UInt8) : String := "0x" ++ String.ofList (Nat.toDigits 16 b.toNat)

/-- How a set is shown: the names joined by bars, and last the bits without a meaning as one
hexadecimal numeral, which also stands for the empty set. -/
def text (r : Conditions) : String :=
  let foreign := r.diff all
  let parts := r.names ++ if foreign.isEmpty then [] else [hexadecimal foreign.bits]
  let shown := if parts.isEmpty then hexadecimal r.bits else String.intercalate " | " parts
  s!"Ready({shown})"

end Conditions

end Readiness
