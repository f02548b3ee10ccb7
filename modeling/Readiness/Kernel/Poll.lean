import Readiness.Kernel.Basic
import Readiness.Progress

/-! # The call `poll`

The caller brings the whole table, and gets the results in the same order.  The call never
blocks.  The waker is an entry of its own: it is readable if there was a wake-up since it was
last drained, which the caller knows and which is therefore no part of the kernel. -/

namespace Readiness

namespace Poll

/-- There is data to read. -/
def inBit : UInt16 := 1

/-- There is urgent data to read. -/
def priBit : UInt16 := 2

/-- There is room to write. -/
def outBit : UInt16 := 4

/-- There is an error. -/
def errBit : UInt16 := 8

/-- The other side is gone. -/
def hupBit : UInt16 := 16

/-- The descriptor is invalid. -/
def nvalBit : UInt16 := 32

end Poll

namespace Kernel

/-- The result for one entry: a forced one, which is used up, or else what the descriptor is
and has. -/
def pollOne (k : Kernel) (entry : Int32 × UInt16) : UInt16 × Kernel :=
  match k.forced.lookup entry.1 with
  | some bits => (bits, { k with forced := k.forced.filter (·.1 ≠ entry.1) })
  | none =>
    if k.isInvalid entry.1 then (Poll.nvalBit, k)
    else ((k.level entry.1).toUInt16 &&& (entry.2 ||| Poll.errBit ||| Poll.hupBit), k)

/-- The results for all entries, in order. -/
def pollEach (k : Kernel) : List (Int32 × UInt16) → List UInt16 × Kernel
  | [] => ([], k)
  | entry :: rest =>
    let (bits, k) := k.pollOne entry
    let (results, k) := pollEach k rest
    (bits :: results, k)

/-- Wait for events on the entries; others may run inside. -/
def poll (entries : List (Int32 × UInt16)) (timeout : Int32) (k : Kernel) :
    Progress Kernel (Outcome SystemError (List UInt16)) × Kernel :=
  (.inside (obey .poll fun k =>
      let (results, k) := k.pollEach entries
      (.done results, k)),
    k.record (.poll entries timeout))

/-- The next `poll` of the descriptor returns exactly these bits for it. -/
def force (k : Kernel) (fd : Int32) (bits : UInt16) : Kernel :=
  { k with forced := (fd, bits) :: k.forced.filter (·.1 ≠ fd) }

end Kernel

end Readiness
