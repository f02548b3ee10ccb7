import Readiness.Event

/-! # Native event buffers

A facility fills a buffer, and its reader asks the buffer for its length and for one entry after
the other.

* **No promise.**  The length that a buffer claims and the entries it gives are independent of
  each other; an entry below the length may be missing.
* **Reading.**  A reader goes from entry 0 on to the claimed length and stops at the first
  missing entry (`NativeBuffer.reported`). -/

namespace Readiness

/-- A buffer with room for `capacity` events. -/
structure NativeBuffer where
  capacity : Nat
  entries : List (Option NativeEvent) := []
  len : Nat := 0
deriving DecidableEq, Repr

namespace NativeBuffer

/-- The buffer without events. -/
def clear (b : NativeBuffer) : NativeBuffer := { b with entries := [], len := 0 }

/-- The buffer with some more events behind those it holds. -/
def extend (b : NativeBuffer) (events : List NativeEvent) : NativeBuffer :=
  { b with entries := b.entries ++ events.map some, len := b.len + events.length }

/-- The length that the buffer claims is zero. -/
def isEmpty (b : NativeBuffer) : Bool := b.len == 0

/-- The entry at an index, if the buffer gives one. -/
def get? (b : NativeBuffer) (i : Nat) : Option NativeEvent := b.entries[i]?.join

/-- The entries up to the first missing one, at most `n` of them. -/
def leading : Nat → List (Option NativeEvent) → List NativeEvent
  | n + 1, some e :: rest => e :: leading n rest
  | _, _ => []

/-- What a reader gets out of the buffer. -/
def reported (b : NativeBuffer) : List NativeEvent := leading b.len b.entries

theorem leading_map_some (events : List NativeEvent) :
    leading events.length (events.map some) = events := by
  induction events with
  | nil => rfl
  | cons e rest ih => simpa [leading] using ih

@[simp] theorem isEmpty_clear (b : NativeBuffer) : b.clear.isEmpty = true := rfl

@[simp] theorem reported_clear (b : NativeBuffer) : b.clear.reported = [] := rfl

/-- An honest buffer gives its reader what was put into it. -/
@[simp] theorem reported_extend_clear (b : NativeBuffer) (events : List NativeEvent) :
    (b.clear.extend events).reported = events := by
  simpa [reported, extend, clear] using leading_map_some events

end NativeBuffer

end Readiness
