import Readiness.Descriptor
import Readiness.Conditions
import Readiness.Tag

/-! # Events

* **Native events.**  What a facility reports: the tag of a registration and the readiness.
* **Events.**  What the caller of a watch set gets: the descriptor, the identifier it was
  added with, and the readiness.
* **Identifiers.**  A number chosen by the caller.  Without a choice it is the raw descriptor,
  sign extended to 64 bits. -/

namespace Readiness

/-- A number the caller attaches to a descriptor; the set never looks at it. -/
structure EventId where
  value : UInt64
deriving DecidableEq, Repr

namespace EventId

/-- The identifier used when the caller gives none. -/
def ofDescriptor (d : Descriptor) : EventId := ⟨d.fd.toInt64.toUInt64⟩

/-- Ordered as numbers. -/
instance : Ord EventId := ⟨fun i j => compare i.value j.value⟩

/-- The number in decimal. -/
def display (i : EventId) : String := toString i.value

/-- How an identifier is shown inside an event. -/
def text (i : EventId) : String := s!"Id({i.value})"

/-- The number at the right end of a field of `width` characters filled with `fill`. -/
def flushRight (fill : Char) (width : Nat) (i : EventId) : String :=
  "".pushn fill (width - i.display.length) ++ i.display

/-- The number at the left end of a blank field of `width` characters. -/
def flushLeft (width : Nat) (i : EventId) : String :=
  i.display.pushn ' ' (width - i.display.length)

/-- The number with its sign. -/
def signed (i : EventId) : String := "+" ++ i.display

end EventId

/-- What a facility reports, in terms common to all facilities. -/
structure NativeEvent where
  tag : Tag
  readiness : Conditions
deriving DecidableEq, Repr

/-- What a watch set reports. -/
structure Event where
  descriptor : Descriptor
  id : EventId
  readiness : Conditions
deriving DecidableEq, Repr

/-- How an event is shown. -/
def Event.text (e : Event) : String :=
  s!"Event \x7b descriptor: {e.descriptor.text}, id: {e.id.text}, " ++
    s!"readiness: {e.readiness.text} \x7d"

end Readiness
