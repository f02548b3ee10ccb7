/-! # Descriptors

A descriptor is a number of the operating system, marked as a socket or as another file.  Its
identity is the number alone (`Descriptor.sameAs`): the mark only travels with the events. -/

namespace Readiness

/-- Something that can be watched. -/
inductive Descriptor where
  | socket (fd : Int32)
  | file (fd : Int32)
deriving DecidableEq, Repr

namespace Descriptor

/-- The raw number. -/
def fd : Descriptor → Int32
  | socket n => n
  | file n => n

/-- The descriptor is a socket. -/
def isSocket : Descriptor → Bool
  | socket _ => true
  | file _ => false

/-- The descriptor is a file of another kind. -/
def isFile : Descriptor → Bool
  | socket _ => false
  | file _ => true

/-- Both have the same number, whatever their kinds. -/
def sameAs (d e : Descriptor) : Bool := d.fd == e.fd

/-- How log lines show a descriptor. -/
def text : Descriptor → String
  | socket n => s!"Socket({n})"
  | file n => s!"File({n})"

end Descriptor

end Readiness
