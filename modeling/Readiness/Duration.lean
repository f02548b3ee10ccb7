/-! # Durations and timeouts

A duration is a number of seconds and nanoseconds.  Each facility takes its timeout in a form
of its own:

* **Milliseconds** (`Duration.millis`), rounded up so that a wait never ends early, and at most
  the largest 32-bit number.  Only the duration zero becomes zero.
* **A time specification** (`Duration.timespec`), whose seconds are at most the largest signed
  64-bit number.

`Duration.text` is the form used in log lines: the largest unit of s, ms, µs and ns that does
not exceed the duration, with as many decimals as are needed. -/

namespace Readiness

/-- A span of time. -/
structure Duration where
  seconds : UInt64
  nanos : Fin 1000000000
deriving DecidableEq, Repr

/-- A span of time as some system calls take it. -/
structure Timespec where
  seconds : Int64
  nanos : Int64
deriving DecidableEq, Repr

/-- The form in which system calls are written down. -/
def Timespec.text (t : Timespec) : String := s!"{t.seconds}s+{t.nanos}ns"

namespace Duration

/-- No time at all. -/
def zero : Duration := ⟨0, 0⟩

/-- The whole duration in nanoseconds. -/
def totalNanos (d : Duration) : Nat := d.seconds.toNat * 1000000000 + d.nanos.val

/-- The largest timeout in milliseconds. -/
def maxMillis : Nat := 2147483647

/-- The duration in milliseconds, rounded up, and at most `maxMillis`. -/
def millis (d : Duration) : Int32 :=
  Int32.ofNat (min ((d.totalNanos + 999999) / 1000000) maxMillis)

/-- The duration as a time specification; seconds beyond its range become the last ones in
it. -/
def timespec (d : Duration) : Timespec where
  seconds := Int64.ofNat (min d.seconds.toNat 9223372036854775807)
  nanos := Int64.ofNat d.nanos.val

/-! ### Text -/

/-- `part / 10 ^ places` as decimals after a point, without zeros at the end. -/
def decimals (places part : Nat) : String :=
  let digits := (toString part).toList
  let padded := List.replicate (places - digits.length) '0' ++ digits
  let kept := (padded.reverse.dropWhile (· == '0')).reverse
  if kept.isEmpty then "" else "." ++ String.ofList kept

/-- The form used in log lines. -/
def text (d : Duration) : String :=
  let nanos := d.nanos.val
  if d.seconds ≠ 0 then s!"{d.seconds}{decimals 9 nanos}s"
  else if 1000000 ≤ nanos then s!"{nanos / 1000000}{decimals 6 (nanos % 1000000)}ms"
  else if 1000 ≤ nanos then s!"{nanos / 1000}{decimals 3 (nanos % 1000)}µs"
  else s!"{nanos}ns"

/-- The plain form in seconds and nanoseconds, in which calls on a facility are written down. -/
def plainText (d : Duration) : String := s!"{d.seconds}s+{d.nanos.val}ns"

end Duration

/-- How log lines show a timeout that may be missing. -/
def timeoutText : Option Duration → String
  | none => "None"
  | some d => s!"Some({d.text})"

end Readiness
