import Mathlib.Algebra.Group.Nat.Defs
import Readiness.Proofs.HandleLifetimes

/-! # Timeouts as system calls take them

A duration has 64 bits of seconds, and each facility has to fit it into something else.

* **Milliseconds** are rounded up in words of 128 bits, which always have room
  (`Duration.millis?_eq_some`), and cut off at the largest timeout.  So a wait ends early only if it
  was given more than that (`Duration.millis_close`), and only the duration zero becomes zero
  (`Duration.millis_eq_zero_iff`).
* **Time specifications** keep seconds and nanoseconds apart, and cut off the seconds only.
* **Native calls.**  Neither form can be mistaken for an endless timeout, nor for none at all
  (`SystemCall.Bounded`). -/

namespace Readiness

namespace Duration

variable {d e : Duration}

/-! ### Milliseconds -/

/-- A number that fits into a word of so many bits. -/
def fit? (bits n : Nat) : Option Nat := if n < 2 ^ bits then some n else none

theorem fit?_of_lt {bits n : Nat} (h : n < 2 ^ bits) : fit? bits n = some n := if_pos h

/-- A difference that is not negative. -/
def less? (n m : Nat) : Option Nat := if m ≤ n then some (n - m) else none

theorem less?_of_le {n m : Nat} (h : m ≤ n) : less? n m = some (n - m) := if_pos h

/-- The whole duration in nanoseconds, in words of 128 bits. -/
def totalNanos? (d : Duration) : Option Nat := do
  let whole ← fit? 128 (d.seconds.toNat * 1000000000)
  fit? 128 (whole + d.nanos.val)

/-- Nanoseconds as milliseconds, rounded up and cut off, in words of 128 bits.  The result goes into
the half of a word of 32 bits that is not negative. -/
def roundUp? (n : Nat) : Option Nat := do
  let raised ← fit? 128 (n + 1000000)
  let lowered ← less? raised 1
  fit? 31 (min (lowered / 1000000) maxMillis)

/-- The duration in milliseconds, computed step by step.  There is no result if a number on the way
does not fit into its word. -/
def millis? (d : Duration) : Option Int32 := do
  let nanos ← d.totalNanos?
  let millis ← roundUp? nanos
  some (Int32.ofNat millis)

theorem totalNanos_lt (d : Duration) : d.totalNanos < 2 ^ 64 * 1000000000 := by
  have hseconds := d.seconds.toNat_lt
  have hnanos := d.nanos.isLt
  unfold totalNanos
  omega

theorem min_maxMillis_lt (n : Nat) : min n maxMillis < 2 ^ 31 := by
  unfold maxMillis
  omega

theorem totalNanos?_eq_some (d : Duration) : d.totalNanos? = some d.totalNanos := by
  have htotal := d.totalNanos_lt
  have hwhole : d.seconds.toNat * 1000000000 ≤ d.totalNanos := Nat.le_add_right ..
  rw [totalNanos?, fit?_of_lt (by omega), Option.bind_eq_bind, Option.bind_some, ← totalNanos]
  exact fit?_of_lt (by omega)

theorem roundUp?_of_lt {n : Nat} (h : n + 1000000 < 2 ^ 128) :
    roundUp? n = some (min ((n + 999999) / 1000000) maxMillis) := by
  have hraised : 1 ≤ n + 1000000 := by omega
  have hlowered : n + 1000000 - 1 = n + 999999 := by omega
  rw [roundUp?, fit?_of_lt h, Option.bind_eq_bind, Option.bind_some, less?_of_le hraised,
    Option.bind_some, hlowered, fit?_of_lt (min_maxMillis_lt _)]

/-- Rounding up never runs out of bits. -/
theorem millis?_eq_some (d : Duration) : d.millis? = some d.millis := by
  have htotal := d.totalNanos_lt
  have hroom : d.totalNanos + 1000000 < 2 ^ 128 := by omega
  rw [millis?, totalNanos?_eq_some, Option.bind_eq_bind, Option.bind_some, roundUp?_of_lt hroom,
    Option.bind_some, millis]

/-- The milliseconds as a number. -/
theorem toInt_millis (d : Duration) :
    d.millis.toInt = (min ((d.totalNanos + 999999) / 1000000) maxMillis : Nat) :=
  Int32.toInt_ofNat_of_lt (min_maxMillis_lt _)

theorem millis_nonneg (d : Duration) : 0 ≤ d.millis.toInt := by
  rw [toInt_millis]
  omega

theorem millis_le_maxMillis (d : Duration) : d.millis.toInt ≤ maxMillis := by
  rw [toInt_millis]
  omega

/-- A duration is told by its nanoseconds. -/
theorem totalNanos_inj : d.totalNanos = e.totalNanos ↔ d = e := by
  refine ⟨fun h => ?_, congrArg _⟩
  obtain ⟨s, n⟩ := d
  obtain ⟨s', n'⟩ := e
  have hn := n.isLt
  have hn' := n'.isLt
  simp only [totalNanos] at h
  have hseconds : s.toNat = s'.toNat := by omega
  have hnanos : n.val = n'.val := by omega
  rw [UInt64.toNat_inj.mp hseconds, Fin.ext hnanos]

theorem totalNanos_eq_zero_iff : d.totalNanos = 0 ↔ d = .zero := totalNanos_inj (e := .zero)

/-- Not even a single nanosecond becomes zero. -/
theorem millis_eq_zero_iff : d.millis = 0 ↔ d = .zero := by
  rw [← totalNanos_eq_zero_iff, ← Int32.toInt_inj, toInt_millis, Int32.toInt_zero]
  unfold maxMillis
  omega

/-- A longer duration has no smaller timeout. -/
theorem millis_le_millis (h : d.totalNanos ≤ e.totalNanos) : d.millis ≤ e.millis := by
  rw [Int32.le_iff_toInt_le, toInt_millis, toInt_millis]
  omega

/-- A timeout below the largest one is the duration, rounded up by less than a millisecond. -/
theorem millis_close (h : d.millis.toInt ≠ maxMillis) :
    d.totalNanos ≤ d.millis.toInt * 1000000 ∧
      d.millis.toInt * 1000000 < d.totalNanos + 1000000 := by
  rw [toInt_millis] at h ⊢
  omega

/-! ### Time specifications -/

theorem toInt_seconds_timespec (d : Duration) :
    d.timespec.seconds.toInt = (min d.seconds.toNat 9223372036854775807 : Nat) :=
  Int64.toInt_ofNat_of_lt (by omega)

theorem toInt_nanos_timespec (d : Duration) : d.timespec.nanos.toInt = d.nanos.val := by
  have hnanos := d.nanos.isLt
  exact Int64.toInt_ofNat_of_lt (by omega)

/-- Only the duration zero has the time specification zero. -/
theorem timespec_eq_zero_iff : d.timespec = ⟨0, 0⟩ ↔ d = .zero := by
  refine ⟨fun h => ?_, fun h => h ▸ rfl⟩
  have hseconds := d.toInt_seconds_timespec
  have hnanos := d.toInt_nanos_timespec
  rw [h, Int64.toInt_zero] at hseconds hnanos
  rw [← totalNanos_eq_zero_iff, totalNanos]
  omega

end Duration

/-! ### Native calls -/

namespace SystemCall

/-- The call may wait without end. -/
def isEndless : SystemCall → Bool
  | epollWait _ _ timeout => timeout < 0
  | keventWait _ _ timeout => timeout.isNone
  | _ => false

/-- The call returns without waiting. -/
def isImmediate : SystemCall → Bool
  | epollWait _ _ timeout => timeout = 0
  | keventWait _ _ timeout => timeout = some ⟨0, 0⟩
  | _ => false

/-- The call waits as long as a timeout says: without end if there is none, and not at all if it is
zero. -/
structure Bounded (timeout : Option Duration) (call : SystemCall) : Prop where
  endless : call.isEndless = true ↔ timeout = none
  immediate : call.isImmediate = true ↔ timeout = some .zero

end SystemCall

/-- A call of a facility makes one system call, before others come in, and none afterwards. -/
def Host.MakesOnly {β ρ : Type} (call : SystemCall) (h : Host β)
    (p : Progress (Host β) ρ × Host β) : Prop :=
  p.2.kernel.calls = h.kernel.calls.push call ∧
    ∀ resume, p.1 = .inside resume → ∀ g : Host β, (resume g).2.kernel.calls = g.kernel.calls

theorem Host.makesOnly_systemWithin {β ρ γ : Type} {call : SystemCall}
    {act : Kernel → Progress Kernel ρ × Kernel} {f : ρ → γ} {h : Host β}
    (hcalls : (act h.kernel).2.calls = h.kernel.calls.push call ∧
      ∀ resume, (act h.kernel).1 = .inside resume → ∀ t, (resume t).2.calls = t.calls) :
    h.MakesOnly call (h.systemWithin act fun a h => (f a, h)) := by
  unfold Host.systemWithin Progress.within
  cases hact : act h.kernel with
  | mk p kernel =>
      rw [hact] at hcalls
      cases p with
      | returned r => exact ⟨hcalls.1, nofun⟩
      | inside resume =>
          refine ⟨hcalls.1, fun resume' he g => ?_⟩
          obtain rfl := Progress.inside.inj he
          exact hcalls.2 resume rfl g.kernel

theorem Epoll.timeoutMillis_neg_iff {timeout : Option Duration} :
    timeoutMillis timeout < 0 ↔ timeout = none := by
  cases timeout with
  | none => exact iff_of_true (by decide) rfl
  | some d =>
      refine iff_of_false ?_ nofun
      rw [timeoutMillis, Int32.lt_iff_toInt_lt, Int32.toInt_zero]
      exact Int.not_lt.mpr d.millis_nonneg

theorem Epoll.timeoutMillis_eq_zero_iff {timeout : Option Duration} :
    timeoutMillis timeout = 0 ↔ timeout = some .zero := by
  cases timeout with
  | none => exact iff_of_false (by decide) nofun
  | some d => rw [timeoutMillis, Duration.millis_eq_zero_iff, Option.some_inj]

theorem Epoll.bounded_epollWait (handle size : Int32) (timeout : Option Duration) :
    (SystemCall.epollWait handle size (timeoutMillis timeout)).Bounded timeout :=
  ⟨decide_eq_true_iff.trans timeoutMillis_neg_iff,
    decide_eq_true_iff.trans timeoutMillis_eq_zero_iff⟩

theorem Kqueue.bounded_keventWait (handle size : Int32) (timeout : Option Duration) :
    (SystemCall.keventWait handle size (timeout.map Duration.timespec)).Bounded timeout := by
  constructor
  · simp [SystemCall.isEndless]
  · simp [SystemCall.isImmediate, Duration.timespec_eq_zero_iff]

theorem Epoll.makesOnly_wait (b : NativeBuffer) (timeout : Option Duration) (h : Host Epoll) :
    h.MakesOnly (.epollWait h.facility.handle.fd (room b.capacity) (timeoutMillis timeout))
      (Facility.wait b timeout h) :=
  Host.makesOnly_systemWithin (Kernel.calls_epollWait ..)

theorem Kqueue.makesOnly_wait (b : NativeBuffer) (timeout : Option Duration) (h : Host Kqueue) :
    h.MakesOnly (.keventWait h.facility.handle.fd (room b.capacity) (timeout.map Duration.timespec))
      (Facility.wait b timeout h) :=
  Host.makesOnly_systemWithin (Kernel.calls_keventWait ..)

namespace Duration

/-- **Timeouts are kept.**  Every duration has a timeout in milliseconds, which is computed without
overflow; it is zero for the duration zero only, grows with the duration, and unless it is the
largest timeout it is the duration rounded up by less than a millisecond.  The time specification of
a duration is that duration, unless there are too many seconds, of which it then has as many as
there may be.  So the native call of a wait with `epoll` or `kqueue` is endless if and only if there
is no timeout, and does not wait if and only if the timeout is zero. -/
theorem timeouts_are_kept :
    (∀ d : Duration, d.millis? = some d.millis ∧
      0 ≤ d.millis.toInt ∧ d.millis.toInt ≤ maxMillis ∧ (d.millis = 0 ↔ d = .zero) ∧
      (d.millis.toInt ≠ maxMillis → d.totalNanos ≤ d.millis.toInt * 1000000 ∧
        d.millis.toInt * 1000000 < d.totalNanos + 1000000)) ∧
    (∀ d e : Duration, d.totalNanos ≤ e.totalNanos → d.millis ≤ e.millis) ∧
    (∀ d : Duration, 0 ≤ d.timespec.seconds.toInt ∧
      0 ≤ d.timespec.nanos.toInt ∧ d.timespec.nanos.toInt < 1000000000 ∧
      (d.seconds.toNat ≤ 9223372036854775807 →
        d.timespec.seconds.toInt * 1000000000 + d.timespec.nanos.toInt = d.totalNanos) ∧
      (9223372036854775807 < d.seconds.toNat →
        d.timespec.seconds.toInt = 9223372036854775807)) ∧
    (∀ b timeout (h : Host Epoll), ∃ call : SystemCall,
      call = .epollWait h.facility.handle.fd (room b.capacity) (Epoll.timeoutMillis timeout) ∧
      h.MakesOnly call (Facility.wait b timeout h) ∧ call.Bounded timeout) ∧
    ∀ b timeout (h : Host Kqueue), ∃ call : SystemCall,
      call = .keventWait h.facility.handle.fd (room b.capacity) (timeout.map timespec) ∧
      h.MakesOnly call (Facility.wait b timeout h) ∧ call.Bounded timeout := by
  refine ⟨fun d => ⟨d.millis?_eq_some, d.millis_nonneg, d.millis_le_maxMillis, millis_eq_zero_iff,
    millis_close⟩, fun d e => millis_le_millis, fun d => ?_,
    fun b timeout h => ⟨_, rfl, Epoll.makesOnly_wait b timeout h, Epoll.bounded_epollWait ..⟩,
    fun b timeout h => ⟨_, rfl, Kqueue.makesOnly_wait b timeout h, Kqueue.bounded_keventWait ..⟩⟩
  have hnanos := d.nanos.isLt
  rw [toInt_seconds_timespec, toInt_nanos_timespec, totalNanos]
  refine ⟨by omega, by omega, by omega, fun h => by omega, fun h => by omega⟩

/-- The shortest duration that is not zero. -/
def shortest : Duration := ⟨0, ⟨1, by decide⟩⟩

/-- The longest duration. -/
def longest : Duration := ⟨18446744073709551615, ⟨999999999, by decide⟩⟩

/-- At both ends: a nanosecond is rounded up, and the longest duration has no more seconds than a
time specification may have. -/
theorem timeouts_are_kept_extreme :
    (shortest.millis.toInt ≠ maxMillis ∧
      shortest.totalNanos ≤ shortest.millis.toInt * 1000000 ∧
      shortest.millis.toInt * 1000000 < shortest.totalNanos + 1000000) ∧
    (shortest.totalNanos ≤ longest.totalNanos ∧ shortest.millis ≤ longest.millis) ∧
    (shortest.seconds.toNat ≤ 9223372036854775807 ∧
      shortest.timespec.seconds.toInt * 1000000000 + shortest.timespec.nanos.toInt =
        shortest.totalNanos) ∧
    9223372036854775807 < longest.seconds.toNat ∧
      longest.timespec.seconds.toInt = 9223372036854775807 := by
  obtain ⟨hmillis, hmono, htimespec, -, -⟩ := timeouts_are_kept
  obtain ⟨-, -, -, -, hclose⟩ := hmillis shortest
  obtain ⟨-, -, -, hexact, -⟩ := htimespec shortest
  obtain ⟨-, -, -, -, hcut⟩ := htimespec longest
  exact ⟨⟨by decide, hclose (by decide)⟩, ⟨by decide, hmono _ _ (by decide)⟩,
    ⟨by decide, hexact (by decide)⟩, by decide, hcut (by decide)⟩

end Duration

end Readiness
