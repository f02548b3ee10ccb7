import Readiness.Facility.Epoll
import Readiness.Facility.Kqueue
import Readiness.Facility.Poll
import Readiness.Facility.Scripted

/-! # Stimuli

What a scenario does to the world around a watch set: queue verdicts for calls, change the state
of descriptors, and inject events.  A stimulus is no call of the set, so it is possible at any
moment. -/

namespace Readiness

/-- Something that happens to the kernel. -/
inductive Stimulus where
  | verdict (name : CallName) (verdict : Verdict)
  | invalidate (fd : Int32)
  | validate (fd : Int32)
  | level (fd : Int32) (bits : UInt32)
  | filter (state : FilterState)
  | clear (fd : Int32)
  | injectEpoll (e : EpollEvent)
  | injectKqueue (e : KqueueEvent)
  | force (fd : Int32) (bits : UInt16)
deriving DecidableEq, Repr

/-- What a stimulus does to the kernel. -/
def Stimulus.apply : Stimulus → Kernel → Kernel
  | verdict name v, k => k.queueVerdict name v
  | invalidate fd, k => k.invalidate fd
  | validate fd, k => k.validate fd
  | level fd bits, k => k.setLevel fd bits
  | filter state, k => k.setFilter state
  | clear fd, k => k.clearLevel fd
  | injectEpoll e, k => { k with epollInjected := k.epollInjected ++ [e] }
  | injectKqueue e, k => { k with kqueueInjected := k.kqueueInjected ++ [e] }
  | force fd bits, k => k.force fd bits

/-- Something that happens to the scripted facility or to the kernel. -/
inductive Instruction where
  | kernel (stimulus : Stimulus)
  | ready (fd : Int32) (readiness : Conditions)
  | inject (e : NativeEvent)
  | overfill
  | claim (len : Nat)
  | leaveOut (i : Nat)
deriving DecidableEq, Repr

/-- What a stimulus answers. -/
inductive Response where
  | silent
  | tagged (t : Tag)
  | unwatched
deriving DecidableEq, Repr

/-- A facility that can be stimulated, by values of type `γ`. -/
class Stimulated (β : Type) (γ : outParam Type) where
  stimulate : γ → Host β → Response × Host β

variable {β : Type}

/-- Change only the kernel. -/
def Stimulus.stimulate (x : Stimulus) (h : Host β) : Response × Host β :=
  (.silent, { h with kernel := x.apply h.kernel })

/-- Follow an instruction. -/
def Instruction.stimulate (x : Instruction) (h : Host Scripted) : Response × Host Scripted :=
  match x with
  | kernel stimulus => stimulus.stimulate h
  | ready fd readiness =>
    match h.facility.tag? fd with
    | none => (.unwatched, h)
    | some t => (.tagged t, { h with facility := h.facility.inject ⟨t, readiness⟩ })
  | inject e => (.silent, { h with facility := h.facility.inject e })
  | overfill => (.silent, { h with facility.overfull := true })
  | claim len => (.silent, { h with facility.claimed := some len })
  | leaveOut i => (.silent, { h with facility.hole := some i })

instance : Stimulated Epoll Stimulus := ⟨Stimulus.stimulate⟩

instance : Stimulated Poll Stimulus := ⟨Stimulus.stimulate⟩

instance : Stimulated Kqueue Stimulus := ⟨Stimulus.stimulate⟩

instance : Stimulated Scripted Instruction := ⟨Instruction.stimulate⟩

end Readiness
