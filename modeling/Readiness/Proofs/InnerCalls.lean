import Readiness.Proofs.AlikeSets

/-! # Calls inside calls

Calls that are made one after the other from inside the facility, while another call of the same set
is in progress.

* **Calls** (`SetCall`).  Every call that takes a lock, with its arguments.  A list of calls is made
  in order, and what each answered is written down (`SetCall.makeAll`).
* **Alike** (`SetCall.blind_makeAll`).  Calls do the same to sets that differ in the log.
* **Refused by the rings** (`SetCall.makeAll_of_held`).  If the lock on the rings is held, and no
  lock waits, each call is refused and leaves nothing but its line in the log.
* **Refused by the buffer** (`SetCall.make_poll_of_held`).  If the lock on the buffer is held, each
  poll is refused in this way.  For the other calls it is as if no polls had been among them, and
  as if the buffer had been free (`SetCall.makeAll_dropPolls`, `SetCall.makeAll_withBuffer`). -/

namespace Readiness

variable {β : Type}

/-- A call of a set that takes a lock. -/
inductive SetCall where
  | add (d : Descriptor) (i : Interests)
  | addWithId (d : Descriptor) (i : Interests) (id : EventId)
  | remove (d : Descriptor)
  | poll (events : List Event) (timeout : Option Duration)
  | len
  | isEmpty
  | stats
deriving DecidableEq, Repr

/-- The answer of a call. -/
inductive SetAnswer where
  | added (outcome : Outcome Error Unit)
  | removed (outcome : Outcome Error Bool)
  | polled (outcome : Outcome Error Nat) (events : List Event)
  | counted (n : Except Halt Nat)
  | told (b : Except Halt Bool)
  | sized (sizes : Except Halt RosterSizes)

namespace SetCall

/-- The call is a poll. -/
def isPoll : SetCall → Bool
  | poll .. => true
  | _ => false

/-- The line that a call writes before it takes a lock. -/
def line? : SetCall → Option LogEntry
  | add d i => some (.adding d i (.ofDescriptor d))
  | addWithId d i id => some (.adding d i id)
  | remove d => some (.removing d)
  | poll _ timeout => some (.polling timeout)
  | len | isEmpty | stats => none

/-- The answer of a call that finds a lock held although nobody else should be around.  A poll has
emptied the caller's buffer by then. -/
def refusal : SetCall → SetAnswer
  | add .. | addWithId .. => .added (.halted .concurrentUse)
  | remove _ => .removed (.halted .concurrentUse)
  | poll .. => .polled (.halted .concurrentUse) []
  | len => .counted (.error .concurrentUse)
  | isEmpty => .told (.error .concurrentUse)
  | stats => .sized (.error .concurrentUse)

section

variable [Facility β]

/-- Make a call, with nobody else around. -/
def make : SetCall → WatchSet β → SetAnswer × WatchSet β
  | add d i, s => Prod.map .added id (Progress.alone (s.add d i (.ofDescriptor d)))
  | addWithId d i id', s => Prod.map .added id (Progress.alone (s.add d i id'))
  | remove d, s => Prod.map .removed id (Progress.alone (s.remove d))
  | poll events timeout, s =>
    Prod.map (fun answer => .polled answer.1 answer.2) id (Progress.alone (s.poll events timeout))
  | len, s => (.counted s.len, s)
  | isEmpty, s => (.told s.isEmpty, s)
  | stats, s => (.sized s.stats, s)

/-- Make some calls in order, and write down what each answers. -/
def makeAll : List SetCall → WatchSet β → List (SetCall × SetAnswer) × WatchSet β
  | [], s => ([], s)
  | c :: calls, s =>
    let (a, s) := c.make s
    let (rest, s) := makeAll calls s
    ((c, a) :: rest, s)

/-- The calls without the polls among them. -/
def dropPolls (calls : List SetCall) : List SetCall := calls.filter fun c => !c.isPoll

/-! ### Sets that are alike -/

/-- **One call** does not read the log. -/
theorem blind_make [LogBlind β] (c : SetCall) : WatchSet.Blind (β := β) c.make := by
  intro s s' hl
  cases c with
  | add | addWithId => exact ((s.isChange_add _ _ _).matches hl).alone.map _
  | remove d => exact ((s.isChange_remove d).matches hl).alone.map _
  | poll events timeout => exact (WatchSet.blind_poll events timeout s s' hl).alone.map _
  | len | isEmpty | stats =>
      obtain ⟨log, rfl⟩ := hl
      exact ⟨rfl, log, rfl⟩

/-- **Some calls** do not read the log. -/
theorem blind_makeAll [LogBlind β] (calls : List SetCall) :
    WatchSet.Blind (β := β) (makeAll calls) := by
  induction calls with
  | nil => exact fun s s' hl => ⟨rfl, hl⟩
  | cons c calls ih =>
      intro s s' hl
      obtain ⟨a, t, t', hc, hc', ht⟩ := (blind_make c s s' hl).exists
      obtain ⟨answers, u, u', hrest, hrest', hu⟩ := (ih t t' ht).exists
      simp only [makeAll, hc, hc', hrest, hrest']
      exact ⟨rfl, hu⟩

/-! ### Refused by the rings -/

variable {s : WatchSet β}

/-- **One poll** is refused while the lock on the buffer is held. -/
theorem make_poll_of_held (hbuffer : s.buffer.Refusing) {c : SetCall} (hc : c.isPoll = true) :
    c.make s = (c.refusal, s.notes c.line?.toList) := by
  cases c with
  | poll events timeout =>
      rw [make, WatchSet.poll_of_buffer_held hbuffer.held, hbuffer.conflict]
      rfl
  | _ => cases hc

/-- **One call** is refused while the lock on the rings is held. -/
theorem make_of_held (hroster : s.roster.Refusing) (hsingle : s.buffer.threadSafe = false)
    (c : SetCall) : c.make s = (c.refusal, s.notes c.line?.toList) := by
  have hread : s.roster.read = .error .concurrentUse := by
    simp only [Lock.read, Lock.acquire_of_held hroster.held, hroster.conflict, Except.map]
  cases c with
  | add | addWithId =>
      rw [make, WatchSet.add_of_held hroster.held, hroster.conflict]
      rfl
  | remove d =>
      rw [make, WatchSet.remove_of_held hroster.held, hroster.conflict]
      rfl
  | poll events timeout =>
      cases hbuffer : s.buffer.held with
      | true => exact make_poll_of_held ⟨hbuffer, hsingle⟩ rfl
      | false =>
          -- the poll gives the buffer back that it has taken
          rw [make, WatchSet.poll_of_roster_held hbuffer hroster.held, hroster.conflict]
          rfl
  | len | isEmpty | stats =>
      simp only [make, WatchSet.isEmpty, WatchSet.len, WatchSet.stats, hread, Except.map]
      rfl

/-- **Some calls** are refused while the lock on the rings is held. -/
theorem makeAll_of_held (hroster : s.roster.Refusing) (hsingle : s.buffer.threadSafe = false)
    (calls : List SetCall) :
    makeAll calls s = (calls.map fun c => (c, c.refusal), s.notes (calls.filterMap line?)) := by
  induction calls generalizing s with
  | nil => rfl
  | cons c calls ih =>
      obtain ⟨log, hnotes⟩ := WatchSet.alike_notes c.line?.toList s
      have hrest := ih (s := s.notes c.line?.toList) (by rwa [hnotes]) (by rwa [hnotes])
      simp only [makeAll, make_of_held hroster hsingle c, hrest, List.map_cons,
        RosterLists.filterMap_cons_eq, WatchSet.notes_append]

/-! ### Refused by the buffer -/

/-- A call that is no poll neither reads nor changes the buffer. -/
theorem make_withBuffer [LogBlind β] {c : SetCall} (hc : c.isPoll = false)
    (b : Lock NativeBuffer) (s : WatchSet β) :
    c.make (s.withBuffer b) = Prod.map id (WatchSet.withBuffer b) (c.make s) := by
  cases c with
  | poll events timeout => cases hc
  | add | addWithId =>
      simp only [make, (s.isChange_add _ _ _).alone_withBuffer b]
      rfl
  | remove d =>
      simp only [make, (s.isChange_remove d).alone_withBuffer b]
      rfl
  | len | isEmpty | stats => rfl

/-- **Some calls** without a poll neither read nor change the buffer. -/
theorem makeAll_withBuffer [LogBlind β] {calls : List SetCall}
    (hcalls : ∀ c ∈ calls, c.isPoll = false) (b : Lock NativeBuffer) (s : WatchSet β) :
    makeAll calls (s.withBuffer b) = Prod.map id (WatchSet.withBuffer b) (makeAll calls s) := by
  induction calls generalizing s with
  | nil => rfl
  | cons c calls ih =>
      obtain ⟨hc, hrest⟩ := List.forall_mem_cons.mp hcalls
      simp only [makeAll, make_withBuffer hc]
      dsimp only [Prod.map]
      rw [ih hrest]
      rfl

/-- As long as the lock on the buffer is held no call changes the buffer. -/
theorem buffer_make_of_held [LogBlind β] (hbuffer : s.buffer.Refusing) (c : SetCall) :
    (c.make s).2.buffer = s.buffer := by
  cases hc : c.isPoll with
  | true =>
      obtain ⟨log, hnotes⟩ := WatchSet.alike_notes c.line?.toList s
      rw [make_poll_of_held hbuffer hc, hnotes]
  | false =>
      rw [show c.make s = _ from make_withBuffer hc s.buffer s]
      rfl

theorem buffer_makeAll_of_held [LogBlind β] (hbuffer : s.buffer.Refusing) (calls : List SetCall) :
    (makeAll calls s).2.buffer = s.buffer := by
  induction calls generalizing s with
  | nil => rfl
  | cons c calls ih =>
      have hc := buffer_make_of_held hbuffer c
      have hrest := ih (s := (c.make s).2) (by rwa [hc])
      exact hrest.trans hc

/-- **Polls come to nothing.**  While the lock on the buffer is held, the other calls answer and do
what they would if there were no polls among them. -/
theorem makeAll_dropPolls [LogBlind β] {s' : WatchSet β} (hl : s.Alike s')
    (hbuffer : s.buffer.Refusing) (calls : List SetCall) :
    (makeAll calls s').1.filter (fun p => !p.1.isPoll) = (makeAll (dropPolls calls) s).1 ∧
      (makeAll (dropPolls calls) s).2.Alike (makeAll calls s').2 := by
  induction calls generalizing s s' with
  | nil => exact ⟨rfl, hl⟩
  | cons c calls ih =>
      have hbuffer' : s'.buffer = s.buffer := by
        obtain ⟨log, rfl⟩ := hl
        rfl
      cases hc : c.isPoll with
      | true =>
          have hmake := make_poll_of_held (s := s') (by rwa [hbuffer']) hc
          have hrest := ih (hl.trans (WatchSet.alike_notes c.line?.toList s')) hbuffer
          simp only [makeAll, dropPolls, hmake, hc, List.filter_cons]
          exact hrest
      | false =>
          obtain ⟨a, t, t', ht, ht', hlt⟩ := (blind_make c s s' hl).exists
          have hsame : t.buffer = s.buffer := by
            rw [show t = (c.make s).2 by rw [ht]]
            exact buffer_make_of_held hbuffer c
          obtain ⟨hanswers, hset⟩ := ih hlt (by rwa [hsame])
          have hdrop : dropPolls (c :: calls) = c :: dropPolls calls := by
            simp [dropPolls, hc]
          rw [hdrop]
          simp only [makeAll, ht, ht']
          refine ⟨?_, hset⟩
          simp [hc, hanswers]

/-! ### Runs -/

variable {W : Host β → Host β → Prop}

/-- A call is a run that leaves the calls in progress as they were. -/
theorem realized_make (c : SetCall) : Realized W fun s => (c.make s).2 := by
  let nobody : Option (WatchSet β → Unit × WatchSet β) := none
  have hnobody : Realized W (leftBy nobody) := realized_id
  cases c with
  | add | addWithId => exact realized_add _ _ _ hnobody
  | remove d => exact realized_remove d hnobody
  | poll events timeout => exact realized_poll events timeout hnobody
  | len | isEmpty | stats => exact realized_id

theorem realized_makeAll (calls : List SetCall) : Realized W fun s => (makeAll calls s).2 := by
  induction calls with
  | nil => exact realized_id
  | cons c calls ih => exact ih.comp (realized_make c)

end

end SetCall

end Readiness
