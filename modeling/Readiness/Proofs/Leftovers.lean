import Readiness.Proofs.Registry
import Readiness.Proofs.Scenes

/-! # Registrations that are left behind

A registration outlives its record if the facility does not manage to delete it.  Here every
registration is accounted for at every moment of a run, also between the turns of a change.

* **Left behind** (`Label.LeavesBehind`).  The turns and ends of changes after which a registration
  may be there that belongs to no addition: a rollback or a deletion that failed or was not carried
  out, and a watch that was given up.  Without them nothing is left behind (`not_leftBehind`).
* **Half-way** (`Midway`).  While a watch is in progress there may be registrations for its addition,
  provided that it cannot fail any more, or that it registers more than one filter.
* **Tracks** (`Tracks`).  What is left of a change keeps to that in each of its turns, and when it has
  returned there are only registrations for the additions that its end will leave.
* **Accounts** (`Scene.Accounted`).  So every registration is one for an addition that is active, or
  about to be, or its tag was left behind. -/

namespace Readiness

open Registry

/-- Registrations that carry a tag. -/
class TaggedRegistry (β : Type) [Registry β] where
  tag : Entry β → Tag
  tag_wanted : ∀ x : Addition, ∀ e ∈ wanted (β := β) x, tag e = x.tag

open TaggedRegistry

variable {β : Type}

/-! ### Changes that were answered -/

section

variable {added : List Addition} {x : Addition} {outcome : Outcome SystemError Unit}

/-- What may be registered when the facility has answered to a change, until the change ends. -/
def Change.pending : Change → Outcome SystemError Unit → List Addition → List Addition
  | adding _, .failed _, added => added
  | adding x, _, added => added ++ [x]
  | removing _ _ (some j), .done (), added => added.filter (·.tag.index ≠ j)
  | removing .., _, added => added

theorem Change.mem_pending_adding {y : Addition} (hy : y ∈ added) :
    y ∈ (adding x).pending outcome added := by
  cases outcome with
  | failed cause => exact hy
  | done _ | halted _ => exact List.mem_append_left _ hy

end

variable [Registry β]

/-! ### What is left behind -/

namespace Label

/-- A registration with this tag may be there after a step although its record is not active. -/
def LeavesBehind (added : List Addition) (t : Tag) : Label β → Prop
  | worked (.adding x) before after =>
    x.tag = t ∧ ¬ (Honoured β before.kernel after.kernel ∧
      after.rollbackFailures = before.rollbackFailures)
  | worked (.removing _ _ (some j)) before after =>
    (∃ x ∈ added, x.tag.index = j ∧ x.tag = t) ∧ ¬ Honoured β before.kernel after.kernel
  | ended (.adding x) (.halted _) => x.tag = t
  | ended (.removing _ _ (some j)) (.failed _) => ∃ x ∈ added, x.tag.index = j ∧ x.tag = t
  | _ => False

/-- The end of a change drops what it does not leave active; that was left behind. -/
theorem mem_tell_of_pending {left : Tag → Prop} {c : Change} {outcome : Outcome SystemError Unit}
    {added : List Addition}
    (hleft : ∀ t, (ended (β := β) c outcome).LeavesBehind added t → left t) :
    ∀ x ∈ c.pending outcome added, x ∈ c.tell outcome added ∨ left x.tag := by
  intro y hy
  cases c with
  | adding x =>
      cases outcome with
      | done _ | failed _ => exact .inl hy
      | halted cause =>
          rcases List.mem_append.mp hy with hy | hy
          · exact .inl hy
          · obtain rfl := List.mem_singleton.mp hy
            exact .inr (hleft _ rfl)
  | removing d i found =>
      cases found with
      | none => cases outcome <;> exact .inl hy
      | some j =>
          cases outcome with
          | done _ | halted _ => exact .inl hy
          | failed cause =>
              by_cases hj : y.tag.index = j
              · exact .inr (hleft _ ⟨y, hy, hj, rfl⟩)
              · exact .inl (List.mem_filter.mpr ⟨hy, decide_eq_true hj⟩)

end Label

/-- One of the steps, beginning with some additions, leaves a registration with this tag behind. -/
def LeftBehind (t : Tag) : List Addition → List (Label β) → Prop
  | _, [] => False
  | added, a :: L => a.LeavesBehind added t ∨ LeftBehind t (a.tell added) L

theorem leftBehind_append {t : Tag} {added : List Addition} {L L' : List (Label β)} :
    LeftBehind t added (L ++ L') ↔
      LeftBehind t added L ∨ LeftBehind t (L.foldl (fun added a => a.tell added) added) L' := by
  induction L generalizing added with
  | nil => exact (or_iff_right id).symm
  | cons a L ih => exact (or_congr_right ih).trans or_assoc.symm

namespace Label

/-- Only a step that is not fine or not clean leaves a registration behind. -/
theorem not_leavesBehind {a : Label β} {added : List Addition} {t : Tag} (hfine : a.Fine)
    (hclean : a.Clean) : ¬ a.LeavesBehind added t := by
  intro h
  cases a with
  | worked c before after =>
      cases c with
      | adding x => exact h.2 ⟨hfine, hclean⟩
      | removing d i found =>
          cases found with
          | none => exact h
          | some j => exact h.2 hfine
  | ended c outcome =>
      cases c with
      | adding x =>
          cases outcome with
          | done _ | failed _ => exact h
          | halted cause => cases hfine
      | removing d i found =>
          cases found with
          | none => cases outcome <;> exact h
          | some j =>
              obtain rfl : outcome = .done () := hclean
              exact h
  | _ => exact h

end Label

/-- A run that is fine and clean leaves nothing behind. -/
theorem not_leftBehind {t : Tag} {added : List Addition} {L : List (Label β)}
    (hL : ∀ a ∈ L, a.Fine ∧ a.Clean) : ¬ LeftBehind t added L := by
  induction L generalizing added with
  | nil => exact id
  | cons a L ih =>
      obtain ⟨⟨hfine, hclean⟩, hrest⟩ := List.forall_mem_cons.mp hL
      rintro (h | h)
      · exact Label.not_leavesBehind hfine hclean h
      · exact ih hrest h

/-! ### Accounts -/

section

variable [TaggedRegistry β]

/-- No two registrations are in the same slot, and each one is for an addition or was left
behind. -/
def Accounts (left : Tag → Prop) (E : List (Entry β)) (added : List Addition) : Prop :=
  (E.map slot).Nodup ∧ ∀ e ∈ E, (∃ x ∈ added, e ∈ wanted x) ∨ left (tag e)

/-- The call does not fail any more, whatever others do. -/
def Strand.Succeeds (p : Strand (Host β) (Outcome SystemError Unit)) : Prop :=
  p.Does (fun _ => True) (fun _ _ => True) fun outcome => ∀ cause, outcome ≠ .failed cause

/-- While a change is in progress there may also be registrations for the addition that it makes, if it
does not fail any more, or if it makes more than one. -/
def Midway (left : Tag → Prop) (c : Change) (added : List Addition)
    (p : Strand (Host β) (Outcome SystemError Unit)) (E : List (Entry β)) : Prop :=
  (E.map slot).Nodup ∧ ∀ e ∈ E, (∃ x ∈ added, e ∈ wanted x) ∨ left (tag e) ∨
    ∃ x, c = .adding x ∧ e ∈ wanted x ∧ (1 < (wanted (β := β) x).length ∨ p.Succeeds)

/-- What is left of a change takes its turns so that the registrations stay accounted for, from `E` or
from some of it, as long as all that its turns leave behind is counted as such. -/
def Tracks (left : Tag → Prop) (c : Change) (added : List Addition) :
    Strand (Host β) (Outcome SystemError Unit) → List (Entry β) → Prop
  | .returned outcome, E => Accounts left E (c.pending outcome added)
  | .turn next after, E => Midway left c added (.turn next after) E ∧
      ∀ g : Host β, g.entries.Sublist E →
        (∀ t, (Label.worked c g (after g)).LeavesBehind added t → left t) →
          Tracks left c added (next g) (after g).entries

/-- The tags of the registrations. -/
def Host.tags (h : Host β) : List Tag := h.entries.map tag

/-- The tags of the events in a buffer have a property. -/
def NativeBuffer.Cites (b : NativeBuffer) (P : Tag → Prop) : Prop := ∀ e ∈ b.reported, P e.tag

/-- The tags that a round of a wait returns have a property, or are those of registrations that are
there in one of its turns. -/
def Strand.Cites (Quiet : Host β → Prop) (P : Tag → Prop) :
    Strand (Host β) (Option (Outcome SystemError Unit) × NativeBuffer) → Prop
  | returned result => result.2.Cites P
  | turn next _ => ∀ g, Quiet g → Cites Quiet (fun t => P t ∨ t ∈ g.tags) (next g)

theorem Strand.Cites.mono {Quiet : Host β → Prop} {P P' : Tag → Prop}
    {p : Strand (Host β) (Option (Outcome SystemError Unit) × NativeBuffer)}
    (h : p.Cites Quiet P) (hP : ∀ t, P t → P' t) : p.Cites Quiet P' := by
  induction p generalizing P P' with
  | returned result => exact fun e he => hP _ (h e he)
  | turn next after ih => exact fun g hg => ih g (h g hg) fun t => Or.imp_left (hP t)

/-- A facility whose changes keep track of the registrations, and whose waits only return tags of
registrations as long as the host is quiet.  Waits leave the registrations alone, and closing makes
none. -/
class TracedTurns (β : Type) [Registry β] [TaggedRegistry β] [Turns β] where
  Quiet : Host β → Prop
  native : ∀ h h' : Host β, h'.facility = h.facility → h'.kernel = h.kernel → Quiet h → Quiet h'
  tracks : ∀ (left : Tag → Prop) (c : Change) (added : List Addition) (h : Host β),
    c.Sound added → (added.map (·.descriptor.fd)).Nodup → Accounts left h.entries added →
      Tracks left c added (c.turns h) h.entries
  cites : ∀ (b : NativeBuffer) (timeout : Option Duration) (h : Host β),
    (Turns.wait b timeout h).Cites Quiet fun _ => False
  change : ∀ (c : Change) (h : Host β),
    (c.turns h).Does Quiet (fun _ g => Quiet g) fun _ => True
  wait : ∀ (b : NativeBuffer) (timeout : Option Duration) (h : Host β),
    (Turns.wait b timeout h).Does Quiet (fun g g' => g'.entries = g.entries ∧ Quiet g')
      fun _ => True
  close : (Turns.close (β := β)).Does Quiet
    (fun g g' => g'.entries.Sublist g.entries ∧ Quiet g') fun _ => True

variable {left : Tag → Prop} {E E' : List (Entry β)} {added added' : List Addition} {x : Addition}
  {c : Change} {d : Descriptor} {i : Interests} {found : Option UInt32}
  {outcome : Outcome SystemError Unit} {p : Strand (Host β) (Outcome SystemError Unit)}

theorem accounts_nil (left : Tag → Prop) (added : List Addition) :
    Accounts left ([] : List (Entry β)) added := ⟨List.nodup_nil, nofun⟩

theorem Accounts.sublist (ha : Accounts left E added) (hsub : E'.Sublist E) :
    Accounts left E' added :=
  ⟨ha.1.sublist (hsub.map slot), fun e he => ha.2 e (hsub.mem he)⟩

/-- Those of additions that are not active any more were left behind. -/
theorem Accounts.mono (ha : Accounts left E added)
    (hadded : ∀ x ∈ added, x ∈ added' ∨ left x.tag) : Accounts left E added' := by
  refine ⟨ha.1, fun e he => ?_⟩
  rcases ha.2 e he with ⟨x, hx, hex⟩ | hleft
  · rcases hadded x hx with hx' | hleft
    · exact .inl ⟨x, hx', hex⟩
    · exact .inr (tag_wanted x e hex ▸ hleft)
  · exact .inr hleft

theorem Accounts.pending_adding (ha : Accounts left E added) :
    Accounts left E ((Change.adding x).pending outcome added) :=
  ha.mono fun _ hy => .inl (Change.mem_pending_adding hy)

theorem Accounts.midway (ha : Accounts left E added) : Midway left c added p E :=
  ⟨ha.1, fun e he => (ha.2 e he).imp_right .inl⟩

theorem Midway.sublist (hm : Midway left c added p E) (hsub : E'.Sublist E) :
    Midway left c added p E' :=
  ⟨hm.1.sublist (hsub.map slot), fun e he => hm.2 e (hsub.mem he)⟩

/-- A change that was answered is half-way as well. -/
theorem Accounts.midway_of_pending (ha : Accounts left E (c.pending outcome added)) :
    Midway left c added (.returned outcome) E := by
  refine ⟨ha.1, fun e he => ?_⟩
  rcases ha.2 e he with ⟨y, hy, hey⟩ | hleft
  · cases c with
    | adding x =>
        cases outcome with
        | failed cause => exact .inl ⟨y, hy, hey⟩
        | done _ | halted _ =>
            rcases List.mem_append.mp hy with hy | hy
            · exact .inl ⟨y, hy, hey⟩
            · obtain rfl := List.mem_singleton.mp hy
              exact .inr (.inr ⟨y, rfl, hey, .inr (by rintro cause ⟨⟩)⟩)
    | removing d i found =>
        have hy : y ∈ added := by
          cases found with
          | none => cases outcome <;> exact hy
          | some j =>
              cases outcome with
              | done _ => exact (List.mem_filter.mp hy).1
              | failed _ | halted _ => exact hy
        exact .inl ⟨y, hy, hey⟩
  · exact .inr (.inl hleft)

theorem Tracks.midway (h : Tracks left c added p E) : Midway left c added p E := by
  cases p with
  | returned outcome => exact Accounts.midway_of_pending h
  | turn next after => exact h.1

theorem Tracks.sublist (h : Tracks left c added p E) (hsub : E'.Sublist E) :
    Tracks left c added p E' := by
  cases p with
  | returned outcome => exact Accounts.sublist h hsub
  | turn next after => exact ⟨h.1.sublist hsub, fun g hg => h.2 g (hg.trans hsub)⟩

/-- A turn that does not touch the registrations. -/
theorem Tracks.act {α : Type} {f : Host β → α × Host β}
    {k : α → Strand (Host β) (Outcome SystemError Unit)} (hm : Midway left c added (.act f k) E)
    (hsame : ∀ g, (f g).2.entries = g.entries)
    (hk : ∀ g, g.entries.Sublist E → Tracks left c added (k (f g).1) g.entries) :
    Tracks left c added (.act f k) E := by
  refine ⟨hm, fun g hg _ => ?_⟩
  rw [hsame]
  exact hk g hg

/-- One new registration in a slot of its own. -/
theorem Accounts.watched {e : Entry β} (ha : Accounts left E added) (hnew : ∀ e' ∈ E, slot e' ≠ slot e)
    (hex : e ∈ wanted x) : Accounts left (E ++ [e]) (added ++ [x]) := by
  refine ⟨?_, fun e' he' => ?_⟩
  · rw [List.map_append]
    refine List.nodup_append.mpr ⟨ha.1, List.nodup_singleton _, ?_⟩
    intro s hs s' hs' hss
    obtain ⟨e', he', rfl⟩ := List.mem_map.mp hs
    obtain rfl := List.mem_singleton.mp hs'
    exact hnew e' he' hss
  · rcases List.mem_append.mp he' with he' | he'
    · exact (ha.2 e' he').imp_left fun ⟨y, hy, hey⟩ => ⟨y, List.mem_append_left _ hy, hey⟩
    · obtain rfl := List.mem_singleton.mp he'
      exact .inl ⟨x, List.mem_append_right _ List.mem_cons_self, hex⟩

/-- Unwatching leaves registrations of the same additions, if a registration that it changes is none
for just these interests. -/
theorem Accounts.unwatched (hfd : ∀ x : Addition, ∀ e ∈ wanted (β := β) x, fd e = x.descriptor.fd)
    (ha : Accounts left E added) (hapart : (E'.map slot).Nodup)
    (hsound : (Change.removing d i found).Sound added)
    (hdistinct : (added.map (·.descriptor.fd)).Nodup)
    (horigin : ∀ e ∈ E', e ∈ E ∨ ∃ e₀ ∈ E, fd e₀ = d.fd ∧ tag e₀ = tag e ∧
      ∀ x : Addition, x.interests = i → e₀ ∉ wanted x) : Accounts left E' added := by
  refine ⟨hapart, fun e he => ?_⟩
  rcases horigin e he with hmem | ⟨e₀, hmem, hd, htag, hother⟩
  · exact ha.2 e hmem
  · rcases ha.2 e₀ hmem with ⟨y, hy, hey⟩ | hleft
    · have hyd : y.descriptor.fd = d.fd := (hfd y e₀ hey).symm.trans hd
      cases found with
      | none => exact absurd hyd (hsound.2 y hy)
      | some j =>
          obtain ⟨x, hx, hd, hi, -⟩ := hsound
          obtain rfl : y = x := by
            by_contra hne
            exact fd_ne_of_ne hdistinct hx hy hne (hyd.trans hd.symm)
          exact absurd hey (hother y hi)
    · exact .inr (htag ▸ hleft)

/-- Unwatching has succeeded if nothing is registered for the addition any more, unless it was left
behind. -/
theorem Accounts.pending_removing (ha : Accounts left E added)
    (hsound : (Change.removing d i found).Sound added)
    (hgone : outcome = .done () → ∀ x ∈ added, found = some x.tag.index →
      x.descriptor.fd = d.fd → x.interests = i → ∀ e ∈ E, e ∈ wanted x → left x.tag) :
    Accounts left E ((Change.removing d i found).pending outcome added) := by
  cases found with
  | none => cases outcome <;> exact ha
  | some j =>
      cases outcome with
      | failed _ | halted _ => exact ha
      | done value =>
          obtain ⟨x, hx, hd, hi, hunique⟩ := hsound
          refine ⟨ha.1, fun e he => ?_⟩
          rcases ha.2 e he with ⟨y, hy, hey⟩ | hleft
          · by_cases hj : y.tag.index = j
            · obtain rfl := (hunique y hy).mp hj
              exact .inr (tag_wanted y e hey ▸ hgone rfl y hy (congrArg some hj.symm) hd hi e he hey)
            · exact .inl ⟨y, List.mem_filter.mpr ⟨hy, decide_eq_true hj⟩, hey⟩
          · exact .inr hleft

namespace Scene

variable {v v' : Scene β}

/-- The registrations are accounted for, and the change in progress keeps track of them. -/
def Accounted (left : Tag → Prop) (v : Scene β) : Prop :=
  match v.change with
  | some (c, some task) => Tracks left c v.roster.added task.strand v.set.host.entries
  | _ => Accounts left v.set.host.entries v.roster.added

theorem accounted_iff_of_idle (hidle : v.change.bind Prod.snd = none) :
    v.Accounted left ↔ Accounts left v.set.host.entries v.roster.added := by
  unfold Accounted
  cases hc : v.change with
  | none => exact Iff.rfl
  | some c =>
      obtain ⟨c, task | _⟩ := c
      · exact Iff.rfl
      · rw [hc] at hidle
        cases hidle

/-- A step that changes neither the additions nor the change in progress, and makes no
registration. -/
theorem Accounted.congr (h : v.Accounted left)
    (hsub : v'.set.host.entries.Sublist v.set.host.entries)
    (hadded : v'.roster.added = v.roster.added) (hchange : v'.change = v.change) :
    v'.Accounted left := by
  unfold Accounted at h ⊢
  rw [hchange, hadded]
  split at h
  · exact h.sublist hsub
  · exact h.sublist hsub

theorem accounted_start [Facility β] {host : Host β} (hempty : host.entries = []) (capacity : Nat)
    (threadSafe : Bool) : (start host capacity threadSafe).Accounted left := by
  show Accounts left host.entries _
  rw [hempty]
  exact accounts_nil _ _

variable [Turns β] [TracedTurns β]

open TracedTurns

/-- The host is quiet and the calls in progress leave it so.  The wait leaves the registrations alone,
and the closing makes none. -/
structure Restful (v : Scene β) : Prop where
  quiet : Quiet v.set.host
  ruled : v.Ruled Quiet (fun c g g' => (c = none → g'.entries = g.entries) ∧ Quiet g')
    (fun _ _ => True) (fun _ => True) 0
  closing : ∀ p, v.closing = some p →
    p.Does Quiet (fun g g' => g'.entries.Sublist g.entries ∧ Quiet g') fun _ => True

/-- Others may change the host as they like, as long as they leave the registrations alone and the host
quiet. -/
def Calm (h h' : Host β) : Prop := h'.entries = h.entries ∧ (Quiet h → Quiet h')

variable {a : Act β} {A : List (Act β)} {l : RosterLists}

theorem rules_restful : Rules (β := β) Quiet
    (fun c g g' => (c = none → g'.entries = g.entries) ∧ Quiet g') (fun _ _ => True)
    fun _ => True where
  change c h _ := (TracedTurns.change c h).mono (fun _ => id) (fun _ _ hq => ⟨nofun, hq⟩) fun _ => id
  wait b timeout h _ := (TracedTurns.wait b timeout h).mono (fun _ => id)
    (fun _ _ hq => ⟨fun _ => hq.1, hq.2⟩) fun _ => id
  timeUp _ := id

theorem Restful.step (h : v.Restful) (hs : Step Calm v a v') : v'.Restful := by
  have hclosing : ∀ p, v'.closing = some p →
      p.Does Quiet (fun g g' => g'.entries.Sublist g.entries ∧ Quiet g') fun _ => True := by
    rcases hs.destroying with ⟨hsame, -⟩ | ⟨-, -, rfl⟩ | ⟨next, after, hc, -, rfl⟩ |
      ⟨outcome, -, -, rfl⟩
    · exact hsame ▸ h.closing
    · rintro p ⟨⟩
      exact TracedTurns.close
    · rintro p ⟨⟩
      exact (h.closing _ hc _ h.quiet).2
    · exact nofun
  refine ⟨?_, h.ruled.step rules_restful h.quiet hs, hclosing⟩
  rcases hs.host with hturn | ⟨-, hnative | hw⟩
  · cases a with
    | turned serial c before after =>
        obtain ⟨rfl, rfl⟩ := Prod.mk.inj (Option.some.inj hturn)
        exact (h.ruled.turned h.quiet hs (Nat.zero_le _)).2
    | closing before after =>
        cases hs with
        | turnClosing hc => exact (h.closing _ hc _ h.quiet).1.2
    | part | called => cases hturn
  · obtain ⟨hfacility, hkernel⟩ := WatchSet.host_of_native hnative
    exact native _ _ hfacility hkernel h.quiet
  · exact hw.2 h.quiet

/-- **One step.**  The registrations stay accounted for. -/
theorem Accounted.step (hm : v.moment.Shows l) (hrest : v.Restful) (h : v.Accounted left)
    (hs : Step Calm v a v')
    (hleft : ∀ t, a.label.LeavesBehind v.roster.added t → left t) : v'.Accounted left := by
  obtain ⟨l', hstep⟩ := hm.moves hs.moves
  have hadded : v'.roster.added = a.label.tell v.roster.added := hstep.added
  cases hs with
  | world hw => exact h.congr (hw.1 ▸ .refl _) rfl rfl
  | refuseAdd | refuseRemove | refusePoll | refuseDestroy | callWait | waitAgain | timeUp
  | beginDestroy => exact h.congr (.refl _) rfl rfl
  | beginAdd d i id hb =>
      obtain ⟨hfree, -, -, roster, -, rfl⟩ := WatchSet.beginAdd_eq_ok hb
      have hnone : v.change = none := Option.map_eq_none_iff.mp (hm.change_eq_none hfree)
      refine (accounted_iff_of_idle rfl).mpr ?_
      rw [hadded]
      exact (accounted_iff_of_idle (by rw [hnone]; rfl)).mp h
  | beginRemove d hb =>
      obtain ⟨hfree, -, -, rfl⟩ := WatchSet.beginRemove_eq_ok hb
      have hnone : v.change = none := Option.map_eq_none_iff.mp (hm.change_eq_none hfree)
      refine (accounted_iff_of_idle rfl).mpr ?_
      exact (accounted_iff_of_idle (v := v) (by rw [hnone]; rfl)).mp h
  | @callChange c hc =>
      exact tracks left c _ _ (hm.sound (by rw [moment, hc]; rfl)) hm.distinct
        ((accounted_iff_of_idle (by rw [hc]; rfl)).mp h)
  | turnChange hc =>
      rw [Accounted, hc] at h
      exact h.2 _ (.refl _) hleft
  | @endChange c serial outcome hc =>
      rw [Accounted, hc] at h
      have hentries := Moment.entries_of_native (c.native_finish outcome v.set)
      refine (accounted_iff_of_idle rfl).mpr ?_
      rw [hadded, hentries]
      exact Accounts.mono h (Label.mem_tell_of_pending hleft)
  | beginPoll timeout hb =>
      obtain ⟨-, -, -, rfl⟩ := WatchSet.beginPoll_eq_ok hb
      exact h.congr (.refl _) hadded rfl
  | turnWait hp =>
      have hsame := (hrest.ruled.poll _ _ _ _ _ hp (Nat.zero_le _) v.set.host hrest.quiet).1.1 rfl
      exact h.congr (hsame ▸ .refl _) rfl rfl
  | endPoll hp he =>
      exact h.congr (Moment.entries_of_native (WatchSet.finishPoll_eq he).1 ▸ .refl _) hadded rfl
  | turnClosing hc => exact h.congr (hrest.closing _ hc _ hrest.quiet).1.1 rfl rfl
  | @endDestroy outcome hc => cases outcome <;> exact h.congr (.refl _) rfl rfl

/-- **A run.**  With all that the run leaves behind, the registrations stay accounted for. -/
theorem Accounted.run (hm : v.moment.Shows l) (hrest : v.Restful) (h : v.Accounted left)
    (hr : Run Calm v A v')
    (hleft : ∀ t, LeftBehind t v.roster.added (A.map Act.label) → left t) :
    v'.Accounted left ∧ v'.Restful := by
  induction hr generalizing l with
  | refl v => exact ⟨h, hrest⟩
  | @step v v₁ v₂ a A hs _ ih =>
      obtain ⟨l', hstep⟩ := hm.moves hs.moves
      refine ih hstep.shows (hrest.step hs)
        (h.step hm hrest hs fun t ht => hleft t (.inl ht)) fun t ht => hleft t (.inr ?_)
      rwa [show v₁.roster.added = _ from hstep.added] at ht

end Scene

end

end Readiness
