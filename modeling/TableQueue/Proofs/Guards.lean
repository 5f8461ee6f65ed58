import TableQueue.Proofs.World.Registry

/-!
# Calls held by guards

A call is to be followed until its guard is let go of. The registry does not know guards, only names:
an opening overwrites the entry of the worker, and whichever of its guards goes takes the entry
along. So the entry stands for the last that happened to the guards of a worker. Nobody is listed
without a guard that has been held for longer than the age. The list is complete as long as no guard
is opened for a worker that still holds one, and where two crews with workers of the same names share
a registry it need not be. Guards go by numbers here, and a number that is used again lets go of the
guard that had it.
-/

namespace TableQueue.Health

variable {start since since' : Instant} {history past : List Event} {event : Event}
  {guard guard' : Nat} {worker worker' name : String} {age : Span}

/-! ## What a history says about guards -/

namespace Event

def guard? : Event → Option Nat
  | .call _ guard | .drop guard => some guard
  | .advance _ | .since _ => none

def worker? : Event → Option String
  | .call worker _ => some worker
  | .drop _ | .advance _ | .since _ => none

end Event

def clock (start : Instant) : List Event → Instant
  | [] => start
  | .advance span :: past => (clock start past).after span
  | .call .. :: past | .drop _ :: past | .since _ :: past => clock start past

/-- A guard is held that was opened for a worker at an instant: nothing has happened under its number
since. -/
def IsHeld (start : Instant) (history : List Event) (guard : Nat) (worker : String)
    (since : Instant) : Prop :=
  ∃ later past, history = later ++ .call worker guard :: past ∧ since = clock start past ∧
    ∀ event ∈ later, event.guard? ≠ some guard

def HoldsLonger (start : Instant) (history : List Event) (worker : String) (age : Span) : Prop :=
  ∃ guard since, IsHeld start history guard worker since ∧ age < (clock start history).since since

def LetsGo (start : Instant) (past : List Event) (event : Event) (worker : String) : Prop :=
  ∃ guard since, event.guard? = some guard ∧ IsHeld start past guard worker since

/-- The last that happened to the guards of a worker: one was opened at an instant, or one was let go
of. -/
inductive Latest (start : Instant) : List Event → String → Option Instant → Prop where
  | opened {past : List Event} {event : Event} {worker : String} :
      event.worker? = some worker → ¬ LetsGo start past event worker →
      Latest start (event :: past) worker (some (clock start past))
  | letGo {past : List Event} {event : Event} {worker : String} :
      LetsGo start past event worker → Latest start (event :: past) worker none
  | earlier {past : List Event} {event : Event} {worker : String} {latest : Option Instant} :
      event.worker? ≠ some worker → ¬ LetsGo start past event worker →
      Latest start past worker latest → Latest start (event :: past) worker latest

def IsOverlapped (start : Instant) (history : List Event) (worker : String) : Prop :=
  ∃ later event past, history = later ++ event :: past ∧ event.worker? = some worker ∧
    ∃ guard since, IsHeld start past guard worker since

/-- Whether a guard is held is decided by the latest event under its number. -/
theorem isHeld_cons : IsHeld start (event :: history) guard worker since ↔
    event = .call worker guard ∧ since = clock start history ∨
      event.guard? ≠ some guard ∧ IsHeld start history guard worker since := by
  constructor
  · rintro ⟨later, past, heq, hsince, hlater⟩
    cases later with
    | nil =>
      obtain ⟨rfl, rfl⟩ := List.cons.inj heq
      exact .inl ⟨rfl, hsince⟩
    | cons latest rest =>
      obtain ⟨rfl, hrest⟩ := List.cons.inj heq
      exact .inr ⟨hlater _ List.mem_cons_self, rest, past, hrest, hsince,
        fun other hother ↦ hlater other (List.mem_cons_of_mem _ hother)⟩
  · rintro (⟨rfl, hsince⟩ | ⟨hguard, later, past, rfl, hsince, hlater⟩)
    · exact ⟨[], history, rfl, hsince, fun _ hnone ↦ absurd hnone List.not_mem_nil⟩
    · exact ⟨event :: later, past, rfl, hsince, List.forall_mem_cons.2 ⟨hguard, hlater⟩⟩

theorem not_isHeld_nil : ¬ IsHeld start [] guard worker since := by
  rintro ⟨later, past, heq, -⟩
  exact List.append_ne_nil_of_right_ne_nil later (List.cons_ne_nil _ past) heq.symm

/-- A number belongs to at most one guard. -/
theorem IsHeld.unique (h : IsHeld start history guard worker since)
    (h' : IsHeld start history guard worker' since') : worker = worker' ∧ since = since' := by
  induction history with
  | nil => exact absurd h not_isHeld_nil
  | cons event history ih =>
    rcases isHeld_cons.1 h with ⟨rfl, rfl⟩ | ⟨hguard, hheld⟩
    · rcases isHeld_cons.1 h' with ⟨heq, rfl⟩ | ⟨hguard', -⟩
      · exact ⟨(Event.call.inj heq).1, rfl⟩
      · exact absurd rfl hguard'
    · rcases isHeld_cons.1 h' with ⟨rfl, -⟩ | ⟨-, hheld'⟩
      · exact absurd rfl hguard
      · exact ih hheld hheld'

/-- An event lets go of a guard of a worker if its number is that of the guard. -/
theorem letsGo_iff (hguard : event.guard? = some guard) :
    LetsGo start past event worker ↔ ∃ since, IsHeld start past guard worker since := by
  constructor
  · rintro ⟨other, since, hother, hheld⟩
    obtain rfl : other = guard := Option.some.inj (hother.symm.trans hguard)
    exact ⟨since, hheld⟩
  · rintro ⟨since, hheld⟩
    exact ⟨guard, since, hguard, hheld⟩

theorem not_letsGo_of_guard? (hguard : event.guard? = none) : ¬ LetsGo start past event worker := by
  rintro ⟨guard, since, hother, -⟩
  exact Option.some_ne_none guard (hother.symm.trans hguard)

/-! ## The last that happened -/

theorem latest_cons_some : Latest start (event :: past) worker (some since) ↔
    ¬ LetsGo start past event worker ∧ (event.worker? = some worker ∧ since = clock start past ∨
      event.worker? ≠ some worker ∧ Latest start past worker (some since)) := by
  constructor
  · intro h
    cases h with
    | opened hworker hkept => exact ⟨hkept, .inl ⟨hworker, rfl⟩⟩
    | earlier hworker hkept hlatest => exact ⟨hkept, .inr ⟨hworker, hlatest⟩⟩
  · rintro ⟨hkept, ⟨hworker, rfl⟩ | ⟨hworker, hlatest⟩⟩
    · exact .opened hworker hkept
    · exact .earlier hworker hkept hlatest

/-- What last happened to the guards of a worker is determined. -/
theorem Latest.unique {latest latest' : Option Instant} (h : Latest start history worker latest)
    (h' : Latest start history worker latest') : latest = latest' := by
  induction h with
  | opened hworker hkept =>
    cases h' with
    | opened => rfl
    | letGo hgone => exact absurd hgone hkept
    | earlier hother => exact absurd hworker hother
  | letGo hgone =>
    cases h' with
    | opened _ hkept | earlier _ hkept => exact absurd hgone hkept
    | letGo => rfl
  | earlier hother hkept _ ih =>
    cases h' with
    | opened hworker => exact absurd hworker hother
    | letGo hgone => exact absurd hgone hkept
    | earlier _ _ hlatest => exact ih hlatest

/-- The guard that was opened last is still held if none has been let go of since. -/
theorem Latest.exists_isHeld (h : Latest start history worker (some since)) :
    ∃ guard, IsHeld start history guard worker since := by
  induction history with
  | nil => cases h
  | cons event history ih =>
    obtain ⟨hkept, ⟨hworker, rfl⟩ | ⟨-, hlatest⟩⟩ := latest_cons_some.1 h
    · cases event with
      | call other guard =>
        obtain rfl := Option.some.inj hworker
        exact ⟨guard, isHeld_cons.2 (.inl ⟨rfl, rfl⟩)⟩
      | drop | advance | since => cases hworker
    · obtain ⟨guard, hheld⟩ := ih hlatest
      refine ⟨guard, isHeld_cons.2 (.inr ⟨fun hguard ↦ hkept ?_, hheld⟩)⟩
      exact ⟨guard, since, hguard, hheld⟩

/-- Something has happened to the guards of a worker that holds one. -/
theorem IsHeld.exists_latest (h : IsHeld start history guard worker since) :
    ∃ latest, Latest start history worker latest := by
  induction history with
  | nil => exact absurd h not_isHeld_nil
  | cons event history ih =>
    by_cases hgone : LetsGo start history event worker
    · exact ⟨none, .letGo hgone⟩
    · by_cases hworker : event.worker? = some worker
      · exact ⟨_, .opened hworker hgone⟩
      · rcases isHeld_cons.1 h with ⟨rfl, -⟩ | ⟨-, hheld⟩
        · exact absurd rfl hworker
        · obtain ⟨latest, hlatest⟩ := ih hheld
          exact ⟨latest, .earlier hworker hgone hlatest⟩

/-! ## Guards that do not overlap -/

theorem isOverlapped_cons : IsOverlapped start (event :: history) worker ↔
    event.worker? = some worker ∧ (∃ guard since, IsHeld start history guard worker since) ∨
      IsOverlapped start history worker := by
  constructor
  · rintro ⟨later, opening, past, heq, hworker, hheld⟩
    cases later with
    | nil =>
      obtain ⟨rfl, rfl⟩ := List.cons.inj heq
      exact .inl ⟨hworker, hheld⟩
    | cons latest rest =>
      obtain ⟨-, hrest⟩ := List.cons.inj heq
      exact .inr ⟨rest, opening, past, hrest, hworker, hheld⟩
  · rintro (⟨hworker, hheld⟩ | ⟨later, opening, past, rfl, hworker, hheld⟩)
    · exact ⟨[], event, history, rfl, hworker, hheld⟩
    · exact ⟨event :: later, opening, past, rfl, hworker, hheld⟩

theorem not_isOverlapped_nil : ¬ IsOverlapped start [] worker := by
  rintro ⟨later, opening, past, heq, -⟩
  exact List.append_ne_nil_of_right_ne_nil later (List.cons_ne_nil opening past) heq.symm

/-- Without overlaps a worker holds one guard at a time. -/
theorem IsHeld.eq_of_not_isOverlapped (halone : ¬ IsOverlapped start history worker)
    (h : IsHeld start history guard worker since)
    (h' : IsHeld start history guard' worker since') : guard = guard' := by
  induction history with
  | nil => exact absurd h not_isHeld_nil
  | cons event history ih =>
    obtain ⟨hfirst, hbefore⟩ := not_or.1 (mt isOverlapped_cons.2 halone)
    rcases isHeld_cons.1 h with ⟨rfl, -⟩ | ⟨-, hheld⟩
    · rcases isHeld_cons.1 h' with ⟨heq, -⟩ | ⟨-, hheld'⟩
      · exact (Event.call.inj heq).2
      · exact absurd ⟨rfl, guard', since', hheld'⟩ hfirst
    · rcases isHeld_cons.1 h' with ⟨rfl, -⟩ | ⟨-, hheld'⟩
      · exact absurd ⟨rfl, guard, since, hheld⟩ hfirst
      · exact ih hbefore hheld hheld'

/-- Without overlaps the guard that a worker holds is the last that happened. -/
theorem IsHeld.latest (halone : ¬ IsOverlapped start history worker)
    (h : IsHeld start history guard worker since) :
    Latest start history worker (some since) := by
  induction history with
  | nil => exact absurd h not_isHeld_nil
  | cons event history ih =>
    obtain ⟨hfirst, hbefore⟩ := not_or.1 (mt isOverlapped_cons.2 halone)
    apply latest_cons_some.2
    rcases isHeld_cons.1 h with ⟨rfl, rfl⟩ | ⟨hguard, hheld⟩
    · refine ⟨?_, .inl ⟨rfl, rfl⟩⟩
      rintro ⟨other, since, -, hheld⟩
      exact hfirst ⟨rfl, other, since, hheld⟩
    · refine ⟨?_, .inr ⟨fun hworker ↦ hfirst ⟨hworker, guard, since, hheld⟩, ih hbefore hheld⟩⟩
      rintro ⟨other, since', hother, hheld'⟩
      obtain rfl := hheld.eq_of_not_isOverlapped hbefore hheld'
      exact hguard hother

/-! ## What the registry makes of it -/

namespace Timeline

variable {timeline : Timeline}

def ofThreshold (threshold : Span) (start : Instant) : Timeline :=
  ⟨Health.ofThreshold threshold, [], start⟩

def after (timeline : Timeline) (history : List Event) : Timeline :=
  history.foldr (fun event timeline ↦ (timeline.step event).1) timeline

/-- A timeline agrees with a history: it has the guards that are held, and an entry for every worker
for whom the last that happened was an opening. -/
structure Agrees (start : Instant) (timeline : Timeline) (history : List Event) : Prop where
  now_eq : timeline.now = clock start history
  mem_guards : ∀ guard worker since,
    (guard, worker, since) ∈ timeline.guards ↔ IsHeld start history guard worker since
  mem_entries : ∀ worker since,
    (worker, since) ∈ timeline.health.entries worker ↔ Latest start history worker (some since)
  length_entries_le : ∀ worker, (timeline.health.entries worker).length ≤ 1

theorem agrees_ofThreshold (threshold : Span) (start : Instant) :
    (ofThreshold threshold start).Agrees start [] where
  now_eq := rfl
  mem_guards guard worker since := by
    constructor
    · intro hmem
      exact absurd hmem List.not_mem_nil
    · intro hheld
      exact absurd hheld not_isHeld_nil
  mem_entries worker since := by
    constructor
    · intro hmem
      exact absurd hmem List.not_mem_nil
    · intro hlatest
      cases hlatest
  length_entries_le _ := Nat.zero_le 1

/-- A guard that is let go of takes the entry of its worker along. -/
theorem drop_cases (timeline : Timeline) (guard : Nat) :
    (∀ worker since, (guard, worker, since) ∉ timeline.guards) ∧ timeline.drop guard = timeline ∨
    ∃ worker since, (guard, worker, since) ∈ timeline.guards ∧ timeline.drop guard =
      { timeline with
        health := timeline.health.finish worker
        guards := timeline.guards.filter (·.1 != guard) } := by
  unfold drop
  split
  · next hnone =>
    refine .inl ⟨fun worker since hmem ↦ ?_, rfl⟩
    simpa using List.find?_eq_none.1 hnone (guard, worker, since) hmem
  · next found worker since hfound =>
    obtain rfl : found = guard := by simpa using List.find?_some hfound
    exact .inr ⟨worker, since, List.mem_of_find?_eq_some hfound, rfl⟩

theorem mem_guards_drop (timeline : Timeline) (guard guard' : Nat) :
    (guard', worker, since) ∈ (timeline.drop guard).guards ↔
      guard' ≠ guard ∧ (guard', worker, since) ∈ timeline.guards := by
  rcases timeline.drop_cases guard with ⟨hnone, hdrop⟩ | ⟨other, begun, -, hdrop⟩
  · rw [hdrop, iff_and_self]
    rintro hmem rfl
    exact hnone worker since hmem
  · rw [hdrop, List.mem_filter, bne_iff_ne, and_comm]

theorem now_drop (timeline : Timeline) (guard : Nat) :
    (timeline.drop guard).now = timeline.now := by
  rcases timeline.drop_cases guard with ⟨-, hdrop⟩ | ⟨other, begun, -, hdrop⟩
  · rw [hdrop]
  · rw [hdrop]

namespace Agrees

theorem entries_drop_of_isHeld (h : timeline.Agrees start history)
    (hheld : IsHeld start history guard name since) (health : Health) :
    ({ timeline with health := health }.drop guard).health.entries name = [] := by
  rcases drop_cases { timeline with health := health } guard with
    ⟨hnone, -⟩ | ⟨worker, begun, hmem, hdrop⟩
  · exact absurd ((h.mem_guards guard name since).2 hheld) (hnone name since)
  · obtain ⟨hname, -⟩ := hheld.unique ((h.mem_guards guard worker begun).1 hmem)
    rw [hdrop, entries_finish, if_pos hname]

theorem entries_drop_of_not_isHeld (h : timeline.Agrees start history)
    (hfree : ∀ since, ¬ IsHeld start history guard name since) (health : Health) :
    ({ timeline with health := health }.drop guard).health.entries name = health.entries name := by
  rcases drop_cases { timeline with health := health } guard with
    ⟨-, hdrop⟩ | ⟨worker, begun, hmem, hdrop⟩
  · rw [hdrop]
  · have hheld := (h.mem_guards guard worker begun).1 hmem
    have hname : name ≠ worker := by
      rintro rfl
      exact hfree begun hheld
    rw [hdrop, entries_finish, if_neg hname]

/-- An event that lets go of a guard of a worker leaves the worker without an entry. -/
theorem entries_step_of_letsGo (h : timeline.Agrees start history)
    (hgone : LetsGo start history event name) :
    (timeline.step event).1.health.entries name = [] := by
  cases event with
  | call worker guard =>
    obtain ⟨since, hheld⟩ := (letsGo_iff rfl).1 hgone
    exact h.entries_drop_of_isHeld hheld (timeline.health.begin worker timeline.now)
  | drop guard =>
    obtain ⟨since, hheld⟩ := (letsGo_iff rfl).1 hgone
    exact h.entries_drop_of_isHeld hheld timeline.health
  | advance | since => exact absurd hgone (not_letsGo_of_guard? rfl)

/-- Any other event leaves its entry alone, unless it opens a guard for the worker. -/
theorem entries_step_of_not_letsGo (h : timeline.Agrees start history)
    (hkept : ¬ LetsGo start history event name) :
    (timeline.step event).1.health.entries name =
      if event.worker? = some name then [(name, clock start history)]
      else timeline.health.entries name := by
  cases event with
  | call worker guard =>
    have hfree : ∀ since, ¬ IsHeld start history guard name since := fun since hheld ↦
      hkept ((letsGo_iff rfl).2 ⟨since, hheld⟩)
    have hentries := h.entries_drop_of_not_isHeld hfree (timeline.health.begin worker timeline.now)
    rw [entries_begin] at hentries
    rw [← h.now_eq]
    refine hentries.trans ?_
    by_cases hname : name = worker
    · subst hname
      exact (if_pos rfl).trans (if_pos rfl).symm
    · have hother : (Event.call worker guard).worker? ≠ some name := fun hsame ↦
        hname (Option.some.inj hsame).symm
      rw [if_neg hname, if_neg hother]
  | drop guard =>
    have hfree : ∀ since, ¬ IsHeld start history guard name since := fun since hheld ↦
      hkept ((letsGo_iff rfl).2 ⟨since, hheld⟩)
    exact h.entries_drop_of_not_isHeld hfree timeline.health
  | advance | since => rfl

/-- The timeline keeps the guards that are held after an event. -/
theorem mem_guards_step (h : timeline.Agrees start history) :
    (guard, worker, since) ∈ (timeline.step event).1.guards ↔
      IsHeld start (event :: history) guard worker since := by
  rw [isHeld_cons, ← h.mem_guards]
  cases event with
  | call other opened =>
    have hstep : (timeline.step (.call other opened)).1.guards =
      ({ timeline with health := timeline.health.begin other timeline.now }.drop opened).guards ++
        [(opened, other, timeline.now)] := rfl
    rw [hstep, List.mem_append, mem_guards_drop, List.mem_singleton, h.now_eq, or_comm]
    simp only [Prod.mk.injEq, Event.call.injEq, Event.guard?, ne_eq, Option.some.injEq]
    exact or_congr ⟨fun ⟨hguard, hworker, hsince⟩ ↦ ⟨⟨hworker.symm, hguard.symm⟩, hsince⟩,
      fun ⟨⟨hworker, hguard⟩, hsince⟩ ↦ ⟨hguard.symm, hworker.symm, hsince⟩⟩
      (and_congr_left fun _ ↦ not_congr eq_comm)
  | drop other =>
    have hstep : (timeline.step (.drop other)).1.guards = (timeline.drop other).guards := rfl
    rw [hstep, mem_guards_drop]
    simp [Event.guard?, eq_comm]
  | advance | since => simp [step, Event.guard?]

theorem now_step (h : timeline.Agrees start history) (event : Event) :
    (timeline.step event).1.now = clock start (event :: history) := by
  cases event with
  | call worker guard => exact (now_drop _ guard).trans h.now_eq
  | drop guard => exact (now_drop timeline guard).trans h.now_eq
  | advance span => exact congrArg (·.after span) h.now_eq
  | since => exact h.now_eq

/-- Every event keeps timeline and history in agreement. -/
theorem step (h : timeline.Agrees start history) (event : Event) :
    (timeline.step event).1.Agrees start (event :: history) where
  now_eq := h.now_step event
  mem_guards _ _ _ := h.mem_guards_step
  mem_entries worker since := by
    rw [latest_cons_some]
    by_cases hgone : LetsGo start history event worker
    · simp [h.entries_step_of_letsGo hgone, hgone]
    · rw [h.entries_step_of_not_letsGo hgone]
      by_cases hworker : event.worker? = some worker
      · simp [hworker, hgone]
      · simp [hworker, hgone, h.mem_entries]
  length_entries_le worker := by
    by_cases hgone : LetsGo start history event worker
    · rw [h.entries_step_of_letsGo hgone]
      exact Nat.zero_le 1
    · rw [h.entries_step_of_not_letsGo hgone]
      split
      · exact Nat.le_refl 1
      · exact h.length_entries_le worker

end Agrees

/-- After any history the timeline agrees with it. -/
theorem agrees_after (threshold : Span) (start : Instant) (history : List Event) :
    ((ofThreshold threshold start).after history).Agrees start history := by
  induction history with
  | nil => exact agrees_ofThreshold threshold start
  | cons event history ih => exact ih.step event

end Timeline

/-! ## The workers that are listed -/

/-- The workers that are listed for an age after a history. -/
def listed (threshold : Span) (start : Instant) (history : List Event) (age : Span) : List String :=
  let timeline := (Timeline.ofThreshold threshold start).after history
  timeline.health.hungSince age timeline.now

/-- The last that happened to the guards of a worker was that one was let go of, or that one was opened
no more than an age ago. -/
def IsEclipsed (start : Instant) (history : List Event) (worker : String) (age : Span) : Prop :=
  Latest start history worker none ∨
    ∃ since, Latest start history worker (some since) ∧ ¬ age < (clock start history).since since

/-- A worker is listed exactly if the last that happened to its guards was that one was opened,
longer ago than the age. -/
theorem mem_listed {threshold : Span} : worker ∈ listed threshold start history age ↔
    ∃ since, Latest start history worker (some since) ∧
      age < (clock start history).since since := by
  have hagrees := Timeline.agrees_after threshold start history
  rw [listed, mem_hungSince, hagrees.now_eq]
  exact exists_congr fun since ↦ and_congr_left fun _ ↦ hagrees.mem_entries worker since

/-- A worker that holds a guard for long enough is listed unless it is eclipsed. -/
theorem HoldsLonger.mem_listed_iff {threshold : Span}
    (h : HoldsLonger start history worker age) :
    worker ∈ listed threshold start history age ↔ ¬ IsEclipsed start history worker age := by
  obtain ⟨guard, begun, hheld, -⟩ := h
  obtain ⟨latest, hlatest⟩ := hheld.exists_latest
  rw [mem_listed, IsEclipsed]
  constructor
  · rintro ⟨since, hopened, hold⟩ (hgone | ⟨since', hopened', hyoung⟩)
    · exact Option.some_ne_none since (hopened.unique hgone)
    · rw [Option.some.inj (hopened.unique hopened')] at hold
      exact hyoung hold
  · intro hclear
    obtain ⟨hkept, hyoung⟩ := not_or.1 hclear
    cases latest with
    | none => exact absurd hlatest hkept
    | some since => exact ⟨since, hlatest, of_not_not fun hnot ↦ hyoung ⟨since, hlatest, hnot⟩⟩

/-- The list is in strictly ascending order, and it has the workers for whom the last that happened was
the opening of a guard more than the age ago. So whoever is listed holds a guard for longer than the
age. It has everyone who does so exactly if none of them is eclipsed by a later opening or by the end
of another of its guards, and for a worker whose guards do not overlap that cannot happen. -/
theorem lists_holders_iff (threshold : Span) (start : Instant) (history : List Event) (age : Span) :
    (listed threshold start history age).Pairwise (· < ·) ∧
    (∀ worker, worker ∈ listed threshold start history age ↔
      ∃ since, Latest start history worker (some since) ∧
        age < (clock start history).since since) ∧
    (∀ worker ∈ listed threshold start history age, HoldsLonger start history worker age) ∧
    ((∀ worker, worker ∈ listed threshold start history age ↔
      HoldsLonger start history worker age) ↔
      ∀ worker, HoldsLonger start history worker age → ¬ IsEclipsed start history worker age) ∧
    ∀ worker, ¬ IsOverlapped start history worker →
      (worker ∈ listed threshold start history age ↔ HoldsLonger start history worker age) := by
  have hagrees := Timeline.agrees_after threshold start history
  have hholds : ∀ worker ∈ listed threshold start history age,
      HoldsLonger start history worker age := by
    intro worker hlisted
    obtain ⟨since, hlatest, hold⟩ := mem_listed.1 hlisted
    obtain ⟨guard, hheld⟩ := hlatest.exists_isHeld
    exact ⟨guard, since, hheld, hold⟩
  refine ⟨pairwise_hungSince hagrees.length_entries_le, fun worker ↦ mem_listed, hholds, ?_,
    fun worker halone ↦ ⟨hholds worker, fun hlonger ↦ ?_⟩⟩
  · constructor
    · intro hcomplete worker hlonger
      exact hlonger.mem_listed_iff.1 ((hcomplete worker).2 hlonger)
    · intro hclear worker
      exact ⟨hholds worker, fun hlonger ↦ hlonger.mem_listed_iff.2 (hclear worker hlonger)⟩
  · obtain ⟨guard, since, hheld, hold⟩ := hlonger
    exact mem_listed.2 ⟨since, hheld.latest halone, hold⟩

namespace Sample

/-- A worker lets go of its guard before it takes the next one. -/
def oneAfterAnother : List Event :=
  [.advance (Span.ofSeconds 2), .call "worker" 2, .drop 1, .advance (Span.ofSeconds 2),
    .call "worker" 1]

/-- Of two workers of one name the second takes a guard and lets go of it; the first still holds its
own. -/
def nested : List Event :=
  [.advance (Span.ofSeconds 2), .drop 2, .call "worker" 2, .call "worker" 1]

end Sample

theorem lists_holders_iff_of_oneAfterAnother :
    ¬ IsOverlapped ⟨0⟩ Sample.oneAfterAnother "worker" ∧
    listed (Span.ofSeconds 60) ⟨0⟩ Sample.oneAfterAnother (Span.ofSeconds 1) = ["worker"] ∧
    HoldsLonger ⟨0⟩ Sample.oneAfterAnother "worker" (Span.ofSeconds 1) ∧
    ¬ HoldsLonger ⟨0⟩ Sample.oneAfterAnother "worker" (Span.ofSeconds 2) := by
  have halone : ¬ IsOverlapped ⟨0⟩ Sample.oneAfterAnother "worker" := by
    simp [Sample.oneAfterAnother, isOverlapped_cons, isHeld_cons, Event.worker?, Event.guard?,
      not_isHeld_nil, not_isOverlapped_nil]
  have hholders (age : Span) := (lists_holders_iff (Span.ofSeconds 60) ⟨0⟩ Sample.oneAfterAnother
    age).2.2.2.2 "worker" halone
  exact ⟨halone, by decide +kernel, (hholders _).1 (by decide +kernel),
    mt (hholders _).2 (by decide +kernel)⟩

/-- A worker holds a guard for two seconds and is not listed for half a second. -/
theorem misses_holder_of_nested :
    HoldsLonger ⟨0⟩ Sample.nested "worker" (Span.ofMillis 500) ∧
    listed (Span.ofSeconds 60) ⟨0⟩ Sample.nested (Span.ofMillis 500) = [] := by
  have hheld : IsHeld ⟨0⟩ Sample.nested 1 "worker" ⟨0⟩ :=
    ⟨[.advance (Span.ofSeconds 2), .drop 2, .call "worker" 2], [], rfl, rfl, by decide⟩
  exact ⟨⟨1, ⟨0⟩, hheld, by decide +kernel⟩, by decide +kernel⟩

end TableQueue.Health
