import Mathlib.Data.List.TakeWhile
import TableQueue.Breaker

/-!
# Cool-down periods

Lookups overlap in any order, and each one that was too slow overwrites the single deadline of the
breaker. On a clock that does not go back the lookup that ends last also has the last deadline, so
overwriting loses nothing: deduplication is off at a reading exactly if the reading lies in the
period that follows some lookup above the limit. Nothing that ends later brings the end of such a
period forward, and a breaker from a blank text has no such periods.
-/

namespace TableQueue.Breaker

/-- Something that happens to the lookups of a breaker, with the clock reading. A lookup that begins
under a number ends the one in progress there. -/
inductive Occasion where
  | begun (id : Nat) (reading : Int)
  | ended (id : Nat) (reading : Int)
deriving DecidableEq, Repr

namespace Occasion

def id : Occasion → Nat
  | begun id _ | ended id _ => id

def reading : Occasion → Int
  | begun _ reading | ended _ reading => reading

end Occasion

namespace Session

def ofBreaker (breaker : Breaker) : Session := ⟨breaker, []⟩

def hear (session : Session) : Occasion → Session
  | .begun id reading => session.begin id reading
  | .ended id reading => session.finish id reading

/-- The session after a history, the most recent occasion first. -/
def hearAll (session : Session) (history : List Occasion) : Session :=
  history.foldr (fun occasion session ↦ session.hear occasion) session

end Session

variable {history : List Occasion} {occasion : Occasion} {id limit period : Nat}
  {started ended reading : Int} {session : Session} {breaker : Breaker}

/-- A lookup that began at a reading is in progress: nothing has happened under its number since. -/
def IsOpen (history : List Occasion) (id : Nat) (started : Int) : Prop :=
  ∃ since past, history = since ++ .begun id started :: past ∧
    ∀ occasion ∈ since, occasion.id ≠ id

def Lasted (history : List Occasion) (started ended : Int) : Prop :=
  ∃ since closing past, history = since ++ closing :: past ∧ IsOpen past closing.id started ∧
    closing.reading = ended

def IsCooling (limit period : Nat) (history : List Occasion) (reading : Int) : Prop :=
  ∃ started ended, Lasted history started ended ∧ limit < ended - started ∧
    reading ≤ min (ended + period) Text.maxSigned64

/-- The readings are those of a clock that does not go back, positive and in the signed range. -/
structure OnClock (history : List Occasion) : Prop where
  ordered : history.Pairwise fun later earlier ↦ earlier.reading ≤ later.reading
  positive : ∀ occasion ∈ history, 0 < occasion.reading
  bounded : ∀ occasion ∈ history, occasion.reading ≤ Text.maxSigned64

/-! ## What a history says about lookups -/

/-- Whether a lookup is in progress is decided by the latest occasion under its number. -/
theorem isOpen_cons : IsOpen (occasion :: history) id started ↔
    occasion = .begun id started ∨ occasion.id ≠ id ∧ IsOpen history id started := by
  constructor
  · rintro ⟨since, past, heq, hsince⟩
    cases since with
    | nil => exact .inl (List.cons.inj heq).1
    | cons latest rest =>
      obtain ⟨rfl, hrest⟩ := List.cons.inj heq
      exact .inr ⟨hsince _ List.mem_cons_self, rest, past, hrest,
        fun other hother ↦ hsince other (List.mem_cons_of_mem _ hother)⟩
  · rintro (rfl | ⟨hid, since, past, rfl, hsince⟩)
    · exact ⟨[], history, rfl, fun _ hnone ↦ absurd hnone List.not_mem_nil⟩
    · exact ⟨occasion :: since, past, rfl, List.forall_mem_cons.2 ⟨hid, hsince⟩⟩

/-- A lookup has just ended, or it ended before. -/
theorem lasted_cons : Lasted (occasion :: history) started ended ↔
    IsOpen history occasion.id started ∧ occasion.reading = ended ∨
      Lasted history started ended := by
  constructor
  · rintro ⟨since, closing, past, heq, hopen, hended⟩
    cases since with
    | nil =>
      obtain ⟨rfl, rfl⟩ := List.cons.inj heq
      exact .inl ⟨hopen, hended⟩
    | cons latest rest =>
      obtain ⟨-, rfl⟩ := List.cons.inj heq
      exact .inr ⟨rest, closing, past, rfl, hopen, hended⟩
  · rintro (⟨hopen, hended⟩ | ⟨since, closing, past, rfl, hopen, hended⟩)
    · exact ⟨[], occasion, history, rfl, hopen, hended⟩
    · exact ⟨occasion :: since, closing, past, rfl, hopen, hended⟩

theorem not_lasted_nil : ¬ Lasted [] started ended := by
  rintro ⟨since, closing, past, heq, -⟩
  exact List.append_ne_nil_of_right_ne_nil since (List.cons_ne_nil closing past) heq.symm

/-- At most one lookup is in progress under a number. -/
theorem IsOpen.unique (hopen : IsOpen history id started) {started' : Int}
    (hopen' : IsOpen history id started') : started = started' := by
  induction history with
  | nil =>
    obtain ⟨since, past, heq, -⟩ := hopen
    exact absurd heq.symm (List.append_ne_nil_of_right_ne_nil since (List.cons_ne_nil _ past))
  | cons occasion history ih =>
    rcases isOpen_cons.1 hopen with rfl | ⟨hid, hopen⟩ <;>
      rcases isOpen_cons.1 hopen' with heq | ⟨hid', hopen'⟩
    · exact (Occasion.begun.inj heq).2
    · exact absurd rfl hid'
    · exact absurd (by rw [heq]; rfl) hid
    · exact ih hopen hopen'

theorem IsOpen.mem (hopen : IsOpen history id started) : .begun id started ∈ history := by
  obtain ⟨since, past, rfl, -⟩ := hopen
  exact List.mem_append_right since List.mem_cons_self

theorem Lasted.mem (hlasted : Lasted history started ended) :
    ∃ occasion ∈ history, occasion.reading = ended := by
  obtain ⟨since, closing, past, rfl, -, hended⟩ := hlasted
  exact ⟨closing, List.mem_append_right since List.mem_cons_self, hended⟩

theorem Lasted.started_pos (hlasted : Lasted history started ended) (hclock : OnClock history) :
    0 < started := by
  obtain ⟨since, closing, past, rfl, hopen, -⟩ := hlasted
  exact hclock.positive _ (List.mem_append_right since (List.mem_cons_of_mem _ hopen.mem))

theorem Lasted.append (hlasted : Lasted history started ended) (later : List Occasion) :
    Lasted (later ++ history) started ended := by
  obtain ⟨since, closing, past, rfl, hopen, hended⟩ := hlasted
  exact ⟨later ++ since, closing, past, (List.append_assoc ..).symm, hopen, hended⟩

/-- What happens later ends no period and brings no end of one forward. -/
theorem IsCooling.append (hcooling : IsCooling limit period history reading)
    (later : List Occasion) : IsCooling limit period (later ++ history) reading := by
  obtain ⟨started, ended, hlasted, hlimit, hreading⟩ := hcooling
  exact ⟨started, ended, hlasted.append later, hlimit, hreading⟩

/-- Where a lookup ends, its own period is added. -/
theorem isCooling_cons_of_isOpen (hopen : IsOpen history occasion.id started) :
    IsCooling limit period (occasion :: history) reading ↔
      limit < occasion.reading - started ∧
          reading ≤ min (occasion.reading + period) Text.maxSigned64 ∨
        IsCooling limit period history reading := by
  constructor
  · rintro ⟨started', ended, hlasted, hlimit, hreading⟩
    rcases lasted_cons.1 hlasted with ⟨hopen', rfl⟩ | hlasted
    · obtain rfl := hopen.unique hopen'
      exact .inl ⟨hlimit, hreading⟩
    · exact .inr ⟨started', ended, hlasted, hlimit, hreading⟩
  · rintro (⟨hlimit, hreading⟩ | hcooling)
    · exact ⟨started, occasion.reading, lasted_cons.2 (.inl ⟨hopen, rfl⟩), hlimit, hreading⟩
    · exact hcooling.append [occasion]

/-- Where no lookup ends, no period is added. -/
theorem isCooling_cons_of_not_isOpen (hopen : ∀ started, ¬ IsOpen history occasion.id started) :
    IsCooling limit period (occasion :: history) reading ↔
      IsCooling limit period history reading := by
  constructor
  · rintro ⟨started, ended, hlasted, hlimit, hreading⟩
    rcases lasted_cons.1 hlasted with ⟨hopen', -⟩ | hlasted
    · exact absurd hopen' (hopen started)
    · exact ⟨started, ended, hlasted, hlimit, hreading⟩
  · exact fun hcooling ↦ hcooling.append [occasion]

namespace OnClock

theorem tail (hclock : OnClock (occasion :: history)) : OnClock history where
  ordered := (List.pairwise_cons.1 hclock.ordered).2
  positive other hother := hclock.positive other (List.mem_cons_of_mem _ hother)
  bounded other hother := hclock.bounded other (List.mem_cons_of_mem _ hother)

/-- The latest reading is the greatest. -/
theorem reading_le (hclock : OnClock (occasion :: history)) {earlier : Occasion}
    (hearlier : earlier ∈ history) : earlier.reading ≤ occasion.reading :=
  (List.pairwise_cons.1 hclock.ordered).1 earlier hearlier

/-- A lookup that ends now has begun at a positive reading that is not after the present one. -/
theorem started_mem (hclock : OnClock (occasion :: history))
    (hopen : IsOpen history id started) : 0 < started ∧ started ≤ occasion.reading :=
  ⟨hclock.tail.positive _ hopen.mem, hclock.reading_le hopen.mem⟩

/-- A lookup that has ended did so no later than the latest reading. -/
theorem ended_le (hclock : OnClock (occasion :: history))
    (hlasted : Lasted history started ended) : ended ≤ occasion.reading := by
  obtain ⟨closing, hclosing, rfl⟩ := hlasted.mem
  exact hclock.reading_le hclosing

end OnClock

/-! ## What the session makes of it -/

/-- Within the signed range a lookup trips a breaker if it takes longer than the limit. -/
theorem trips_iff (hstarted : 0 < started) (hle : started ≤ ended)
    (hended : ended ≤ Text.maxSigned64) (hlimit : breaker.limit = min (limit : Int) Text.maxSigned64) :
    breaker.trips started ended = true ↔ limit < ended - started := by
  have hduration : duration started ended = ended - started := by
    unfold duration saturate64
    simp only [Text.maxSigned64, Text.minSigned64] at *
    omega
  rw [trips, hduration, hlimit, decide_eq_true_eq]
  omega

/-- The deadline that a slow lookup sets lies at the end of its period, or of the signed range. -/
theorem disabledUntil_finish (hended : 0 < ended)
    (hperiod : breaker.period = min (period : Int) Text.maxSigned64)
    (htrips : breaker.trips started ended = true) :
    (breaker.finish started ended).disabledUntil = min (ended + period) Text.maxSigned64 := by
  rw [finish, if_pos htrips, saturate64, hperiod]
  simp only [Text.maxSigned64, Text.minSigned64]
  omega

/-- A session agrees with a history: it has the lookups in progress, and its deadline covers the
positive readings in a period. -/
structure Session.Agrees (limit period : Nat) (session : Session) (history : List Occasion) :
    Prop where
  limit_eq : session.breaker.limit = min (limit : Int) Text.maxSigned64
  period_eq : session.breaker.period = min (period : Int) Text.maxSigned64
  mem_running : ∀ id started, (id, started) ∈ session.running ↔ IsOpen history id started
  le_disabledUntil : ∀ reading, 0 < reading →
    (reading ≤ session.breaker.disabledUntil ↔ IsCooling limit period history reading)

namespace Session

/-- The end of the lookup under a number, if one is in progress. -/
theorem finish_cases (session : Session) (id : Nat) (reading : Int) :
    (∀ started, (id, started) ∉ session.running) ∧ session.finish id reading = session ∨
    ∃ started, (id, started) ∈ session.running ∧ session.finish id reading =
      ⟨session.breaker.finish started reading, session.running.filter (·.1 != id)⟩ := by
  unfold finish
  split
  · next hnone =>
    refine .inl ⟨fun started hmem ↦ ?_, rfl⟩
    simpa using List.find?_eq_none.1 hnone (id, started) hmem
  · next found started hfound =>
    obtain rfl : found = id := by simpa using List.find?_some hfound
    exact .inr ⟨started, List.mem_of_find?_eq_some hfound, rfl⟩

theorem agrees_ofBreaker (limit period : Nat) :
    (ofBreaker (ofMillis limit period)).Agrees limit period [] where
  limit_eq := rfl
  period_eq := rfl
  mem_running id started := by
    constructor
    · intro hmem
      exact absurd hmem List.not_mem_nil
    · intro hopen
      exact absurd hopen.mem List.not_mem_nil
  le_disabledUntil reading hreading := by
    constructor
    · intro hle
      exact absurd hreading (Int.not_lt.2 hle)
    · rintro ⟨started, ended, hlasted, -⟩
      exact absurd hlasted not_lasted_nil

/-- After the end of the lookup under a number all others go on. -/
theorem Agrees.mem_running_finish (hagrees : session.Agrees limit period history) (id : Nat)
    (reading : Int) (other : Nat) (started : Int) :
    (other, started) ∈ (session.finish id reading).running ↔
      id ≠ other ∧ IsOpen history other started := by
  rw [← hagrees.mem_running]
  rcases session.finish_cases id reading with ⟨hnone, hfinish⟩ | ⟨ended, hmem, hfinish⟩
  · rw [hfinish, iff_and_self]
    rintro hother rfl
    exact hnone started hother
  · rw [hfinish, List.mem_filter, bne_iff_ne, and_comm, ne_comm]

/-- The deadline covers the period of the lookup that ends now as well as those before. -/
theorem Agrees.le_disabledUntil_finish (hagrees : session.Agrees limit period history)
    (hclock : OnClock (occasion :: history)) (hreading : 0 < reading) :
    reading ≤ (session.finish occasion.id occasion.reading).breaker.disabledUntil ↔
      IsCooling limit period (occasion :: history) reading := by
  have hbefore := hagrees.le_disabledUntil reading hreading
  have hpositive := hclock.positive _ List.mem_cons_self
  have hbounded := hclock.bounded _ List.mem_cons_self
  rcases session.finish_cases occasion.id occasion.reading with
    ⟨hnone, hfinish⟩ | ⟨started, hmem, hfinish⟩
  · rw [hfinish, hbefore, isCooling_cons_of_not_isOpen fun started hopen ↦
      hnone started ((hagrees.mem_running _ _).2 hopen)]
  · have hopen := (hagrees.mem_running _ _).1 hmem
    obtain ⟨hstarted, hle⟩ := hclock.started_mem hopen
    have htrips := trips_iff hstarted hle hbounded hagrees.limit_eq
    rw [hfinish, isCooling_cons_of_isOpen hopen, ← htrips]
    by_cases hslow : session.breaker.trips started occasion.reading = true
    · -- Every earlier lookup ended no later, so the new deadline covers its period too.
      rw [disabledUntil_finish hpositive hagrees.period_eq hslow]
      constructor
      · exact fun hle ↦ .inl ⟨hslow, hle⟩
      · rintro (⟨-, hle⟩ | ⟨started', ended, hlasted, -, hle⟩)
        · exact hle
        · have hended := hclock.ended_le hlasted
          omega
    · rw [Breaker.finish, if_neg hslow, hbefore]
      exact ⟨.inr, fun h ↦ h.resolve_left fun hslow' ↦ hslow hslow'.1⟩

theorem finish_limit_eq (session : Session) (id : Nat) (reading : Int) :
    (session.finish id reading).breaker.limit = session.breaker.limit := by
  rcases session.finish_cases id reading with ⟨-, hfinish⟩ | ⟨started, -, hfinish⟩
  · rw [hfinish]
  · rw [hfinish, finish_limit]

theorem finish_period_eq (session : Session) (id : Nat) (reading : Int) :
    (session.finish id reading).breaker.period = session.breaker.period := by
  rcases session.finish_cases id reading with ⟨-, hfinish⟩ | ⟨started, -, hfinish⟩
  · rw [hfinish]
  · rw [hfinish, finish_period]

/-- One more occasion keeps session and history in agreement. -/
theorem Agrees.hear (hagrees : session.Agrees limit period history)
    (hclock : OnClock (occasion :: history)) :
    (session.hear occasion).Agrees limit period (occasion :: history) := by
  cases occasion with
  | begun id reading =>
    exact {
      limit_eq := (finish_limit_eq session id reading).trans hagrees.limit_eq
      period_eq := (finish_period_eq session id reading).trans hagrees.period_eq
      mem_running := fun other started ↦ by
        have hrest := hagrees.mem_running_finish id reading other started
        rw [isOpen_cons, Session.hear, Session.begin, List.mem_append, hrest, List.mem_singleton,
          or_comm, Prod.mk.injEq, Occasion.begun.injEq]
        exact or_congr_left (and_congr eq_comm eq_comm)
      le_disabledUntil := fun _ hpositive ↦ hagrees.le_disabledUntil_finish hclock hpositive }
  | ended id reading =>
    exact {
      limit_eq := (finish_limit_eq session id reading).trans hagrees.limit_eq
      period_eq := (finish_period_eq session id reading).trans hagrees.period_eq
      mem_running := fun other started ↦ by
        rw [isOpen_cons, Session.hear, hagrees.mem_running_finish]
        exact (or_iff_right Occasion.noConfusion).symm
      le_disabledUntil := fun _ hpositive ↦ hagrees.le_disabledUntil_finish hclock hpositive }

/-- After any history on a clock the session agrees with it. -/
theorem agrees_hearAll (limit period : Nat) (hclock : OnClock history) :
    ((ofBreaker (ofMillis limit period)).hearAll history).Agrees limit period history := by
  induction history with
  | nil => exact agrees_ofBreaker limit period
  | cons occasion history ih => exact (ih hclock.tail).hear hclock

end Session

/-- Deduplication is off up to the deadline. -/
theorem closedAt_eq_false_iff : breaker.closedAt reading = false ↔ reading ≤ breaker.disabledUntil := by
  rw [closedAt, decide_eq_false_iff_not, Int.not_lt]

/-- A text of blanks gives the breaker whose limit is the end of the signed range. -/
theorem parse_of_blank {spec : String} (hblank : ∀ c ∈ spec.toList, Text.isBlank c = true) :
    parse spec = .ok (ofMillis Text.maxSigned64.toNat 0) := by
  have htrim : Text.trim spec.toList = [] := by
    rw [Text.trim, Text.trimStart, List.dropWhile_eq_nil_iff.2 hblank]
    rfl
  rw [parse, htrim]
  rfl

/-- Deduplication is off at a reading exactly if the reading lies in the period after some lookup
above the limit. In particular it stays off at every reading at which it has been seen to be off,
whatever ends meanwhile; and with a breaker from a blank text it is never off. -/
theorem off_iff_isCooling (limit period : Nat) {history : List Occasion}
    (hclock : OnClock history) :
    (∀ reading, 0 < reading →
      (((Session.ofBreaker (ofMillis limit period)).hearAll history).breaker.closedAt reading =
          false ↔
        ∃ started ended, Lasted history started ended ∧ limit < ended - started ∧
          reading ≤ min (ended + period) Text.maxSigned64)) ∧
    (∀ later, OnClock (later ++ history) → ∀ reading, 0 < reading →
      ((Session.ofBreaker (ofMillis limit period)).hearAll history).breaker.closedAt reading =
        false →
      ((Session.ofBreaker (ofMillis limit period)).hearAll (later ++ history)).breaker.closedAt
        reading = false) ∧
    (∀ spec : String, (∀ c ∈ spec.toList, Text.isBlank c = true) →
      ∃ breaker, parse spec = .ok breaker ∧ ∀ reading, 0 < reading →
        ((Session.ofBreaker breaker).hearAll history).breaker.closedAt reading = true) := by
  have hoff (limit period : Nat) {history : List Occasion} (hclock : OnClock history)
      {reading : Int} (hreading : 0 < reading) :=
    closedAt_eq_false_iff.trans
      ((Session.agrees_hearAll limit period hclock).le_disabledUntil reading hreading)
  refine ⟨fun reading hreading ↦ hoff limit period hclock hreading,
    fun later hlater reading hreading hclosed ↦ ?_, fun spec hblank ↦ ?_⟩
  · exact (hoff limit period hlater hreading).2
      (((hoff limit period hclock hreading).1 hclosed).append later)
  · refine ⟨_, parse_of_blank hblank, fun reading hreading ↦ ?_⟩
    rw [← Bool.not_eq_false, hoff _ _ hclock hreading]
    rintro ⟨started, ended, hlasted, hlimit, -⟩
    obtain ⟨⟨closing, hclosing, rfl⟩, hstarted⟩ := And.intro hlasted.mem (hlasted.started_pos hclock)
    have hended := hclock.bounded closing hclosing
    simp only [Text.maxSigned64] at hlimit hended
    omega

namespace Sample

/-- Two slow lookups overlap, and a fast one begins and ends within the period of the second. -/
def overlappingLookups : List Occasion :=
  [.ended 2 1000250, .begun 2 1000240, .ended 1 1000202, .ended 0 1000201, .begun 1 1000100,
    .begun 0 1000001]

theorem onClock_overlappingLookups : OnClock overlappingLookups where
  ordered := by decide
  positive := by decide
  bounded := by decide

end Sample

theorem off_iff_isCooling_of_overlappingLookups :
    ((Session.ofBreaker (ofMillis 100 1000)).hearAll Sample.overlappingLookups).breaker.closedAt
      1001202 = false :=
  ((off_iff_isCooling 100 1000 Sample.onClock_overlappingLookups).1 1001202 (by decide)).2
    ⟨1000100, 1000202, ⟨[.ended 2 1000250, .begun 2 1000240], .ended 1 1000202, _, rfl,
      ⟨[.ended 0 1000201], _, rfl, by decide⟩, rfl⟩, by decide, by decide⟩

example : ((Session.ofBreaker (ofMillis 100 1000)).hearAll
    Sample.overlappingLookups).breaker.closedAt 1001203 = true := by decide

end TableQueue.Breaker
