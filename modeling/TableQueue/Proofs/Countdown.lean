import TableQueue.Proofs.Polls
import TableQueue.Proofs.World.Open

/-!
# The countdown to a rescan

A worker counts its passes down and clears its bounds when the countdown is over; then it begins
anew, from one of two numbers. The countdown runs through jobs, reconnects and restarts. So a pass
either begins without bounds, or it has been counted and the greater of the two numbers has not been
used up.
-/

namespace TableQueue

variable {α : Type} {duties : Duties α}

/-- The session on which a pass is under way. -/
def Point.pollSession? : Point α → Option Nat
  | polling session _ _ => some session
  | _ => none

theorem Point.isBeginning_of_pollSession?_none {point : Point α} (h : point.pollSession? = none) :
    point.isBeginning = false := by
  cases point <;> first | rfl | cases h

/-- The largest number of passes from one rescan to the next. -/
def Settings.rescanPeriod (settings : Settings) : Nat :=
  max settings.rescanEvery settings.idleRescanEvery

/-- The countdown is never set to more than the period. -/
theorem Cycle.reload_le (cycle : Cycle) (settings : Settings) :
    cycle.reload settings ≤ settings.rescanPeriod := by
  unfold reload
  split
  · exact Nat.le_max_right _ _
  · exact Nat.le_max_left _ _

namespace Point

/-- The worker is in a search that goes on after an empty pass. -/
def persists : Point α → Bool
  | asleep .. => true
  | polling _ cycle _ => cycle.waits
  | _ => false

def isAsleep : Point α → Bool
  | asleep .. => true
  | _ => false

/-- The worker gives up a pass of such a search, and the bounds have not been cleared in it. -/
def owesRescan : Point α → Bool
  | polling _ cycle .abandoning => cycle.waits && !cycle.hasCleared
  | _ => false

def empties : Point α → Point α → Bool
  | polling _ _ .abandoning, closing _ last => last
  | polling _ _ .abandoning, _ => true
  | _, _ => false

theorem owesRescan_of_persists {point : Point α} (h : point.persists = false) :
    point.owesRescan = false := by
  cases point with
  | polling session cycle stage =>
    have hwaits : cycle.waits = false := h
    cases stage with
    | abandoning => simp [owesRescan, hwaits]
    | beginning | probing | bounding | replanning | claiming => rfl
  | idle | starting | atConnectGate | connecting | atFailureGate | asleep | working | rollingBack
    | closing | crashed => rfl

end Point

/-! ## Turns -/

def Note.isRescan : Note α → Bool
  | .counted .rescan => true
  | _ => false

def Turn.clears (turn : Turn α) : Bool := turn.notes.any Note.isRescan

/-- A pass begins in a turn, with so many passes left before the bounds are cleared. -/
structure Turn.Ticks (settings : Settings) (cycle : Cycle) (countdown : Int) (turn : Turn α) :
    Prop where
  clears_iff : turn.clears = true ↔ countdown ≤ 1
  cleared : turn.clears = true →
    turn.worker.bounds = [] ∧ turn.worker.countdown = cycle.reload settings
  counted : turn.clears = false → turn.worker.countdown = countdown - 1

/-- How a worker counts its passes when it leaves a point. -/
inductive Paces (duties : Duties α) (source : Point α) (turn : Turn α) (countdown : Int) :
    Prop where
  /-- The first pass of a search begins. -/
  | first {session : Nat} {waits : Bool} : source.persists = false →
      turn.worker.point = .polling session ⟨waits, turn.clears, false⟩ .beginning →
      turn.Ticks duties.settings (.first waits) countdown → Paces duties source turn countdown
  /-- A pass begins after a sleep. -/
  | awoken {session : Nat} : source.isAsleep = true →
      turn.worker.point = .polling session ⟨true, true, true⟩ .beginning →
      turn.Ticks duties.settings ⟨true, true, true⟩ countdown → Paces duties source turn countdown
  /-- An empty pass is followed by one without bounds. -/
  | again {session : Nat} : source.owesRescan = true →
      turn.worker.point = .polling session ⟨true, true, true⟩ .beginning →
      turn.Ticks duties.settings ⟨true, false, true⟩ 0 → Paces duties source turn countdown
  /-- It would be, but the worker has been told to stop. -/
  | expired {session : Nat} : source.owesRescan = true →
      turn.worker.point = .closing session true → turn.worker.countdown = 0 →
      Paces duties source turn countdown
  /-- A pass goes on. -/
  | kept {session : Nat} {cycle : Cycle} {stage stage' : PollStage} :
      source = .polling session cycle stage → stage ≠ .abandoning →
      turn.worker.point = .polling session cycle stage' → stage' ≠ .beginning →
      turn.worker.countdown = countdown → Paces duties source turn countdown
  /-- A pass was empty although the bounds have been cleared in the search. -/
  | dozed {session session' : Nat} {cycle : Cycle} {wakesAt : Instant} :
      source = .polling session' cycle .abandoning → cycle.waits = true → cycle.hasCleared = true →
      turn.worker.point = .asleep session wakesAt → turn.worker.countdown = countdown →
      Paces duties source turn countdown
  | sleptOn : turn.worker.point = source → source.isAsleep = true →
      turn.worker.countdown = countdown → Paces duties source turn countdown
  /-- No pass is under way any more. -/
  | rested : source.owesRescan = false ∨ source.empties turn.worker.point = false →
      turn.worker.point.pollSession? = none → turn.worker.point.isAsleep = false →
      turn.worker.countdown = countdown → Paces duties source turn countdown

namespace Turn

variable {moment : Moment} {turn : Turn α} {source : Point α} {session : Nat}

@[simp] theorem clears_note (note : Note α) :
    (turn.note note).clears = (turn.clears || note.isRescan) := by
  simp [clears, Turn.note]

@[simp] theorem clears_log (level : Level) (message : String)
    (fields : List (String × Log.FieldValue)) :
    (turn.log level message fields).clears = turn.clears := by
  simp [log, Note.isRescan]

@[simp] theorem clears_endCall_time (timer : Timer) (begun : Instant) :
    (turn.endCall.time moment timer begun).clears = turn.clears :=
  (clears_note _).trans (Bool.or_false _)

@[simp] theorem clears_report (job : Job α) (operation status : String)
    (details : Option String) :
    (turn.report moment job operation status details).clears = turn.clears :=
  (clears_note _).trans (Bool.or_false _)

/-! ### Between passes -/

/-- A pass that begins is counted. -/
theorem beginCycle_ticks (hclears : turn.clears = false) (hstopped : moment.stopped = false)
    (cycle : Cycle) :
    (turn.beginCycle duties moment session cycle).Ticks duties.settings cycle
        turn.worker.countdown ∧
      (turn.beginCycle duties moment session cycle).worker.point =
        .polling session { cycle with hasCleared := cycle.hasCleared ||
          (turn.beginCycle duties moment session cycle).clears } .beginning := by
  rw [beginCycle, if_neg (Bool.eq_false_iff.1 hstopped)]
  by_cases hover : turn.worker.countdown - 1 ≤ 0
  · have hcleared (worker : Worker α) (point : Point α) :
        (({ turn with worker }.note (.counted .rescan)).goTo point).clears = true :=
      (clears_note _).trans (Bool.or_true _)
    simp only [if_pos hover]
    refine ⟨⟨?_, fun _ ↦ ⟨rfl, rfl⟩, fun hnot ↦ ?_⟩, ?_⟩
    · rw [hcleared]
      exact iff_of_true rfl (by omega)
    · rw [hcleared] at hnot
      cases hnot
    · rw [hcleared, Bool.or_true]
      rfl
  · have hkept (worker : Worker α) (point : Point α) :
        ({ turn with worker }.goTo point).clears = false := hclears
    simp only [if_neg hover]
    refine ⟨⟨?_, fun hcleared ↦ ?_, fun _ ↦ rfl⟩, ?_⟩
    · rw [hkept]
      exact iff_of_false Bool.false_ne_true (by omega)
    · rw [hkept] at hcleared
      cases hcleared
    · rw [hkept, Bool.or_false]
      rfl

/-- A worker at the failure throttle counts the pass that it begins, if it begins one. -/
theorem passFailureGate_paces (hclears : turn.clears = false) (hsource : source.persists = false)
    (waits : Bool) :
    Paces duties source
      (turn.passFailureGate duties moment session waits)
      turn.worker.countdown := by
  have howes := Point.owesRescan_of_persists hsource
  unfold passFailureGate
  split
  · exact .rested (.inl howes) rfl rfl rfl
  · next hstopped =>
    split
    · exact .rested (.inl howes) rfl rfl rfl
    · obtain ⟨hticks, hpoint⟩ := @beginCycle_ticks _ duties _ _ session hclears
        (Bool.eq_false_iff.2 hstopped) (.first waits)
      exact .first hsource hpoint hticks

theorem passConnectGate_paces (howes : source.owesRescan = false) :
    Paces duties source
      (turn.passConnectGate moment)
      turn.worker.countdown := by
  unfold passConnectGate
  split
  · exact .rested (.inl howes) rfl rfl rfl
  · split <;> exact .rested (.inl howes) rfl rfl rfl

theorem endConnect_paces (hclears : turn.clears = false) (hsource : source.persists = false)
    (begun : Instant) (answer : Except DatabaseError Nat) :
    Paces duties source
      (turn.endConnect duties moment begun answer)
      turn.worker.countdown := by
  cases answer with
  | error error => exact passConnectGate_paces (Point.owesRescan_of_persists hsource)
  | ok session =>
    refine passFailureGate_paces ?_ hsource false
    exact (clears_endCall_time _ begun).trans hclears

theorem endClose_paces (howes : source.owesRescan = false) (last : Bool)
    (answer : Except DatabaseError Unit) :
    Paces duties source
      (turn.endClose moment last answer)
      turn.worker.countdown := by
  unfold endClose
  cases last <;> cases answer
  case false.ok | false.error => exact passConnectGate_paces howes
  case true.ok | true.error => exact .rested (.inl howes) rfl rfl rfl

/-- A worker that wakes up counts the pass that it begins, if it begins one. -/
theorem wake_paces (hclears : turn.clears = false) {wakesAt : Instant}
    (hpoint : turn.worker.point = .asleep session wakesAt) :
    Paces duties (.asleep session wakesAt)
      (turn.wake duties moment session wakesAt)
      turn.worker.countdown := by
  unfold wake
  split
  · cases hstopped : moment.stopped with
    | true =>
      rw [beginCycle, if_pos hstopped]
      exact .rested (.inl rfl) rfl rfl rfl
    | false =>
      obtain ⟨hticks, hbegins⟩ := @beginCycle_ticks _ duties _ _ session hclears hstopped
        ⟨true, true, true⟩
      exact .awoken rfl hbegins hticks
  · exact .sleptOn hpoint rfl rfl

/-! ### Passes -/

/-- After an empty pass the bounds are cleared at once, unless they have been in this search. -/
theorem endEmptyCycle_paces (hclears : turn.clears = false) (cycle : Cycle) :
    Paces duties (.polling session cycle .abandoning)
      (turn.endEmptyCycle duties moment session cycle)
      turn.worker.countdown := by
  obtain ⟨waits, hasCleared, isIdle⟩ := cycle
  cases waits with
  | false => exact passFailureGate_paces hclears rfl true
  | true =>
    cases hasCleared with
    | false =>
      simp only [endEmptyCycle, Bool.not_true, Bool.not_false, Bool.false_eq_true, if_true,
        if_false]
      cases hstopped : moment.stopped with
      | true =>
        rw [beginCycle, if_pos hstopped]
        exact .expired rfl rfl rfl
      | false =>
        obtain ⟨hticks, hbegins⟩ := @beginCycle_ticks _ duties _
          { turn with worker := { turn.worker with countdown := 0 } } session hclears hstopped
          ⟨true, false, true⟩
        have hcleared := hticks.clears_iff.2 (show (0 : Int) ≤ 1 by decide)
        rw [hcleared] at hbegins
        exact .again rfl hbegins hticks
    | true =>
      simp only [endEmptyCycle, Bool.not_true, Bool.false_eq_true, if_false]
      split
      · exact .rested (.inl rfl) rfl rfl rfl
      · exact .dozed rfl rfl rfl rfl rfl

/-- A search that fails begins no pass and leaves the countdown as it is. -/
theorem failFetch_paces (fault : Fault) :
    Paces duties source
      (turn.failFetch moment (some session) fault)
      turn.worker.countdown := by
  refine .rested (.inr ?_) rfl rfl rfl
  cases source with
  | polling _ _ stage => cases stage <;> rfl
  | idle | starting | atConnectGate | connecting | atFailureGate | asleep | working | rollingBack
    | closing | crashed => rfl

variable {cycle : Cycle} {stage : PollStage}

theorem pollNext_paces (hstage : stage ≠ .abandoning) (queues : List String) :
    Paces duties (.polling session cycle stage)
      (turn.pollNext moment session cycle queues)
      turn.worker.countdown := by
  cases queues with
  | nil => exact .kept rfl hstage rfl (fun h ↦ by cases h) rfl
  | cons queue rest =>
    cases hlookup : turn.worker.bound? queue <;> simp only [pollNext, hlookup] <;>
      exact .kept rfl hstage rfl (fun h ↦ by cases h) rfl

theorem endProbe_paces (hstage : stage ≠ .abandoning) (queue : String) (rest : List String)
    (begun bound : Instant) :
    Paces duties (.polling session cycle stage)
      (turn.endProbe duties moment session cycle queue rest begun bound)
      turn.worker.countdown := by
  unfold endProbe
  simp only
  split <;> exact .kept rfl hstage rfl (fun h ↦ by cases h) rfl

theorem accept_paces (hstage : stage ≠ .abandoning) (queue : String) (row : Row) :
    Paces duties (.polling session cycle stage)
      (turn.accept duties moment session queue row)
      turn.worker.countdown := by
  unfold accept
  split
  · exact failFetch_paces _
  · split
    · exact failFetch_paces _
    · refine .rested (.inl ?_) rfl rfl rfl
      cases stage <;> first | rfl | exact absurd rfl hstage

/-- A turn in a pass counts as it should. -/
theorem resumePoll_paces (hclears : turn.clears = false) (cycle : Cycle) (stage : PollStage)
    (answer : (@Point.pollCall α session stage).Answer) :
    Paces duties (.polling session cycle stage)
      (turn.resumePoll duties moment session cycle stage answer)
      turn.worker.countdown := by
  cases stage with
  | beginning =>
    rcases answer with error | ⟨⟩
    · exact failFetch_paces _
    · exact pollNext_paces (fun h ↦ by cases h) _
  | probing queue rest begun =>
    rcases answer with error | _ | oldest
    · exact failFetch_paces _
    · exact .kept rfl (fun h ↦ by cases h) rfl (fun h ↦ by cases h) rfl
    · exact endProbe_paces (fun h ↦ by cases h) queue rest begun oldest
  | bounding queue rest begun =>
    rcases answer with error | recent
    · exact failFetch_paces _
    · exact endProbe_paces (fun h ↦ by cases h) queue rest begun recent
  | replanning queue rest bound =>
    rcases answer with error | ⟨⟩
    · exact failFetch_paces _
    · exact .kept rfl (fun h ↦ by cases h) rfl (fun h ↦ by cases h) rfl
  | claiming queue rest notBefore begun =>
    rcases answer with error | _ | row
    · exact failFetch_paces _
    · exact pollNext_paces (fun h ↦ by cases h) rest
    · exact accept_paces (fun h ↦ by cases h) queue row
  | abandoning =>
    rcases answer with error | ⟨⟩
    · exact failFetch_paces _
    · exact endEmptyCycle_paces hclears cycle

/-! ### Jobs -/

theorem endSave_paces (howes : source.owesRescan = false) (job : Job α) :
    Paces duties source
      (turn.endSave duties moment session job)
      turn.worker.countdown := by
  unfold endSave
  split <;> exact .rested (.inl howes) rfl rfl rfl

theorem mergeAll_paces (howes : source.owesRescan = false) (deduplicator : Deduplicator α)
    (job : Job α) (rows : List Row) :
    Paces duties source
      (turn.mergeAll duties deduplicator session job rows)
      turn.worker.countdown := by
  induction rows generalizing turn job with
  | nil => exact .rested (.inl howes) rfl rfl rfl
  | cons row rest ih =>
    unfold mergeAll
    split
    · exact .rested (.inl howes) rfl rfl rfl
    · next details hmetadata =>
      split
      · exact .rested (.inl howes) rfl rfl rfl
      · next skipped hdecode =>
        simp only
        split
        · exact .rested (.inl howes) rfl rfl rfl
        · next payload hmerge => exact ih { job with payload }

theorem endDuplicates_paces (howes : source.owesRescan = false) (job : Job α) (begun : Instant)
    (answer : Except DatabaseError (List Row)) :
    Paces duties source
      (turn.endDuplicates duties moment session job begun answer)
      turn.worker.countdown := by
  have hworker : ((turn.endCall.time moment .deleteDuplicate begun).endLookup moment begun).worker =
      turn.worker := endLookup_worker begun
  rw [← hworker]
  unfold endDuplicates
  simp only
  split
  · exact .rested (.inl howes) rfl rfl rfl
  · exact mergeAll_paces howes _ job _
  · exact .rested (.inl howes) rfl rfl rfl

theorem endInsertion_paces (howes : source.owesRescan = false) (job : Job α) (timer : Timer)
    (begun : Instant) (operation remark : String) (next : JobStage)
    (answer : Except DatabaseError Nat) :
    Paces duties source
      (turn.endInsertion moment session job timer begun operation remark next answer)
      turn.worker.countdown := by
  cases answer with
  | error error => exact .rested (.inl howes) rfl rfl rfl
  | ok rows =>
    simp only [endInsertion]
    split <;> exact .rested (.inl howes) rfl rfl rfl

theorem endUndo_paces (howes : source.owesRescan = false) (job : Job α) (failure : JobFailure) :
    Paces duties source
      (turn.endUndo duties moment session job failure)
      turn.worker.countdown := by
  unfold endUndo
  split
  · simp only
    split <;> exact .rested (.inl howes) rfl rfl rfl
  · exact .rested (.inl howes) rfl rfl rfl
  · exact .rested (.inl howes) rfl rfl rfl

theorem settle_paces (hclears : turn.clears = false) (hsource : source.persists = false)
    (job : Job α) (operation status : String) (details : Option String) (success : Bool) :
    Paces duties source
      ((turn.report moment job operation status details).settle duties moment session success)
      turn.worker.countdown := by
  have hreported : ((turn.report moment job operation status details).registerJob moment
      success).clears = false := (clears_report job operation status details).trans hclears
  exact passFailureGate_paces hreported hsource true

/-- A turn at a claimed job counts as it should. -/
theorem resumeJob_paces (hclears : turn.clears = false) (job : Job α) (stage : JobStage)
    (answer : (Point.jobCall duties session job stage).Answer) :
    Paces duties (.working session job stage)
      (turn.resumeJob duties moment session job stage answer)
      turn.worker.countdown := by
  have howes : (Point.working session job stage).owesRescan = false := rfl
  cases stage with
  | saving =>
    rcases answer with error | ⟨⟩
    · exact .rested (.inl howes) rfl rfl rfl
    · exact endSave_paces howes job
  | deduplicating begun => exact endDuplicates_paces howes job begun answer
  | delivering =>
    simp only [resumeJob, endDelivery]
    split <;> exact .rested (.inl howes) rfl rfl rfl
  | undoing failure =>
    rcases answer with error | ⟨⟩
    · exact .rested (.inl howes) rfl rfl rfl
    · exact endUndo_paces howes job failure
  | puttingOff | puttingBack | archiving => exact endInsertion_paces howes job _ _ _ _ _ answer
  | releasing | committingClaim | beginningArchive =>
    rcases answer with error | ⟨⟩ <;> exact .rested (.inl howes) rfl rfl rfl
  | committingSuccess | committingPutOff | committingPutBack | committingArchive =>
    rcases answer with error | ⟨⟩
    · exact .rested (.inl howes) rfl rfl rfl
    · exact settle_paces hclears rfl job _ _ _ _

end Turn

/-- A worker that goes on counts its passes in one of these ways. -/
theorem Worker.resume_paces (duties : Duties α) (moment : Moment) (shared : Shared)
    (worker : Worker α) (answer : (worker.call duties).Answer) :
    Paces duties worker.point (worker.resume duties moment shared answer) worker.countdown := by
  obtain ⟨name, bounds, countdown, point⟩ := worker
  cases point with
  | idle | crashed => exact .rested (.inl rfl) rfl rfl rfl
  | starting | atConnectGate => exact Turn.passConnectGate_paces rfl
  | connecting begun => exact Turn.endConnect_paces rfl rfl begun answer
  | atFailureGate session waits => exact Turn.passFailureGate_paces rfl rfl waits
  | asleep session wakesAt => exact Turn.wake_paces rfl rfl
  | polling session cycle stage => exact Turn.resumePoll_paces rfl cycle stage answer
  | working session job stage => exact Turn.resumeJob_paces rfl job stage answer
  | rollingBack session fault =>
    rcases answer with error | ⟨⟩ <;> exact .rested (.inl rfl) rfl rfl rfl
  | closing session last => exact Turn.endClose_paces rfl last answer

inductive Counts (duties : Duties α) (source : Point α) (worker : Worker α) (countdown : Int) :
    Prop where
  /-- A pass begins without bounds, and so does the countdown. -/
  | cleared : worker.point.isBeginning = true → worker.bounds = [] →
      worker.countdown ≤ duties.settings.rescanPeriod → Counts duties source worker countdown
  /-- A pass begins and is counted. -/
  | counted : worker.point.isBeginning = true → 1 ≤ worker.countdown →
      worker.countdown + 1 = countdown → Counts duties source worker countdown
  /-- A pass goes on. -/
  | kept : source.pollSession?.isSome → worker.point.pollSession?.isSome →
      worker.point.isBeginning = false → worker.countdown = countdown →
      Counts duties source worker countdown
  /-- No pass is under way. -/
  | rested : worker.point.pollSession? = none → worker.countdown = countdown →
      Counts duties source worker countdown
  /-- The countdown is over after an empty pass, but the worker has been told to stop. -/
  | expired : worker.point.pollSession? = none → worker.countdown = 0 →
      Counts duties source worker countdown

theorem Turn.Ticks.counts {source : Point α} {session : Nat} {cycle cycle' : Cycle}
    {countdown countdown' : Int} {turn : Turn α}
    (h : turn.Ticks duties.settings cycle countdown)
    (hpoint : turn.worker.point = .polling session cycle' .beginning)
    (hcountdown : countdown = countdown' ∨ countdown ≤ 1) :
    Counts duties source turn.worker countdown' := by
  have hbegins : turn.worker.point.isBeginning = true := by
    rw [hpoint]
    rfl
  cases hclears : turn.clears with
  | true =>
    obtain ⟨hbounds, hreload⟩ := h.cleared hclears
    exact .cleared hbegins hbounds (hreload ▸ Int.ofNat_le.2 (cycle.reload_le _))
  | false =>
    have hleft : ¬ countdown ≤ 1 := fun hover ↦ by simp [h.clears_iff.2 hover] at hclears
    have hcounted := h.counted hclears
    exact .counted hbegins (by omega) (by omega)

theorem Paces.counts {source : Point α} {countdown : Int} {turn : Turn α}
    (h : Paces duties source turn countdown) : Counts duties source turn.worker countdown := by
  cases h with
  | first _ hpoint hticks | awoken _ hpoint hticks => exact hticks.counts hpoint (.inl rfl)
  | again _ hpoint hticks => exact hticks.counts hpoint (.inr (by decide))
  | expired _ hpoint hzero => exact .expired (by rw [hpoint]; rfl) hzero
  | @kept _ _ _ stage' hsource _ hpoint hstage hsame =>
    refine .kept (by rw [hsource]; rfl) (by rw [hpoint]; rfl) ?_ hsame
    rw [hpoint]
    cases stage' <;> first | rfl | exact absurd rfl hstage
  | dozed _ _ _ hpoint hsame => exact .rested (by rw [hpoint]; rfl) hsame
  | sleptOn hpoint hasleep hsame =>
    refine .rested ?_ hsame
    rw [hpoint]
    cases source <;> first | rfl | cases hasleep
  | rested _ hnone _ hsame => exact .rested hnone hsame

/-- A worker that goes on counts in one of five ways. -/
theorem Worker.resume_counts (duties : Duties α) (moment : Moment) (shared : Shared)
    (worker : Worker α) (answer : (worker.call duties).Answer) :
    Counts duties worker.point (worker.resume duties moment shared answer).worker
      worker.countdown :=
  (worker.resume_paces duties moment shared answer).counts

/-! ## Runs -/

/-- The countdown of a worker is within the period, and a pass that has begun with bounds has been
counted. -/
structure Worker.IsInTime (duties : Duties α) (worker : Worker α) : Prop where
  le : worker.countdown ≤ duties.settings.rescanPeriod
  begun : worker.point.isBeginning = true → worker.bounds = [] ∨
    1 ≤ worker.countdown ∧ worker.countdown + 1 ≤ duties.settings.rescanPeriod

/-- A worker that counts stays within the period. -/
theorem Counts.isInTime {source : Point α} {countdown : Int} {worker : Worker α}
    (h : Counts duties source worker countdown)
    (hle : countdown ≤ duties.settings.rescanPeriod) : worker.IsInTime duties := by
  cases h with
  | cleared _ hbounds hreload => exact ⟨hreload, fun _ ↦ .inl hbounds⟩
  | counted _ hleft hcounted => exact ⟨by omega, fun _ ↦ .inr ⟨hleft, by omega⟩⟩
  | kept _ _ hbeginning hsame => exact ⟨by omega, fun h ↦ by simp [hbeginning] at h⟩
  | rested hsession hsame =>
    exact ⟨by omega, fun h ↦ by simp [Point.isBeginning_of_pollSession?_none hsession] at h⟩
  | expired hsession hzero =>
    exact ⟨by omega, fun h ↦ by simp [Point.isBeginning_of_pollSession?_none hsession] at h⟩

namespace OpenRun

variable {workers : Nat} {shared : Shared} {now : Instant} {past : Past duties}
  {world : World duties}

/-- Every worker keeps within the period, whoever else writes. -/
theorem isInTime (run : OpenRun (World.initial duties workers shared now) past world) :
    ∀ member ∈ world.members, member.worker.IsInTime duties := by
  induction run with
  | rest =>
    intro member hmember
    obtain ⟨number, -, rfl⟩ := List.mem_map.1 hmember
    exact ⟨Int.ofNat_le.2 (Nat.le_max_left _ _), nofun⟩
  | write _ _ ih => exact ih
  | @move past world move run' ih =>
    intro member' hmember'
    obtain ⟨number, hnumber⟩ := List.getElem?_of_mem hmember'
    have hlength := world.length_members_step move
    obtain ⟨member, hmember⟩ : ∃ member, world.members[number]? = some member := by
      have hlt := (List.getElem?_eq_some_iff.1 hnumber).1
      exact ⟨_, List.getElem?_eq_getElem (hlength ▸ hlt)⟩
    have hold := ih member (List.mem_of_getElem? hmember)
    obtain ⟨member'', hmember'', hstep⟩ :=
      (run'.sound (.initial ..)).proceeds hmember move
    obtain rfl := Option.some.inj (hmember''.symm.trans hnumber)
    rcases hstep with hproceeds | ⟨-, -, rfl⟩
    · generalize world.transition? number move = transition? at hproceeds
      cases hproceeds with
      | rested | answered => exact hold
      | resumed hready hworker =>
        subst hworker
        exact (member.worker.resume_counts duties _ _ _).isInTime hold.le
    · exact ⟨hold.le, nofun⟩

end OpenRun

end TableQueue
