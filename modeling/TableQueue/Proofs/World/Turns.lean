import TableQueue.Worker.Basic

/-!
# Where a turn leads

A worker that waits at a point and is given an answer goes on to another point. The table `Leads`
lists, for every point and answer, the points that can come next and what becomes of the remembered
bounds; whatever depends on the time, the throttles or the order to stop is left open. Later proofs
consult the table and do not look into the turns themselves.
-/

namespace TableQueue

variable {α : Type}

abbrev Bounds := List (String × Instant)

/-- Remembers the bound of a queue in place of an earlier one. -/
def Bounds.remember (bounds : Bounds) (queue : String) (bound : Instant) : Bounds :=
  (queue, bound) :: bounds.filter (·.1 != queue)

/-- Metadata that can be read shows what the columns hold, and counts the attempt. -/
theorem Row.metadata_eq_ok {row : Row} {details : JobMeta} (h : row.metadata = .ok details) :
    ∃ tries queued, row.tries = some tries ∧ row.queued = some queued ∧
      details = ⟨row.queue, .ofInstant queued, .ofInstant row.dequeueAfter,
        JobMeta.nextTry tries⟩ := by
  unfold Row.metadata at h
  split at h
  · cases h
  · cases h
  · next tries queued htries hqueued =>
    exact ⟨tries, queued, htries, hqueued, (Except.ok.inj h).symm⟩

/-- The job of a row becomes eligible when the row does. -/
theorem Row.instant_of_metadata {row : Row} {details : JobMeta} (h : row.metadata = .ok details) :
    details.dequeueAfter.instant = row.dequeueAfter := by
  obtain ⟨_, _, -, -, rfl⟩ := Row.metadata_eq_ok h
  rfl

namespace Duties

/-- A job is what a row says. -/
def Reads (duties : Duties α) (row : Row) (job : Job α) : Prop :=
  row.metadata = .ok job.details ∧ duties.codec.decode row.job = .ok job.payload

def mergeRow (duties : Duties α) (deduplicator : Deduplicator α) (payload : α) (row : Row) :
    Option α :=
  match row.metadata, duties.codec.decode row.job with
  | .ok _, .ok skipped => (deduplicator.merge payload skipped).toOption
  | _, _ => none

def mergeRows (duties : Duties α) (payload : α) (rows : List Row) : Option α :=
  match duties.deduplicator with
  | some deduplicator => rows.foldlM (duties.mergeRow deduplicator) payload
  | none => some payload

end Duties

namespace Point

def IsUnconnected : Point α → Prop
  | idle | atConnectGate _ | connecting _ => True
  | _ => False

/-- The worker is between jobs and has not begun a transaction on its connection. -/
def IsResting (session : Nat) : Point α → Prop
  | closing other _ | atFailureGate other _ _ | asleep other _ | polling other _ .beginning =>
    other = session
  | _ => False

/-- The worker comes to rest; its bounds may have been cleared on the way. -/
def Rests (session : Nat) (bounds bounds' : Bounds) (point : Point α) : Prop :=
  point.IsResting session ∧ (bounds' = bounds ∨ bounds' = [])

/-- The worker turns to the first of some queues, or gives up the pass. -/
def Searches (session : Nat) (cycle : Cycle) (bounds : Bounds) (queues : List String)
    (bounds' : Bounds) (point : Point α) : Prop :=
  bounds' = bounds ∧
    match queues with
    | [] => point = polling session cycle .abandoning
    | queue :: rest =>
      match bounds.lookup queue with
      | some bound => ∃ begun, point = polling session cycle (.claiming queue rest bound begun)
      | none => ∃ begun, point = polling session cycle (.probing queue rest begun)

/-- The worker remembers a bound and claims with it. -/
def Claims (session : Nat) (cycle : Cycle) (bounds : Bounds) (queue : String) (rest : List String)
    (bound : Instant) (bounds' : Bounds) (point : Point α) : Prop :=
  bounds' = bounds.remember queue bound ∧
    ∃ begun, point = polling session cycle (.claiming queue rest bound begun)

/-- The worker has found a bound and claims with it, at once or after its prepared statements have
been dropped. -/
def Finds (session : Nat) (cycle : Cycle) (bounds : Bounds) (queue : String) (rest : List String)
    (bound : Instant) (bounds' : Bounds) (point : Point α) : Prop :=
  Claims session cycle bounds queue rest bound bounds' point ∨
    bounds' = bounds ∧ point = polling session cycle (.replanning queue rest bound)

def GivesUp (session : Nat) (bounds bounds' : Bounds) (point : Point α) : Prop :=
  bounds' = bounds ∧ point = closing session false

/-- Where the answer at a stage of a pass leads. -/
def PollLeads (duties : Duties α) (bounds : Bounds) (session : Nat) (cycle : Cycle) :
    (stage : PollStage) → (@pollCall α session stage).Answer → Bounds → Point α → Prop
  | .beginning, .ok (), bounds', point =>
    Searches session cycle bounds duties.settings.queueNames bounds' point
  | .probing queue rest _, .ok (some oldest), bounds', point =>
    Finds session cycle bounds queue rest oldest bounds' point
  | .probing queue rest begun, .ok none, bounds', point =>
    bounds' = bounds ∧ point = polling session cycle (.bounding queue rest begun)
  | .bounding queue rest _, .ok recent, bounds', point =>
    Finds session cycle bounds queue rest recent bounds' point
  | .replanning queue rest bound, .ok (), bounds', point =>
    Claims session cycle bounds queue rest bound bounds' point
  | .claiming _ rest _ _, .ok none, bounds', point =>
    Searches session cycle bounds rest bounds' point
  | .claiming queue _ _ _, .ok (some row), bounds', point =>
    GivesUp session bounds bounds' point ∨ ∃ job, duties.Reads row job ∧
      bounds' = bounds.remember queue row.dequeueAfter ∧ point = working session job .saving
  | .abandoning, .ok (), bounds', point => Rests session bounds bounds' point
  | .beginning, .error _, bounds', point | .probing .., .error _, bounds', point
  | .bounding .., .error _, bounds', point | .replanning .., .error _, bounds', point
  | .claiming .., .error _, bounds', point | .abandoning, .error _, bounds', point =>
    GivesUp session bounds bounds' point

/-- The worker goes on with a job at another stage. -/
def Goes (session : Nat) (job : Job α) (bounds : Bounds) (stage : JobStage) (bounds' : Bounds)
    (point : Point α) : Prop :=
  bounds' = bounds ∧ point = working session job stage

def Fails (session : Nat) (bounds bounds' : Bounds) (point : Point α) : Prop :=
  bounds' = bounds ∧ ∃ fault, point = rollingBack session fault

/-- Where a failed attempt leads once everything since the savepoint is undone. -/
def Disposes (duties : Duties α) (session : Nat) (job : Job α) (failure : JobFailure)
    (bounds bounds' : Bounds) (point : Point α) : Prop :=
  match duties.settings.disposition job.details failure with
  | .putOff delay => ∃ begun,
    Goes session job bounds (.puttingOff failure (writtenDelay delay) begun) bounds' point
  | .putBack => ∃ begun, Goes session job bounds (.puttingBack failure begun) bounds' point
  | .archive => Goes session job bounds (.committingClaim failure) bounds' point

/-- Where the answer at a stage of a claimed job leads. -/
def JobLeads (duties : Duties α) (bounds : Bounds) (session : Nat) (job : Job α) :
    (stage : JobStage) → (jobCall duties session job stage).Answer → Bounds → Point α → Prop
  | .saving, .ok (), bounds', point =>
    Goes session job bounds .delivering bounds' point ∨
      duties.deduplicator.isSome ∧ ∃ begun,
        Goes session job bounds (.deduplicating begun) bounds' point
  | .deduplicating _, .ok rows, bounds', point =>
    (∃ payload, duties.mergeRows job.payload rows = some payload ∧
      Goes session { job with payload } bounds .delivering bounds' point) ∨
    Fails session bounds bounds' point ∨ bounds' = bounds ∧ ∃ text, point = crashed session text
  | .delivering, reception, bounds', point =>
    match reception.failure? with
    | none => Goes session job bounds .releasing bounds' point
    | some failure => Goes session job bounds (.undoing failure) bounds' point
  | .releasing, .ok (), bounds', point => Goes session job bounds .committingSuccess bounds' point
  | .undoing failure, .ok (), bounds', point =>
    Disposes duties session job failure bounds bounds' point
  | .puttingOff failure _ _, .ok _, bounds', point =>
    Goes session job bounds (.committingPutOff failure) bounds' point
  | .puttingBack failure _, .ok _, bounds', point =>
    Goes session job bounds (.committingPutBack failure) bounds' point
  | .committingClaim failure, .ok (), bounds', point =>
    Goes session job bounds (.beginningArchive failure) bounds' point
  | .beginningArchive failure, .ok (), bounds', point =>
    ∃ begun, Goes session job bounds (.archiving failure begun) bounds' point
  | .archiving failure _, .ok _, bounds', point =>
    Goes session job bounds (.committingArchive failure) bounds' point
  | .committingSuccess, .ok (), bounds', point | .committingPutOff _, .ok (), bounds', point
  | .committingPutBack _, .ok (), bounds', point | .committingArchive _, .ok (), bounds', point =>
    Rests session bounds bounds' point
  | .saving, .error _, bounds', point | .deduplicating _, .error _, bounds', point
  | .releasing, .error _, bounds', point | .committingSuccess, .error _, bounds', point
  | .undoing _, .error _, bounds', point | .puttingOff .., .error _, bounds', point
  | .committingPutOff _, .error _, bounds', point | .puttingBack .., .error _, bounds', point
  | .committingPutBack _, .error _, bounds', point | .committingClaim _, .error _, bounds', point
  | .beginningArchive _, .error _, bounds', point | .archiving .., .error _, bounds', point
  | .committingArchive _, .error _, bounds', point =>
    Fails session bounds bounds' point

/-- Where an answer leads. -/
def Leads (duties : Duties α) (bounds : Bounds) :
    (point : Point α) → (point.call duties).Answer → Bounds → Point α → Prop
  | .idle, _, bounds', point => bounds' = bounds ∧ point = idle
  | .crashed session text, _, bounds', point => bounds' = bounds ∧ point = crashed session text
  | .starting, _, bounds', point | .atConnectGate _, _, bounds', point
  | .connecting _, .error _, bounds', point | .closing .., _, bounds', point =>
    bounds' = bounds ∧ point.IsUnconnected
  | .connecting _, .ok session, bounds', point => bounds' = [] ∧ point.IsResting session
  | .atFailureGate session _ _, _, bounds', point | .asleep session _, _, bounds', point =>
    Rests session bounds bounds' point
  | .polling session cycle stage, answer, bounds', point =>
    PollLeads duties bounds session cycle stage answer bounds' point
  | .working session job stage, answer, bounds', point =>
    JobLeads duties bounds session job stage answer bounds' point
  | .rollingBack session _, _, bounds', point => GivesUp session bounds bounds' point

end Point

/-! ## Turns follow the table -/

namespace Turn

open Point

variable {duties : Duties α} {moment : Moment} {turn : Turn α} {session : Nat}

@[simp] theorem goTo_point (point : Point α) : (turn.goTo point).worker.point = point := rfl

@[simp] theorem goTo_bounds (point : Point α) :
    (turn.goTo point).worker.bounds = turn.worker.bounds := rfl

@[simp] theorem note_worker (note : Note α) : (turn.note note).worker = turn.worker := rfl

@[simp] theorem log_worker (level : Level) (message : String)
    (fields : List (String × Log.FieldValue)) :
    (turn.log level message fields).worker = turn.worker := rfl

@[simp] theorem logFault_worker (message : String) (fault : Fault) :
    (turn.logFault message fault).worker = turn.worker := rfl

@[simp] theorem beginCall_worker : (turn.beginCall moment).worker = turn.worker := rfl

@[simp] theorem endCall_worker : turn.endCall.worker = turn.worker := rfl

@[simp] theorem time_worker (timer : Timer) (begun : Instant) :
    (turn.time moment timer begun).worker = turn.worker := rfl

@[simp] theorem registerConnect_worker (success : Bool) :
    (turn.registerConnect moment success).worker = turn.worker := rfl

@[simp] theorem registerJob_worker (success : Bool) :
    (turn.registerJob moment success).worker = turn.worker := rfl

@[simp] theorem report_worker (job : Job α) (operation status : String)
    (details : Option String) :
    (turn.report moment job operation status details).worker = turn.worker := rfl

@[simp] theorem setBound_bounds (queue : String) (bound : Instant) :
    (turn.setBound queue bound).worker.bounds =
      Bounds.remember turn.worker.bounds queue bound := rfl

@[simp] theorem endLookup_worker (begun : Instant) :
    (turn.endLookup moment begun).worker = turn.worker := by
  simp only [endLookup]
  split <;> rfl

/-! ### Gates -/

theorem beginCycle_rests (cycle : Cycle) :
    Rests session turn.worker.bounds (turn.beginCycle duties moment session cycle).worker.bounds
      (turn.beginCycle duties moment session cycle).worker.point := by
  simp only [beginCycle]
  split
  · exact ⟨rfl, .inl rfl⟩
  · split
    · exact ⟨rfl, .inr rfl⟩
    · exact ⟨rfl, .inl rfl⟩

theorem passFailureGate_rests (waits : Bool) :
    Rests session turn.worker.bounds
      (turn.passFailureGate duties moment session waits).worker.bounds
      (turn.passFailureGate duties moment session waits).worker.point := by
  unfold passFailureGate
  split
  · exact ⟨rfl, .inl rfl⟩
  · split
    · exact ⟨rfl, .inl rfl⟩
    · exact beginCycle_rests _

theorem passConnectGate_unconnected :
    (turn.passConnectGate moment).worker.bounds = turn.worker.bounds ∧
      (turn.passConnectGate moment).worker.point.IsUnconnected := by
  unfold passConnectGate
  split
  · exact ⟨rfl, trivial⟩
  · split <;> exact ⟨rfl, trivial⟩

theorem failFetch_givesUp (fault : Fault) :
    GivesUp session turn.worker.bounds (turn.failFetch moment (some session) fault).worker.bounds
      (turn.failFetch moment (some session) fault).worker.point := ⟨rfl, rfl⟩

theorem failJob_fails (fault : Fault) :
    Fails session turn.worker.bounds (turn.failJob session fault).worker.bounds
      (turn.failJob session fault).worker.point := ⟨rfl, fault, rfl⟩

theorem endConnect_of_ok (begun : Instant) :
    (turn.endConnect duties moment begun (.ok session)).worker.bounds = [] ∧
      (turn.endConnect duties moment begun (.ok session)).worker.point.IsResting session := by
  obtain ⟨hresting, hbounds⟩ := @passFailureGate_rests α duties moment
    { (turn.endCall.time moment .databaseConnect begun).registerConnect moment true with
      worker := { turn.worker with bounds := [] } } session false
  exact ⟨hbounds.elim id id, hresting⟩

theorem endClose_unconnected (last : Bool) (answer : Except DatabaseError Unit) :
    (turn.endClose moment last answer).worker.bounds = turn.worker.bounds ∧
      (turn.endClose moment last answer).worker.point.IsUnconnected := by
  unfold endClose
  cases last <;> cases answer
  case false.ok | false.error => exact passConnectGate_unconnected
  case true.ok | true.error => exact ⟨rfl, trivial⟩

/-! ### Passes -/

theorem pollNext_searches (cycle : Cycle) (queues : List String) :
    Searches session cycle turn.worker.bounds queues
      (turn.pollNext moment session cycle queues).worker.bounds
      (turn.pollNext moment session cycle queues).worker.point := by
  cases queues with
  | nil => exact ⟨rfl, rfl⟩
  | cons queue rest =>
    cases hlookup : turn.worker.bounds.lookup queue with
    | none =>
      simp only [Searches, pollNext, Worker.bound?, hlookup]
      exact ⟨rfl, moment.now, rfl⟩
    | some bound =>
      simp only [Searches, pollNext, Worker.bound?, hlookup]
      exact ⟨rfl, moment.now, rfl⟩

theorem endProbe_finds (cycle : Cycle) (queue : String) (rest : List String)
    (begun bound : Instant) :
    Finds session cycle turn.worker.bounds queue rest bound
      (turn.endProbe duties moment session cycle queue rest begun bound).worker.bounds
      (turn.endProbe duties moment session cycle queue rest begun bound).worker.point := by
  unfold endProbe
  simp only
  split
  · exact .inr ⟨rfl, rfl⟩
  · exact .inl ⟨rfl, moment.now, rfl⟩

/-- A row that can be read is taken in hand; any other costs the connection. -/
theorem accept_leads (queue : String) (row : Row) :
    GivesUp session turn.worker.bounds
        (turn.accept duties moment session queue row).worker.bounds
        (turn.accept duties moment session queue row).worker.point ∨
      ∃ job, duties.Reads row job ∧
        (turn.accept duties moment session queue row).worker.bounds =
          Bounds.remember turn.worker.bounds queue row.dequeueAfter ∧
        (turn.accept duties moment session queue row).worker.point =
          working session job .saving := by
  unfold accept
  split
  · exact .inl (failFetch_givesUp _)
  · next details hmetadata =>
    split
    · exact .inl (failFetch_givesUp _)
    · next payload hdecode =>
      exact .inr ⟨⟨details, payload⟩, ⟨hmetadata, hdecode⟩,
        by rw [← Row.instant_of_metadata hmetadata]; rfl, rfl⟩

theorem endEmptyCycle_rests (cycle : Cycle) :
    Rests session turn.worker.bounds
      (turn.endEmptyCycle duties moment session cycle).worker.bounds
      (turn.endEmptyCycle duties moment session cycle).worker.point := by
  unfold endEmptyCycle
  split
  · exact passFailureGate_rests true
  · simp only
    split
    · exact beginCycle_rests _
    · split <;> exact ⟨rfl, .inl rfl⟩

theorem wake_rests {wakesAt : Instant} (h : turn.worker.point = asleep session wakesAt) :
    Rests session turn.worker.bounds (turn.wake duties moment session wakesAt).worker.bounds
      (turn.wake duties moment session wakesAt).worker.point := by
  unfold wake
  split
  · exact beginCycle_rests _
  · exact ⟨by rw [h]; rfl, .inl rfl⟩

/-- Where a turn in a pass leads. -/
theorem resumePoll_leads (cycle : Cycle) (stage : PollStage)
    (answer : (@Point.pollCall α session stage).Answer) :
    PollLeads duties turn.worker.bounds session cycle stage answer
      (turn.resumePoll duties moment session cycle stage answer).worker.bounds
      (turn.resumePoll duties moment session cycle stage answer).worker.point := by
  cases stage with
  | beginning =>
    rcases answer with error | ⟨⟩
    · exact failFetch_givesUp _
    · exact pollNext_searches cycle _
  | probing queue rest begun =>
    rcases answer with error | _ | oldest
    · exact failFetch_givesUp _
    · exact ⟨rfl, rfl⟩
    · exact endProbe_finds cycle queue rest begun oldest
  | bounding queue rest begun =>
    rcases answer with error | recent
    · exact failFetch_givesUp _
    · exact endProbe_finds cycle queue rest begun recent
  | replanning queue rest bound =>
    rcases answer with error | ⟨⟩
    · exact failFetch_givesUp _
    · exact ⟨rfl, moment.now, rfl⟩
  | claiming queue rest notBefore begun =>
    rcases answer with error | _ | row
    · exact failFetch_givesUp _
    · exact pollNext_searches cycle rest
    · exact accept_leads queue row
  | abandoning =>
    rcases answer with error | ⟨⟩
    · exact failFetch_givesUp _
    · exact endEmptyCycle_rests cycle

/-! ### Jobs -/

theorem mergeAll_leads (deduplicator : Deduplicator α)
    (hdeduplicator : duties.deduplicator = some deduplicator) (job : Job α) (rows : List Row) :
    (∃ payload, duties.mergeRows job.payload rows = some payload ∧
      Goes session { job with payload } turn.worker.bounds .delivering
        (turn.mergeAll duties deduplicator session job rows).worker.bounds
        (turn.mergeAll duties deduplicator session job rows).worker.point) ∨
    Fails session turn.worker.bounds
      (turn.mergeAll duties deduplicator session job rows).worker.bounds
      (turn.mergeAll duties deduplicator session job rows).worker.point ∨
    (turn.mergeAll duties deduplicator session job rows).worker.bounds = turn.worker.bounds ∧
      ∃ text, (turn.mergeAll duties deduplicator session job rows).worker.point =
        crashed session text := by
  induction rows generalizing turn job with
  | nil => exact .inl ⟨job.payload, by simp [Duties.mergeRows, hdeduplicator], rfl, rfl⟩
  | cons row rest ih =>
    unfold mergeAll
    split
    · exact .inr (.inl (failJob_fails _))
    · next details hmetadata =>
      split
      · exact .inr (.inl (failJob_fails _))
      · next skipped hdecode =>
        simp only
        split
        · next text hmerge => exact .inr (.inr ⟨rfl, text, rfl⟩)
        · next payload hmerge =>
          have hrow : duties.mergeRow deduplicator job.payload row = some payload := by
            simp only [Duties.mergeRow, hmetadata, hdecode, hmerge, Except.toOption]
          have hrows : duties.mergeRows job.payload (row :: rest) =
              duties.mergeRows payload rest := by
            simp [Duties.mergeRows, hdeduplicator, List.foldlM_cons, hrow]
          rw [hrows]
          exact ih { job with payload }

/-- Duplicates that can be read are merged before the delivery; else the work has met a fault. -/
theorem endDuplicates_leads (job : Job α) (begun : Instant)
    (answer : Except DatabaseError (List Row)) :
    JobLeads duties turn.worker.bounds session job (.deduplicating begun) answer
      (turn.endDuplicates duties moment session job begun answer).worker.bounds
      (turn.endDuplicates duties moment session job begun answer).worker.point := by
  have hworker (turn' : Turn α) (h : turn' = (turn.endCall.time moment .deleteDuplicate
      begun).endLookup moment begun) : turn'.worker = turn.worker := by
    rw [h, endLookup_worker]
    rfl
  unfold endDuplicates
  simp only
  generalize hturn' : (turn.endCall.time moment .deleteDuplicate begun).endLookup moment begun =
    turn'
  rw [← hworker turn' hturn'.symm]
  rcases answer with error | rows
  · exact failJob_fails _
  · cases hdeduplicator : duties.deduplicator with
    | none =>
      exact .inl ⟨job.payload, by simp [Duties.mergeRows, hdeduplicator], rfl, rfl⟩
    | some deduplicator => exact mergeAll_leads deduplicator hdeduplicator job rows

/-- Duplicates that can be merged do not keep a job from being delivered. -/
theorem mergeAll_point {deduplicator : Deduplicator α}
    (hdeduplicator : duties.deduplicator = some deduplicator) {job : Job α} {rows : List Row}
    {payload : α} (h : duties.mergeRows job.payload rows = some payload) :
    (turn.mergeAll duties deduplicator session job rows).worker.point =
      .working session { job with payload } .delivering := by
  simp only [Duties.mergeRows, hdeduplicator] at h
  induction rows generalizing turn job with
  | nil =>
    obtain rfl := Option.some.inj h
    rfl
  | cons row rest ih =>
    rw [List.foldlM_cons] at h
    obtain ⟨merged, hrow, hrest⟩ := Option.bind_eq_some_iff.1 h
    unfold Duties.mergeRow at hrow
    split at hrow
    · next details skipped hmetadata hdecode =>
      cases hmerge : deduplicator.merge job.payload skipped with
      | error text =>
        rw [hmerge] at hrow
        cases hrow
      | ok payload' =>
        rw [hmerge] at hrow
        obtain rfl := Option.some.inj hrow
        simp only [mergeAll, hmetadata, hdecode, hmerge]
        exact ih hrest
    · cases hrow

theorem endDuplicates_point {job : Job α} {rows : List Row} {payload : α}
    (h : duties.mergeRows job.payload rows = some payload) (begun : Instant) :
    (turn.endDuplicates duties moment session job begun (.ok rows)).worker.point =
      .working session { job with payload } .delivering := by
  unfold endDuplicates
  cases hdeduplicator : duties.deduplicator with
  | none =>
    simp only [Duties.mergeRows, hdeduplicator] at h
    obtain rfl := Option.some.inj h
    rfl
  | some deduplicator => exact mergeAll_point hdeduplicator h

theorem endUndo_disposes (job : Job α) (failure : JobFailure) :
    Disposes duties session job failure turn.worker.bounds
      (turn.endUndo duties moment session job failure).worker.bounds
      (turn.endUndo duties moment session job failure).worker.point := by
  cases hdisposition : duties.settings.disposition job.details failure with
  | putOff delay =>
    simp only [endUndo, Disposes, hdisposition]
    split <;> exact ⟨moment.now, rfl, rfl⟩
  | putBack =>
    simp only [endUndo, Disposes, hdisposition]
    exact ⟨moment.now, rfl, rfl⟩
  | archive =>
    simp only [endUndo, Disposes, hdisposition]
    exact ⟨rfl, rfl⟩

theorem endInsertion_goes (job : Job α) (timer : Timer) (begun : Instant)
    (operation remark : String) (next : JobStage) (rows : Nat) :
    Goes session job turn.worker.bounds next
      (turn.endInsertion moment session job timer begun operation remark next
        (.ok rows)).worker.bounds
      (turn.endInsertion moment session job timer begun operation remark next
        (.ok rows)).worker.point := by
  simp only [endInsertion]
  split <;> exact ⟨rfl, rfl⟩

theorem settleFailure_rests (job : Job α) (operation status : String) (failure : JobFailure) :
    Rests session turn.worker.bounds
      (turn.settleFailure duties moment session job operation status failure).worker.bounds
      (turn.settleFailure duties moment session job operation status failure).worker.point :=
  passFailureGate_rests true

/-- Once the savepoint is set, a job is delivered, or its duplicates are looked for. -/
theorem endSave_leads (job : Job α) :
    JobLeads duties turn.worker.bounds session job .saving (.ok ())
      (turn.endSave duties moment session job).worker.bounds
      (turn.endSave duties moment session job).worker.point := by
  unfold endSave
  split
  · next hlooks =>
    refine .inr ⟨?_, moment.now, rfl, rfl⟩
    unfold looksForDuplicates at hlooks
    split at hlooks
    · next deduplicator hdeduplicator =>
      rw [hdeduplicator]
      rfl
    · exact absurd hlooks Bool.false_ne_true
  · exact .inl ⟨rfl, rfl⟩

/-- Where a turn at a claimed job leads. -/
theorem resumeJob_leads (job : Job α) (stage : JobStage)
    (answer : (Point.jobCall duties session job stage).Answer) :
    JobLeads duties turn.worker.bounds session job stage answer
      (turn.resumeJob duties moment session job stage answer).worker.bounds
      (turn.resumeJob duties moment session job stage answer).worker.point := by
  cases stage with
  | saving =>
    rcases answer with error | ⟨⟩
    · exact failJob_fails _
    · exact endSave_leads job
  | deduplicating begun => exact endDuplicates_leads job begun answer
  | delivering =>
    simp only [resumeJob, endDelivery, JobLeads]
    cases Reception.failure? answer with
    | none => exact ⟨rfl, rfl⟩
    | some failure => exact ⟨rfl, rfl⟩
  | releasing | committingClaim =>
    rcases answer with error | ⟨⟩
    · exact failJob_fails _
    · exact ⟨rfl, rfl⟩
  | committingSuccess =>
    rcases answer with error | ⟨⟩
    · exact failJob_fails _
    · exact passFailureGate_rests true
  | undoing failure =>
    rcases answer with error | ⟨⟩
    · exact failJob_fails _
    · exact endUndo_disposes job failure
  | puttingOff | puttingBack | archiving =>
    rcases answer with error | rows
    · exact failJob_fails _
    · simp only [resumeJob, JobLeads]
      exact endInsertion_goes job _ _ _ _ _ rows
  | committingPutOff failure | committingPutBack failure | committingArchive failure =>
    rcases answer with error | ⟨⟩
    · exact failJob_fails _
    · exact settleFailure_rests job _ _ failure
  | beginningArchive failure =>
    rcases answer with error | ⟨⟩
    · exact failJob_fails _
    · exact ⟨moment.now, rfl, rfl⟩

end Turn

/-- A worker that goes on follows the table. -/
theorem Worker.resume_leads (duties : Duties α) (moment : Moment) (shared : Shared)
    (worker : Worker α) (answer : (worker.call duties).Answer) :
    worker.point.Leads duties worker.bounds answer
      (worker.resume duties moment shared answer).worker.bounds
      (worker.resume duties moment shared answer).worker.point := by
  obtain ⟨name, bounds, countdown, point⟩ := worker
  cases point with
  | idle | crashed => exact ⟨rfl, rfl⟩
  | starting | atConnectGate => exact Turn.passConnectGate_unconnected
  | connecting begun =>
    rcases answer with error | session
    · exact Turn.passConnectGate_unconnected
    · exact Turn.endConnect_of_ok begun
  | atFailureGate session waits sleeper => exact Turn.passFailureGate_rests waits
  | asleep session wakesAt => exact Turn.wake_rests rfl
  | polling session cycle stage => exact Turn.resumePoll_leads cycle stage answer
  | working session job stage => exact Turn.resumeJob_leads job stage answer
  | rollingBack session fault =>
    rcases answer with error | ⟨⟩ <;> exact ⟨rfl, rfl⟩
  | closing session last => exact Turn.endClose_unconnected last answer

end TableQueue
