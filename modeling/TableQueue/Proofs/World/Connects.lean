import TableQueue.Proofs.Throttle.Windows
import TableQueue.Proofs.World.Sound

/-!
# What the connect throttle hears of

Whenever a worker goes on, four things can happen that concern its connection: an attempt to connect
begins, an attempt has succeeded, an attempt has been refused, or the search for a job has failed and
the connection is given up. The log of a run lists them in order, and the connect throttle is what
the reports of the log have made of it.
-/

namespace TableQueue

variable {α : Type}

/-- Something that concerns the connection of a worker. -/
inductive ConnectEvent where
  /-- An attempt to connect begins. -/
  | begun (moment : Instant)
  | connected (moment : Instant)
  | refused (moment : Instant)
  /-- The connection is given up because the search for a job has failed. -/
  | gaveUp (moment : Instant)
deriving DecidableEq, Repr

namespace Point

/-- The worker has a connection and does not close it in order to replace it. -/
def isEngaged : Point α → Bool
  | closing _ last => last
  | point => point.session?.isSome

/-- The worker comes to the connect throttle. -/
def Gates (moment : Moment) (throttle : Throttle) (point : Point α) : Prop :=
  if moment.stopped then point = idle
  else match throttle.consult moment.now with
    | some sleeper => point = atConnectGate sleeper
    | none => point = connecting moment.now

/-- What the connect throttle is told when a worker goes on, and where the worker goes. -/
def Connects (duties : Duties α) (moment : Moment) (throttle : Throttle) :
    (point : Point α) → (point.call duties).Answer → Throttle → Point α → Prop
  | .idle, _, throttle', point => throttle' = throttle ∧ point = .idle
  | .starting, _, throttle', point | .atConnectGate _, _, throttle', point
  | .closing _ false, _, throttle', point =>
    throttle' = throttle ∧ point.Gates moment throttle'
  | .closing _ true, _, throttle', point => throttle' = throttle ∧ point = .idle
  | .connecting _, .ok _, throttle', point =>
    throttle' = throttle.register true moment.now ∧ point.isEngaged
  | .connecting _, .error _, throttle', point =>
    throttle' = (throttle.register false moment.now).register false moment.now ∧
      point.Gates moment throttle'
  | .polling session _ _, _, throttle', point =>
    throttle' = throttle ∧ point.isEngaged ∨
      throttle' = throttle.register false moment.now ∧ point = closing session false
  | .rollingBack session _, _, throttle', point =>
    throttle' = throttle ∧ point = closing session false
  | .atFailureGate .., _, throttle', point | .asleep .., _, throttle', point
  | .working .., _, throttle', point | .crashed .., _, throttle', point =>
    throttle' = throttle ∧ point.isEngaged

end Point

namespace Turn

variable {duties : Duties α} {moment : Moment} {turn : Turn α} {session : Nat}

/-- The worker keeps its connection, and the connect throttle hears nothing. -/
def Keeps (turn turn' : Turn α) : Prop :=
  turn'.shared.connectThrottle = turn.shared.connectThrottle ∧ turn'.worker.point.isEngaged

/-- The search has failed. -/
def Abandons (moment : Moment) (session : Nat) (turn turn' : Turn α) : Prop :=
  turn'.shared.connectThrottle = turn.shared.connectThrottle.register false moment.now ∧
    turn'.worker.point = .closing session false

theorem beginCycle_keeps (cycle : Cycle) :
    turn.Keeps (turn.beginCycle duties moment session cycle) := by
  simp only [beginCycle]
  split
  · exact ⟨rfl, rfl⟩
  · split <;> exact ⟨rfl, rfl⟩

theorem passFailureGate_keeps (waits : Bool) :
    turn.Keeps (turn.passFailureGate duties moment session waits) := by
  unfold passFailureGate
  split
  · exact ⟨rfl, rfl⟩
  · split
    · exact ⟨rfl, rfl⟩
    · exact beginCycle_keeps _

/-- The worker comes to the connect throttle, which hears nothing. -/
def ComesToGate (moment : Moment) (turn turn' : Turn α) : Prop :=
  turn'.shared.connectThrottle = turn.shared.connectThrottle ∧
    turn'.worker.point.Gates moment turn'.shared.connectThrottle

theorem passConnectGate_comesToGate :
    turn.ComesToGate moment (turn.passConnectGate moment) := by
  unfold passConnectGate ComesToGate Point.Gates
  split
  · exact ⟨rfl, rfl⟩
  · split
    · next sleeper hsleeper => exact ⟨rfl, by simp only [goTo, hsleeper]⟩
    · next hpass => exact ⟨rfl, by simp only [goTo, beginCall, hpass]⟩

theorem endClose_comesToGate (answer : Except DatabaseError Unit) :
    turn.ComesToGate moment (turn.endClose moment false answer) := by
  rcases answer with error | ⟨⟩
  · exact @passConnectGate_comesToGate α moment (turn.note (.logged
      ⟨.warn, "Error closing connection", [("error", .shown error.message)]⟩))
  · exact passConnectGate_comesToGate

/-- A worker that closes its connection for good is done. -/
theorem endClose_last (answer : Except DatabaseError Unit) :
    (turn.endClose moment true answer).shared.connectThrottle = turn.shared.connectThrottle ∧
      (turn.endClose moment true answer).worker.point = .idle := by
  rcases answer with error | ⟨⟩ <;> exact ⟨rfl, rfl⟩

/-- An attempt that succeeds is reported once. -/
theorem endConnect_ok (begun : Instant) (session : Nat) :
    (turn.endConnect duties moment begun (.ok session)).shared.connectThrottle =
        turn.shared.connectThrottle.register true moment.now ∧
      (turn.endConnect duties moment begun (.ok session)).worker.point.isEngaged :=
  @passFailureGate_keeps α duties moment
    { (turn.endCall.time moment .databaseConnect begun).registerConnect moment true with
      worker := { turn.worker with bounds := [] } } session false

/-- An attempt that is refused is reported when it ends and once more as a search that failed. -/
theorem endConnect_error (begun : Instant) (error : DatabaseError) :
    (turn.endConnect duties moment begun (.error error)).shared.connectThrottle =
        (turn.shared.connectThrottle.register false moment.now).register false moment.now ∧
      (turn.endConnect duties moment begun (.error error)).worker.point.Gates moment
        (turn.endConnect duties moment begun (.error error)).shared.connectThrottle :=
  @passConnectGate_comesToGate α moment
    ((((turn.endCall.time moment .databaseConnect begun).registerConnect moment false).logFault
      "Error fetching job from queue" (.database "connect" error)).registerConnect moment false)

theorem failFetch_abandons (fault : Fault) :
    turn.Abandons moment session (turn.failFetch moment (some session) fault) := ⟨rfl, rfl⟩

theorem pollNext_keeps (cycle : Cycle) (queues : List String) :
    turn.Keeps (turn.pollNext moment session cycle queues) := by
  cases queues with
  | nil => exact ⟨rfl, rfl⟩
  | cons queue rest =>
    simp only [pollNext]
    split <;> exact ⟨rfl, rfl⟩

theorem endProbe_keeps (cycle : Cycle) (queue : String) (rest : List String)
    (begun bound : Instant) :
    turn.Keeps (turn.endProbe duties moment session cycle queue rest begun bound) := by
  simp only [endProbe]
  split <;> exact ⟨rfl, rfl⟩

theorem accept_keeps_or_abandons (queue : String) (row : Row) :
    turn.Keeps (turn.accept duties moment session queue row) ∨
      turn.Abandons moment session (turn.accept duties moment session queue row) := by
  unfold accept
  split
  · exact .inr (failFetch_abandons _)
  · split
    · exact .inr (failFetch_abandons _)
    · exact .inl ⟨rfl, rfl⟩

theorem endEmptyCycle_keeps (cycle : Cycle) :
    turn.Keeps (turn.endEmptyCycle duties moment session cycle) := by
  unfold endEmptyCycle
  split
  · exact passFailureGate_keeps true
  · simp only
    split
    · exact beginCycle_keeps _
    · split <;> exact ⟨rfl, rfl⟩

theorem wake_keeps {wakesAt : Instant} (h : turn.worker.point = .asleep session wakesAt) :
    turn.Keeps (turn.wake duties moment session wakesAt) := by
  unfold wake
  split
  · exact beginCycle_keeps _
  · exact ⟨rfl, by rw [h]; rfl⟩

/-- A turn in a pass keeps the connection or abandons the search. -/
theorem resumePoll_keeps_or_abandons (cycle : Cycle) (stage : PollStage)
    (answer : (@Point.pollCall α session stage).Answer) :
    turn.Keeps (turn.resumePoll duties moment session cycle stage answer) ∨
      turn.Abandons moment session (turn.resumePoll duties moment session cycle stage answer) := by
  cases stage with
  | beginning =>
    rcases answer with error | ⟨⟩
    · exact .inr (failFetch_abandons _)
    · exact .inl (pollNext_keeps cycle _)
  | probing queue rest begun =>
    rcases answer with error | _ | oldest
    · exact .inr (failFetch_abandons _)
    · exact .inl ⟨rfl, rfl⟩
    · exact .inl (endProbe_keeps cycle queue rest begun oldest)
  | bounding queue rest begun =>
    rcases answer with error | recent
    · exact .inr (failFetch_abandons _)
    · exact .inl (endProbe_keeps cycle queue rest begun recent)
  | replanning queue rest bound =>
    rcases answer with error | ⟨⟩
    · exact .inr (failFetch_abandons _)
    · exact .inl ⟨rfl, rfl⟩
  | claiming queue rest notBefore begun =>
    rcases answer with error | _ | row
    · exact .inr (failFetch_abandons _)
    · exact .inl (pollNext_keeps cycle rest)
    · exact accept_keeps_or_abandons queue row
  | abandoning =>
    rcases answer with error | ⟨⟩
    · exact .inr (failFetch_abandons _)
    · exact .inl (endEmptyCycle_keeps cycle)

theorem mergeAll_keeps (deduplicator : Deduplicator α) (job : Job α) (rows : List Row) :
    turn.Keeps (turn.mergeAll duties deduplicator session job rows) := by
  induction rows generalizing turn job with
  | nil => exact ⟨rfl, rfl⟩
  | cons row rest ih =>
    unfold mergeAll
    split
    · exact ⟨rfl, rfl⟩
    · split
      · exact ⟨rfl, rfl⟩
      · simp only
        split
        · exact ⟨rfl, rfl⟩
        · exact ih _

theorem endLookup_connectThrottle (begun : Instant) :
    (turn.endLookup moment begun).shared.connectThrottle = turn.shared.connectThrottle := by
  simp only [endLookup]
  split <;> rfl

theorem endDuplicates_keeps (job : Job α) (begun : Instant)
    (answer : Except DatabaseError (List Row)) :
    turn.Keeps (turn.endDuplicates duties moment session job begun answer) := by
  have hlookup (turn' : Turn α) (h : ((turn.endCall.time moment .deleteDuplicate begun).endLookup
      moment begun).Keeps turn') : turn.Keeps turn' :=
    ⟨h.1.trans (endLookup_connectThrottle begun), h.2⟩
  apply hlookup
  unfold endDuplicates
  split
  · exact ⟨rfl, rfl⟩
  · exact mergeAll_keeps _ job _
  · exact ⟨rfl, rfl⟩

theorem settle_keeps (success : Bool) :
    turn.Keeps (turn.settle duties moment session success) :=
  @passFailureGate_keeps α duties moment (turn.registerJob moment success) session true

theorem settleFailure_keeps (job : Job α) (operation status : String) (failure : JobFailure) :
    turn.Keeps (turn.settleFailure duties moment session job operation status failure) :=
  @settle_keeps α duties moment
    (turn.report moment job operation status (some failure.diagnosis)) session _

theorem endInsertion_keeps (job : Job α) (timer : Timer) (begun : Instant)
    (operation remark : String) (next : JobStage) (answer : Except DatabaseError Nat) :
    turn.Keeps (turn.endInsertion moment session job timer begun operation remark next answer) := by
  unfold endInsertion
  split
  · exact ⟨rfl, rfl⟩
  · simp only
    split <;> exact ⟨rfl, rfl⟩

theorem endUndo_keeps (job : Job α) (failure : JobFailure) :
    turn.Keeps (turn.endUndo duties moment session job failure) := by
  unfold endUndo
  split
  · simp only
    split <;> exact ⟨rfl, rfl⟩
  · exact ⟨rfl, rfl⟩
  · exact ⟨rfl, rfl⟩

theorem endSave_keeps (job : Job α) : turn.Keeps (turn.endSave duties moment session job) := by
  unfold endSave
  split <;> exact ⟨rfl, rfl⟩

theorem endDelivery_keeps (job : Job α) (reception : Reception) :
    turn.Keeps (turn.endDelivery session job reception) := by
  unfold endDelivery
  split <;> exact ⟨rfl, rfl⟩

/-- A turn at a claimed job keeps the connection. -/
theorem resumeJob_keeps (job : Job α) (stage : JobStage)
    (answer : (Point.jobCall duties session job stage).Answer) :
    turn.Keeps (turn.resumeJob duties moment session job stage answer) := by
  cases stage with
  | saving =>
    rcases answer with error | ⟨⟩
    · exact ⟨rfl, rfl⟩
    · exact endSave_keeps job
  | deduplicating begun => exact endDuplicates_keeps job begun answer
  | delivering => exact endDelivery_keeps job answer
  | undoing failure =>
    rcases answer with error | ⟨⟩
    · exact ⟨rfl, rfl⟩
    · exact endUndo_keeps job failure
  | puttingOff failure delayMillis begun => exact endInsertion_keeps job _ begun _ _ _ answer
  | puttingBack failure begun => exact endInsertion_keeps job _ begun _ _ _ answer
  | archiving failure begun => exact endInsertion_keeps job _ begun _ _ _ answer
  | committingSuccess =>
    rcases answer with error | ⟨⟩
    · exact ⟨rfl, rfl⟩
    · exact @settle_keeps α duties moment (turn.report moment job "accept" "success" none) session
        true
  | committingPutOff failure | committingPutBack failure | committingArchive failure =>
    rcases answer with error | ⟨⟩
    · exact ⟨rfl, rfl⟩
    · exact settleFailure_keeps job _ _ failure
  | releasing | committingClaim failure | beginningArchive failure =>
    rcases answer with error | ⟨⟩ <;> exact ⟨rfl, rfl⟩

end Turn

/-- What the connect throttle hears from a worker that goes on. -/
theorem Worker.resume_connects (duties : Duties α) (moment : Moment) (shared : Shared)
    (worker : Worker α) (answer : (worker.call duties).Answer) :
    worker.point.Connects duties moment shared.connectThrottle answer
      (worker.resume duties moment shared answer).shared.connectThrottle
      (worker.resume duties moment shared answer).worker.point := by
  obtain ⟨name, bounds, countdown, point⟩ := worker
  cases point with
  | idle => exact ⟨rfl, rfl⟩
  | crashed => exact ⟨rfl, rfl⟩
  | starting =>
    exact @Turn.passConnectGate_comesToGate α moment
      (Turn.log ⟨shared, ⟨name, bounds, countdown, .starting⟩, []⟩ .info "🚀 Queue worker started" [])
  | atConnectGate sleeper => exact Turn.passConnectGate_comesToGate
  | connecting begun =>
    rcases answer with error | session
    · exact @Turn.endConnect_error α duties moment _ begun error
    · exact Turn.endConnect_ok begun session
  | atFailureGate session waits sleeper => exact Turn.passFailureGate_keeps waits
  | asleep session wakesAt => exact Turn.wake_keeps rfl
  | polling session cycle stage => exact Turn.resumePoll_keeps_or_abandons cycle stage answer
  | working session job stage => exact Turn.resumeJob_keeps job stage answer
  | rollingBack session fault =>
    rcases answer with error | ⟨⟩ <;> exact ⟨rfl, rfl⟩
  | closing session last =>
    cases last with
    | true => exact @Turn.endClose_last α moment _ answer
    | false => exact Turn.endClose_comesToGate answer

/-! ## The log -/

namespace ConnectEvent

/-- What the connect throttle is told. A refused attempt is reported twice. -/
def reports : ConnectEvent → List Throttle.Report
  | begun _ => []
  | connected moment => [⟨true, moment⟩]
  | refused moment => [⟨false, moment⟩, ⟨false, moment⟩]
  | gaveUp moment => [⟨false, moment⟩]

def beginning? : ConnectEvent → Option Instant
  | begun moment => some moment
  | connected _ | refused _ | gaveUp _ => none

end ConnectEvent

namespace Point

def connectOutcome? (duties : Duties α) (now : Instant) :
    (point : Point α) → (point.call duties).Answer → Point α → Option ConnectEvent
  | connecting _, .ok _, _ => some (.connected now)
  | connecting _, .error _, _ => some (.refused now)
  | polling .., _, closing _ false => some (.gaveUp now)
  | _, _, _ => none

def beginning? : Point α → Option Instant
  | connecting begun => some begun
  | _ => none

/-- What concerns the connection of a worker that goes from one point to another. -/
def connectEvents (duties : Duties α) (now : Instant) (point : Point α)
    (answer : (point.call duties).Answer) (next : Point α) : List ConnectEvent :=
  (point.connectOutcome? duties now answer next).toList ++ next.beginning?.toList.map .begun

end Point

namespace World

variable {duties : Duties α}

/-- What concerns the connections of the workers when a move is made. -/
def connectEvents (world : World duties) : Move → List ConnectEvent
  | .resume number =>
    match world.members[number]? with
    | some member =>
      match member.ready world.shared world.moment with
      | some answer =>
        member.worker.point.connectEvents duties world.now answer
          (member.worker.resume duties world.moment world.shared answer).worker.point
      | none => []
    | none => []
  | _ => []

end World

def Past.connectLog {duties : Duties α} (past : Past duties) : List ConnectEvent :=
  past.reverse.flatMap fun (world, move) ↦ world.connectEvents move

def Past.connectTimes {duties : Duties α} (past : Past duties) : List Instant :=
  past.connectLog.filterMap ConnectEvent.beginning?

namespace Past

variable {duties : Duties α}

theorem connectLog_cons (world : World duties) (move : Move) (past : Past duties) :
    connectLog ((world, move) :: past) = connectLog past ++ world.connectEvents move := by
  simp [connectLog]

theorem connectTimes_cons (world : World duties) (move : Move) (past : Past duties) :
    connectTimes ((world, move) :: past) =
      connectTimes past ++ (world.connectEvents move).filterMap ConnectEvent.beginning? := by
  rw [connectTimes, connectLog_cons, List.filterMap_append]
  rfl

def connectReports (past : Past duties) : List Throttle.Report :=
  past.connectLog.flatMap ConnectEvent.reports

theorem connectReports_cons (world : World duties) (move : Move) (past : Past duties) :
    connectReports ((world, move) :: past) =
      connectReports past ++ (world.connectEvents move).flatMap ConnectEvent.reports := by
  rw [connectReports, connectLog_cons, List.flatMap_append]
  rfl

end Past

namespace Point

variable {duties : Duties α} {moment : Moment} {throttle throttle' : Throttle}
  {point next : Point α} {answer : (point.call duties).Answer}

/-- The only attempt that begins in a turn is the one under way after it. -/
theorem filterMap_beginning?_connectEvents (now : Instant) (answer : (point.call duties).Answer)
    (next : Point α) : (point.connectEvents duties now answer next).filterMap
      ConnectEvent.beginning? = next.beginning?.toList := by
  have houtcome : (point.connectOutcome? duties now answer next).toList.filterMap
      ConnectEvent.beginning? = [] := by
    unfold connectOutcome?
    split <;> rfl
  have hbegun (begun? : Option Instant) : (begun?.toList.map ConnectEvent.begun).filterMap
      ConnectEvent.beginning? = begun?.toList := by
    cases begun? <;> rfl
  rw [connectEvents, List.filterMap_append, houtcome, hbegun, List.nil_append]

theorem flatMap_reports_begun (begun? : Option Instant) :
    (begun?.toList.map ConnectEvent.begun).flatMap ConnectEvent.reports = [] := by
  cases begun? <;> rfl

/-- An attempt that begins is not reported. -/
theorem flatMap_reports_connectEvents (now : Instant) (answer : (point.call duties).Answer)
    (next : Point α) : (point.connectEvents duties now answer next).flatMap ConnectEvent.reports =
      (point.connectOutcome? duties now answer next).toList.flatMap ConnectEvent.reports := by
  rw [connectEvents, List.flatMap_append, flatMap_reports_begun, List.append_nil]

/-- A turn that decides nothing about a connection adds no report. -/
theorem append_reports_of_none (reports : List Throttle.Report) (now : Instant)
    (point next : Point α) (answer : (point.call duties).Answer)
    (h : point.connectOutcome? duties now answer next = none) :
    reports ++ (point.connectEvents duties now answer next).flatMap ConnectEvent.reports =
      reports := by
  rw [flatMap_reports_connectEvents, h]
  exact List.append_nil reports

/-- A turn reports what it decides about a connection, and nothing about an attempt that it
begins. -/
theorem append_reports_of_some (reports : List Throttle.Report) (now : Instant)
    (point next : Point α) (answer : (point.call duties).Answer) (event : ConnectEvent)
    (h : point.connectOutcome? duties now answer next = some event) :
    reports ++ (point.connectEvents duties now answer next).flatMap ConnectEvent.reports =
      reports ++ event.reports := by
  rw [flatMap_reports_connectEvents, h]
  exact congrArg (reports ++ ·) (List.append_nil event.reports)

/-- A worker that comes to the connect throttle leaves, waits or connects. -/
theorem Gates.cases (h : point.Gates moment throttle) :
    point = idle ∨
      (∃ sleeper, throttle.consult moment.now = some sleeper ∧ point = atConnectGate sleeper) ∨
      throttle.consult moment.now = none ∧ point = connecting moment.now := by
  unfold Gates at h
  split at h
  · exact .inl h
  · split at h
    · next sleeper hsleeper => exact .inr (.inl ⟨sleeper, hsleeper, h⟩)
    · next hpass => exact .inr (.inr ⟨hpass, h⟩)

/-- A search that goes on has not ended. -/
theorem connectOutcome?_of_isEngaged {session : Nat} {cycle : Cycle} {stage : PollStage}
    {now : Instant} {answer : ((polling session cycle stage : Point α).call duties).Answer}
    (h : next.isEngaged) :
    (polling session cycle stage : Point α).connectOutcome? duties now answer next = none := by
  cases next with
  | closing other last =>
    cases last with
    | true => rfl
    | false => cases h
  | idle | starting | atConnectGate | connecting | atFailureGate | asleep | polling | working
    | rollingBack | crashed => rfl

/-- The events of a turn report what the connect throttle hears. -/
theorem Connects.throttle_eq (h : point.Connects duties moment throttle answer throttle' next) :
    throttle' = throttle.registerAll
      ((point.connectEvents duties moment.now answer next).flatMap ConnectEvent.reports) := by
  rw [flatMap_reports_connectEvents]
  cases point with
  | idle | starting | atConnectGate | rollingBack | atFailureGate | asleep | working | crashed =>
    exact h.1
  | closing session last => cases last <;> exact h.1
  | connecting begun => rcases answer with error | session <;> exact h.1
  | polling session cycle stage =>
    cases h with
    | inl hkeeps =>
      rw [connectOutcome?_of_isEngaged hkeeps.2]
      exact hkeeps.1
    | inr habandons =>
      obtain ⟨hthrottle, rfl⟩ := habandons
      exact hthrottle

end Point

/-- Whether the attempt to connect has succeeded, once it has ended. -/
def Point.isAdmitted? (duties : Duties α) :
    (point : Point α) → Option (point.call duties).Answer → Option Bool
  | .connecting _, some (.ok _) => some true
  | .connecting _, some (.error _) => some false
  | _, _ => none

namespace Member

variable {duties : Duties α} {member : Member duties}

/-- Whether the attempt of a member to connect has succeeded, once it has ended. -/
def isAdmitted? (member : Member duties) : Option Bool :=
  member.worker.point.isAdmitted? duties member.answer?

theorem isAdmitted?_of_open (h : member.answer? = none) : member.isAdmitted? = none := by
  obtain ⟨⟨name, bounds, countdown, point⟩, answer?, servedAt, attempt⟩ := member
  obtain rfl : answer? = none := h
  cases point <;> rfl

/-- An attempt to connect ends as chance has it. -/
theorem isAdmitted?_answered {worker : Worker α} {server : Server} {now servedAt : Instant}
    {chance : Chance} {attempt : Attempt} {admitted : Bool}
    (h : (⟨worker, (server.answer now chance (worker.call duties)).2, servedAt, attempt⟩ :
      Member duties).isAdmitted? = some admitted) : chance.refusal.isNone = admitted := by
  obtain ⟨name, bounds, countdown, point⟩ := worker
  cases point with
  | connecting begun =>
    cases hrefusal : chance.refusal with
    | none | some =>
      simp only [isAdmitted?, Worker.call, Point.call, Server.answer, hrefusal] at h
      exact Option.some.inj h
  | idle | starting | atConnectGate | atFailureGate | asleep | polling | working | rollingBack
    | closing | crashed => cases h

end Member

namespace World

variable {duties : Duties α} {world : World duties}

/-- Only a worker that goes on changes what the crew shares. -/
theorem shared_step {move : Move} (h : ∀ number, move ≠ .resume number) :
    (world.step move).shared = world.shared := by
  have hsteps := world.steps move
  generalize world.step move = world' at hsteps ⊢
  cases hsteps with
  | resumed => exact absurd rfl (h _)
  | refused | passed | produced | dropped | unanswered | answered | wrote | started | stopped
    | awaited | waiting | reclaimed | forgotten | released => rfl

/-- What a move does to the connect throttle. -/
theorem connectThrottle_step (world : World duties) (move : Move) :
    (world.step move).shared.connectThrottle = world.shared.connectThrottle.registerAll
      ((world.connectEvents move).flatMap ConnectEvent.reports) := by
  cases move with
  | resume number =>
    cases hmember : world.members[number]? with
    | none => simp only [step, resume, connectEvents, hmember]; rfl
    | some member =>
      cases hready : member.ready world.shared world.moment with
      | none => simp only [step, resume, connectEvents, hmember, hready]; rfl
      | some answer =>
        simp only [step, resume_eq hmember hready, connectEvents, hmember, hready]
        exact (member.worker.resume_connects duties world.moment world.shared answer).throttle_eq
  | pass | produce | drop | answer | write | start | stop | await | endAwait | release =>
    rw [shared_step fun _ h ↦ by cases h]
    rfl

/-- The connect throttle is what the reports of a run have made of it. -/
theorem connectThrottle_of_run {allowed : World duties → Move → Prop} {start : World duties}
    {past : Past duties} (run : Run allowed start past world) :
    world.shared.connectThrottle =
      start.shared.connectThrottle.registerAll past.connectReports := by
  induction run with
  | rest => rfl
  | @move past world move _ _ ih =>
    rw [connectThrottle_step, ih, Past.connectReports_cons, Throttle.registerAll_append]

/-! ## A crew of one -/

/-- What a move means for the only worker of a crew, with what concerns its connection. -/
inductive Alone (world : World duties) (member : Member duties) :
    Move → World duties → List ConnectEvent → Member duties → Prop where
  | passed {span : Span} {world' : World duties} : world'.now = world.now.after span →
      Alone world member (.pass span) world' [] member
  /-- The move has nothing to do with the worker. -/
  | rested {move : Move} {world' : World duties} : world'.now = world.now →
      Alone world member move world' [] member
  | answered {chance : Chance} {attempt : Attempt} {world' : World duties} :
      member.answer? = none → world'.now = world.now →
      Alone world member (.answer 0 chance) world' []
        ⟨member.worker, (world.server.answer world.now chance (member.worker.call duties)).2,
          world.now, attempt⟩
  | spawned {world' : World duties} : member.worker.point = .idle → world'.now = world.now →
      world'.crew.isStopped = false → Alone world member .start world' [] member.spawn
  | resumed {answer : (member.worker.call duties).Answer} {worker : Worker α}
      {world' : World duties} : member.ready world.shared world.moment = some answer →
      world'.moment = world.moment →
      member.worker.point.Connects duties world.moment world.shared.connectThrottle answer
        world'.shared.connectThrottle worker.point →
      Alone world member (.resume 0) world'
        (member.worker.point.connectEvents duties world.now answer worker.point)
        ⟨worker, none, member.servedAt, member.attempt⟩

/-- A crew that has not been told to stop goes on. -/
theorem isStopped_step {move : Move} (h : world.crew.isStopped = false) (hstop : move ≠ .stop)
    (hrelease : move ≠ .release) : (world.step move).crew.isStopped = false := by
  have hsteps := world.steps move
  generalize world.step move = world' at hsteps ⊢
  cases hsteps with
  | stopped => exact absurd rfl hstop
  | released => exact absurd rfl hrelease
  | started =>
    have hreleased : world.crew.isReleased = false := (Bool.or_eq_false_iff.1 h).2
    exact Bool.or_eq_false_iff.2 ⟨rfl, hreleased⟩
  | refused | passed | produced | dropped | unanswered | answered | wrote | resumed | awaited
    | waiting | reclaimed | forgotten => exact h

theorem getElem?_of_members_eq {member member' : Member duties} {number : Nat}
    (hmembers : world.members = [member]) (h : world.members[number]? = some member') :
    number = 0 ∧ member' = member := by
  rw [hmembers] at h
  cases number with
  | zero => exact ⟨rfl, (Option.some.inj h).symm⟩
  | succ number => cases h

/-- A worker goes on, or stays where it is. -/
theorem alone_resume {member : Member duties} (hmembers : world.members = [member])
    (number : Nat) :
    ∃ member', (world.resume number).members = [member'] ∧
      Alone world member (.resume number) (world.resume number)
        (world.connectEvents (.resume number)) member' := by
  cases hmember : world.members[number]? with
  | none =>
    have hsame : world.resume number = world := by simp only [resume, hmember]
    rw [hsame]
    refine ⟨member, hmembers, ?_⟩
    simp only [connectEvents, hmember]
    exact .rested rfl
  | some member' =>
    obtain ⟨rfl, rfl⟩ := getElem?_of_members_eq hmembers hmember
    cases hready : member'.ready world.shared world.moment with
    | none =>
      have hsame : world.resume 0 = world := by simp only [resume, hmember, hready]
      rw [hsame]
      refine ⟨member', hmembers, ?_⟩
      simp only [connectEvents, hmember, hready]
      exact .rested rfl
    | some answer =>
      have hconnects := member'.worker.resume_connects duties world.moment world.shared answer
      have hevents : world.connectEvents (.resume 0) =
          member'.worker.point.connectEvents duties world.now answer
            (member'.worker.resume duties world.moment world.shared answer).worker.point := by
        simp only [connectEvents, hmember, hready]
      rw [resume_eq hmember hready, hevents]
      refine ⟨_, by rw [hmembers]; rfl, ?_⟩
      exact .resumed hready rfl hconnects

/-- What every move means for the only worker of a crew. -/
theorem Sound.alone (h : world.Sound) {member : Member duties}
    (hmembers : world.members = [member]) (move : Move) :
    ∃ member', (world.step move).members = [member'] ∧
      Alone world member move (world.step move) (world.connectEvents move) member' := by
  have hsteps := world.steps move
  cases move with
  | resume number => exact alone_resume hmembers number
  | pass span => exact ⟨member, hmembers, .passed rfl⟩
  | answer number chance =>
    generalize world.step (.answer number chance) = world' at hsteps ⊢
    cases hsteps with
    | refused hrefusable => cases hrefusable
    | unanswered => exact ⟨member, hmembers, .rested rfl⟩
    | answered chance hmember =>
      obtain ⟨rfl, rfl⟩ := getElem?_of_members_eq hmembers hmember
      refine ⟨_, by rw [hmembers]; rfl, ?_⟩
      exact .answered rfl rfl
  | start =>
    generalize world.step .start = world' at hsteps ⊢
    cases hsteps with
    | refused => exact ⟨member, hmembers, .rested rfl⟩
    | @started tasks hadmits htasks =>
      have hlength : (tasks.foldl spawn world).members.length = 1 := by
        rw [length_members_foldl_spawn, hmembers]
        rfl
      obtain ⟨only, honly⟩ := List.length_eq_one_iff.1 hlength
      have hspawned := getElem?_foldl_spawn world tasks 0
      rw [honly, hmembers] at hspawned
      refine ⟨only, honly, ?_⟩
      by_cases htask : 0 ∈ tasks
      · obtain rfl : only = member.spawn := by simpa [htask] using hspawned
        have hreleased : world.crew.isReleased = false := by
          simp only [admitsCall, Bool.and_eq_true, Bool.not_eq_true'] at hadmits
          exact hadmits.2
        exact .spawned (h.idle_of_start htasks htask (by rw [hmembers]; rfl)) rfl
          (by simp [Crew.isStopped, hreleased])
      · obtain rfl : only = member := by simpa [htask] using hspawned
        exact .rested rfl
  | produce | drop | write | stop | await | endAwait | release =>
    generalize hworld : world.step _ = world' at hsteps ⊢
    cases hsteps <;> exact ⟨member, hmembers, .rested rfl⟩

end World

end TableQueue
