import TableQueue.Proofs.Countdown
import TableQueue.Proofs.World.Connects
import TableQueue.Proofs.World.Incidents

/-!
# What the failure throttle hears of

The failure throttle hears of a job when its outcome is committed, and when its transaction has been
rolled back; nothing else that a worker does concerns it. A worker that begins a search has been let
through by it. The throttle is what the reports of a run have made of it.
-/

namespace TableQueue

variable {α : Type} {duties : Duties α}

/-- What is reported of a job whose outcome is committed. -/
def JobStage.registration? : JobStage → Option Bool
  | committingSuccess => some true
  | committingPutOff failure | committingPutBack failure | committingArchive failure =>
    some (!failure.throttles)
  | saving | deduplicating _ | delivering | releasing | undoing _ | puttingOff .. | puttingBack ..
  | committingClaim _ | beginningArchive _ | archiving .. => none

/-- What the failure throttle is told when a worker goes from one point to another. -/
def Point.registration? : Point α → Point α → Option Bool
  | working .., rollingBack .. => none
  | working _ _ stage, _ => stage.registration?
  | rollingBack .., _ => some false
  | _, _ => none

theorem Point.registration?_of_pollSession? {source target : Point α}
    (h : source.pollSession?.isSome) : source.registration? target = none := by
  cases source <;> first | rfl | cases h

theorem Point.registration?_of_isAsleep {source target : Point α} (h : source.isAsleep = true) :
    source.registration? target = none := by
  cases source <;> first | rfl | cases h

/-! ## Turns -/

namespace Turn

variable {moment : Moment} {turn : Turn α} {session : Nat}

@[simp] theorem failureThrottle_goTo (point : Point α) :
    (turn.goTo point).shared.failureThrottle = turn.shared.failureThrottle := rfl

@[simp] theorem failureThrottle_note (note : Note α) :
    (turn.note note).shared.failureThrottle = turn.shared.failureThrottle := rfl

@[simp] theorem failureThrottle_log (level : Level) (message : String)
    (fields : List (String × Log.FieldValue)) :
    (turn.log level message fields).shared.failureThrottle = turn.shared.failureThrottle := rfl

@[simp] theorem failureThrottle_logFault (message : String) (fault : Fault) :
    (turn.logFault message fault).shared.failureThrottle = turn.shared.failureThrottle := rfl

@[simp] theorem failureThrottle_beginCall :
    (turn.beginCall moment).shared.failureThrottle = turn.shared.failureThrottle := rfl

@[simp] theorem failureThrottle_endCall :
    turn.endCall.shared.failureThrottle = turn.shared.failureThrottle := rfl

@[simp] theorem failureThrottle_time (timer : Timer) (begun : Instant) :
    (turn.time moment timer begun).shared.failureThrottle = turn.shared.failureThrottle := rfl

@[simp] theorem failureThrottle_registerConnect (success : Bool) :
    (turn.registerConnect moment success).shared.failureThrottle =
      turn.shared.failureThrottle := rfl

@[simp] theorem failureThrottle_setBound (queue : String) (bound : Instant) :
    (turn.setBound queue bound).shared.failureThrottle = turn.shared.failureThrottle := rfl

@[simp] theorem failureThrottle_beginCycle (cycle : Cycle) :
    (turn.beginCycle duties moment session cycle).shared.failureThrottle =
      turn.shared.failureThrottle := by
  simp only [beginCycle]
  split
  · rfl
  · split <;> rfl

@[simp] theorem failureThrottle_passFailureGate (waits : Bool) :
    (turn.passFailureGate duties moment session waits).shared.failureThrottle =
      turn.shared.failureThrottle := by
  unfold passFailureGate
  split
  · rfl
  · split
    · rfl
    · exact failureThrottle_beginCycle _

@[simp] theorem failureThrottle_passConnectGate :
    (turn.passConnectGate moment).shared.failureThrottle = turn.shared.failureThrottle := by
  unfold passConnectGate
  split
  · rfl
  · split <;> rfl

@[simp] theorem failureThrottle_endClose (last : Bool) (answer : Except DatabaseError Unit) :
    (turn.endClose moment last answer).shared.failureThrottle = turn.shared.failureThrottle := by
  unfold endClose
  cases last <;> cases answer
  case false.ok | false.error => exact failureThrottle_passConnectGate
  case true.ok | true.error => rfl

@[simp] theorem failureThrottle_failFetch (session? : Option Nat) (fault : Fault) :
    (turn.failFetch moment session? fault).shared.failureThrottle =
      turn.shared.failureThrottle := by
  cases session? with
  | some session => rfl
  | none => exact failureThrottle_passConnectGate

@[simp] theorem failureThrottle_endConnect (begun : Instant) (answer : Except DatabaseError Nat) :
    (turn.endConnect duties moment begun answer).shared.failureThrottle =
      turn.shared.failureThrottle := by
  cases answer with
  | ok session => exact failureThrottle_passFailureGate _
  | error error => exact failureThrottle_failFetch _ _

/-! ### Passes -/

@[simp] theorem failureThrottle_pollNext (cycle : Cycle) (queues : List String) :
    (turn.pollNext moment session cycle queues).shared.failureThrottle =
      turn.shared.failureThrottle := by
  cases queues with
  | nil => rfl
  | cons queue rest =>
    simp only [pollNext]
    split <;> rfl

@[simp] theorem failureThrottle_endProbe (cycle : Cycle) (queue : String) (rest : List String)
    (begun bound : Instant) :
    (turn.endProbe duties moment session cycle queue rest begun bound).shared.failureThrottle =
      turn.shared.failureThrottle := by
  simp only [endProbe]
  split <;> rfl

@[simp] theorem failureThrottle_accept (queue : String) (row : Row) :
    (turn.accept duties moment session queue row).shared.failureThrottle =
      turn.shared.failureThrottle := by
  unfold accept
  split
  · rfl
  · split <;> rfl

@[simp] theorem failureThrottle_endEmptyCycle (cycle : Cycle) :
    (turn.endEmptyCycle duties moment session cycle).shared.failureThrottle =
      turn.shared.failureThrottle := by
  unfold endEmptyCycle
  split
  · exact failureThrottle_passFailureGate true
  · simp only
    split
    · exact failureThrottle_beginCycle _
    · split <;> rfl

@[simp] theorem failureThrottle_wake (wakesAt : Instant) :
    (turn.wake duties moment session wakesAt).shared.failureThrottle =
      turn.shared.failureThrottle := by
  unfold wake
  split
  · exact failureThrottle_beginCycle _
  · rfl

/-- A turn in a pass tells the failure throttle nothing. -/
theorem failureThrottle_resumePoll (cycle : Cycle) (stage : PollStage)
    (answer : (@Point.pollCall α session stage).Answer) :
    (turn.resumePoll duties moment session cycle stage answer).shared.failureThrottle =
      turn.shared.failureThrottle := by
  cases stage with
  | beginning =>
    rcases answer with error | ⟨⟩
    · rfl
    · exact failureThrottle_pollNext _ _
  | probing queue rest begun =>
    rcases answer with error | _ | oldest
    · rfl
    · rfl
    · exact failureThrottle_endProbe _ _ _ _ _
  | bounding queue rest begun =>
    rcases answer with error | recent
    · rfl
    · exact failureThrottle_endProbe _ _ _ _ _
  | replanning queue rest bound => rcases answer with error | ⟨⟩ <;> rfl
  | claiming queue rest notBefore begun =>
    rcases answer with error | _ | row
    · rfl
    · exact failureThrottle_pollNext _ _
    · exact failureThrottle_accept _ _
  | abandoning =>
    rcases answer with error | ⟨⟩
    · rfl
    · exact failureThrottle_endEmptyCycle _

/-! ### Jobs -/

/-- The throttle is told of a registration. -/
def Tells (moment : Moment) (source : Point α) (throttle : Throttle) (turn : Turn α) : Prop :=
  turn.shared.failureThrottle = throttle.registerAll
    ((source.registration? turn.worker.point).toList.map fun success ↦ ⟨success, moment.now⟩)

theorem tells_of_none {source : Point α} {throttle : Throttle}
    (hnone : source.registration? turn.worker.point = none)
    (hsame : turn.shared.failureThrottle = throttle) : turn.Tells moment source throttle := by
  rw [Tells, hnone]
  exact hsame

theorem failureThrottle_mergeAll (deduplicator : Deduplicator α) (job : Job α) (rows : List Row) :
    (turn.mergeAll duties deduplicator session job rows).shared.failureThrottle =
      turn.shared.failureThrottle := by
  induction rows generalizing turn job with
  | nil => rfl
  | cons row rest ih =>
    unfold mergeAll
    split
    · rfl
    · split
      · rfl
      · simp only
        split
        · rfl
        · exact ih _

theorem failureThrottle_endLookup (begun : Instant) :
    (turn.endLookup moment begun).shared.failureThrottle = turn.shared.failureThrottle := by
  simp only [endLookup]
  split <;> rfl

theorem failureThrottle_endDuplicates (job : Job α) (begun : Instant)
    (answer : Except DatabaseError (List Row)) :
    (turn.endDuplicates duties moment session job begun answer).shared.failureThrottle =
      turn.shared.failureThrottle := by
  have hlookup : ((turn.endCall.time moment .deleteDuplicate begun).endLookup moment
      begun).shared.failureThrottle = turn.shared.failureThrottle :=
    failureThrottle_endLookup begun
  rw [← hlookup]
  unfold endDuplicates
  split
  · rfl
  · exact failureThrottle_mergeAll _ _ _
  · rfl

theorem failureThrottle_endInsertion (job : Job α) (timer : Timer) (begun : Instant)
    (operation remark : String) (next : JobStage) (answer : Except DatabaseError Nat) :
    (turn.endInsertion moment session job timer begun operation remark next
      answer).shared.failureThrottle = turn.shared.failureThrottle := by
  unfold endInsertion
  split
  · rfl
  · simp only
    split <;> rfl

theorem failureThrottle_endUndo (job : Job α) (failure : JobFailure) :
    (turn.endUndo duties moment session job failure).shared.failureThrottle =
      turn.shared.failureThrottle := by
  unfold endUndo
  split
  · simp only
    split <;> rfl
  · rfl
  · rfl

/-- The outcome of a job is committed, and the worker comes to the throttle. -/
theorem settle_tells {job : Job α} {stage : JobStage} {success : Bool}
    (hstage : stage.registration? = some success) (operation status : String)
    (details : Option String) :
    ((turn.report moment job operation status details).settle duties moment session
      success).Tells moment (.working session job stage) turn.shared.failureThrottle := by
  have hrests := @passFailureGate_rests α duties moment
    ((turn.report moment job operation status details).registerJob moment success) session true
  have hsame := @failureThrottle_passFailureGate α duties moment
    ((turn.report moment job operation status details).registerJob moment success) session true
  unfold settle Tells
  generalize ((turn.report moment job operation status details).registerJob moment
    success).passFailureGate duties moment session true = turn' at hrests hsame ⊢
  have hregistered : (Point.working session job stage).registration? turn'.worker.point =
      some success := by
    cases htarget : turn'.worker.point with
    | rollingBack =>
      rw [htarget] at hrests
      exact hrests.1.elim
    | idle | starting | atConnectGate | connecting | atFailureGate | asleep | polling | working
      | closing | crashed => exact hstage
  rw [hregistered, hsame]
  rfl

/-- A turn at a claimed job tells the failure throttle of the outcome that it commits. -/
theorem resumeJob_tells (job : Job α) (stage : JobStage)
    (answer : (Point.jobCall duties session job stage).Answer) :
    (turn.resumeJob duties moment session job stage answer).Tells moment
      (.working session job stage) turn.shared.failureThrottle := by
  have hnothing {turn' : Turn α} (hstage : stage.registration? = none)
      (hsame : turn'.shared.failureThrottle = turn.shared.failureThrottle) :
      turn'.Tells moment (.working session job stage) turn.shared.failureThrottle := by
    refine tells_of_none ?_ hsame
    cases turn'.worker.point <;> first | rfl | exact hstage
  cases stage with
  | saving =>
    rcases answer with error | ⟨⟩
    · rfl
    · simp only [resumeJob, afterCommand, endSave]
      split <;> exact hnothing rfl rfl
  | deduplicating begun => exact hnothing rfl (failureThrottle_endDuplicates job begun answer)
  | delivering =>
    simp only [resumeJob, endDelivery]
    split <;> exact hnothing rfl rfl
  | undoing failure =>
    rcases answer with error | ⟨⟩
    · rfl
    · exact hnothing rfl (failureThrottle_endUndo job failure)
  | puttingOff | puttingBack | archiving =>
    exact hnothing rfl (failureThrottle_endInsertion job _ _ _ _ _ answer)
  | releasing | committingClaim | beginningArchive =>
    rcases answer with error | ⟨⟩ <;> exact hnothing rfl rfl
  | committingSuccess | committingPutOff | committingPutBack | committingArchive =>
    rcases answer with error | ⟨⟩
    · rfl
    · exact settle_tells rfl _ _ _

end Turn

/-- What the failure throttle hears from a worker that goes on. -/
theorem Worker.resume_tells (duties : Duties α) (moment : Moment) (shared : Shared)
    (worker : Worker α) (answer : (worker.call duties).Answer) :
    (worker.resume duties moment shared answer).Tells moment worker.point
      shared.failureThrottle := by
  obtain ⟨name, bounds, countdown, point⟩ := worker
  cases point with
  | idle | crashed => rfl
  | starting | atConnectGate => exact Turn.tells_of_none rfl Turn.failureThrottle_passConnectGate
  | connecting begun => exact Turn.tells_of_none rfl (Turn.failureThrottle_endConnect begun answer)
  | atFailureGate session waits =>
    exact Turn.tells_of_none rfl (Turn.failureThrottle_passFailureGate waits)
  | asleep session wakesAt => exact Turn.tells_of_none rfl (Turn.failureThrottle_wake wakesAt)
  | polling session cycle stage =>
    exact Turn.tells_of_none rfl (Turn.failureThrottle_resumePoll cycle stage answer)
  | working session job stage => exact Turn.resumeJob_tells job stage answer
  | rollingBack session fault => rcases answer with error | ⟨⟩ <;> rfl
  | closing session last =>
    exact Turn.tells_of_none rfl (Turn.failureThrottle_endClose last answer)

/-! ## Searches -/

/-- A search begins in a turn only if the failure throttle makes nobody wait. -/
def Turn.Admits (moment : Moment) (turn : Turn α) : Prop :=
  turn.worker.point.isBeginning = true → turn.shared.failureThrottle.consult moment.now = none

namespace Turn

variable {moment : Moment} {turn : Turn α} {session : Nat}

theorem admits_of_false (h : turn.worker.point.isBeginning = false) : turn.Admits moment := by
  intro hbegins
  rw [h] at hbegins
  cases hbegins

/-- A search begins only if the failure throttle makes nobody wait. -/
theorem passFailureGate_admits (waits : Bool) :
    (turn.passFailureGate duties moment session waits).Admits moment := by
  unfold passFailureGate
  split
  · exact admits_of_false rfl
  · split
    · exact admits_of_false rfl
    · next hpass =>
      intro _
      rw [failureThrottle_beginCycle]
      exact hpass

end Turn

theorem Point.IsUnconnected.isBeginning {point : Point α} (h : point.IsUnconnected) :
    point.isBeginning = false := by
  cases point <;> first | rfl | exact h.elim

/-- Where a worker comes to that looks for a job. -/
inductive Point.PollTarget (session : Nat) (cycle : Cycle) (stage : PollStage) :
    Point α → Prop where
  | goesOn {stage' : PollStage} : stage' ≠ .beginning →
      PollTarget session cycle stage (polling session cycle stage')
  | givesUp : PollTarget session cycle stage (closing session false)
  | takes (job : Job α) : PollTarget session cycle stage (working session job .saving)
  | rests {target : Point α} : stage = .abandoning → target.IsResting session →
      PollTarget session cycle stage target

namespace Point

variable {bounds bounds' : Bounds} {session : Nat} {cycle : Cycle} {stage : PollStage}
  {target : Point α} {queue : String} {queues rest : List String} {bound : Instant}

theorem GivesUp.pollTarget (h : GivesUp session bounds bounds' target) :
    PollTarget session cycle stage target := by
  rw [h.2]
  exact .givesUp

theorem Searches.pollTarget (h : Searches session cycle bounds queues bounds' target) :
    PollTarget session cycle stage target := by
  obtain ⟨-, h⟩ := h
  split at h
  · rw [h]
    exact .goesOn nofun
  · split at h <;>
    · obtain ⟨_, rfl⟩ := h
      exact .goesOn nofun

theorem Claims.pollTarget (h : Claims session cycle bounds queue rest bound bounds' target) :
    PollTarget session cycle stage target := by
  obtain ⟨-, _, rfl⟩ := h
  exact .goesOn nofun

theorem Finds.pollTarget (h : Finds session cycle bounds queue rest bound bounds' target) :
    PollTarget session cycle stage target := by
  rcases h with h | ⟨-, rfl⟩
  · exact h.pollTarget
  · exact .goesOn nofun

/-- A turn in a pass goes on with it, claims a job, gives the connection up or comes to rest. -/
theorem PollLeads.pollTarget {answer : (@pollCall α session stage).Answer}
    (hleads : PollLeads duties bounds session cycle stage answer bounds' target) :
    PollTarget session cycle stage target := by
  cases stage with
  | beginning =>
    rcases answer with error | ⟨⟩
    · exact GivesUp.pollTarget hleads
    · exact Searches.pollTarget hleads
  | probing queue rest begun =>
    rcases answer with error | _ | oldest
    · exact GivesUp.pollTarget hleads
    · rw [hleads.2]
      exact .goesOn nofun
    · exact Finds.pollTarget hleads
  | bounding queue rest begun =>
    rcases answer with error | recent
    · exact GivesUp.pollTarget hleads
    · exact Finds.pollTarget hleads
  | replanning queue rest bound =>
    rcases answer with error | ⟨⟩
    · exact GivesUp.pollTarget hleads
    · exact Claims.pollTarget hleads
  | claiming queue rest notBefore begun =>
    rcases answer with error | _ | row
    · exact GivesUp.pollTarget hleads
    · exact Searches.pollTarget hleads
    · rcases hleads with hleads | ⟨job, -, -, rfl⟩
      · exact hleads.pollTarget
      · exact .takes job
  | abandoning =>
    rcases answer with error | ⟨⟩
    · exact GivesUp.pollTarget hleads
    · exact .rests rfl hleads.1

/-- Only after an empty pass does another one begin. -/
theorem PollTarget.isBeginning (h : PollTarget session cycle stage target)
    (hstage : stage ≠ .abandoning) : target.isBeginning = false := by
  cases h with
  | @goesOn stage' hstage' => cases stage' <;> first | rfl | exact absurd rfl hstage'
  | givesUp | takes => rfl
  | rests hempty => exact absurd hempty hstage

end Point

/-- The work on a job goes on until its outcome is committed. -/
theorem Point.JobLeads.isBeginning {bounds bounds' : Bounds} {session : Nat} {job : Job α}
    {stage : JobStage} {answer : (jobCall duties session job stage).Answer} {target : Point α}
    (hleads : JobLeads duties bounds session job stage answer bounds' target)
    (hstage : stage.registration? = none) : target.isBeginning = false := by
  have hfails (h : Fails session bounds bounds' target) : target.isBeginning = false := by
    obtain ⟨-, _, rfl⟩ := h
    rfl
  have hgoes {job : Job α} {stage : JobStage} (h : Goes session job bounds stage bounds' target) :
      target.isBeginning = false := by
    rw [h.2]
    rfl
  cases stage with
  | saving =>
    rcases answer with error | ⟨⟩
    · exact hfails hleads
    · rcases hleads with hleads | ⟨-, _, hleads⟩ <;> exact hgoes hleads
  | deduplicating =>
    rcases answer with error | rows
    · exact hfails hleads
    · rcases hleads with ⟨_, -, hleads⟩ | hleads | ⟨-, _, rfl⟩
      · exact hgoes hleads
      · exact hfails hleads
      · rfl
  | delivering =>
    cases hfailure : answer.failure? <;>
    · simp only [JobLeads, hfailure] at hleads
      exact hgoes hleads
  | undoing failure =>
    rcases answer with error | ⟨⟩
    · exact hfails hleads
    · have hdisposes : Disposes duties session job failure bounds bounds' target := hleads
      unfold Disposes at hdisposes
      split at hdisposes
      · obtain ⟨_, hdisposes⟩ := hdisposes
        exact hgoes hdisposes
      · obtain ⟨_, hdisposes⟩ := hdisposes
        exact hgoes hdisposes
      · exact hgoes hdisposes
  | releasing | committingClaim | puttingOff | puttingBack | archiving =>
    rcases answer with error | reply
    · exact hfails hleads
    · exact hgoes hleads
  | beginningArchive =>
    rcases answer with error | ⟨⟩
    · exact hfails hleads
    · obtain ⟨_, hleads⟩ := hleads
      exact hgoes hleads
  | committingSuccess | committingPutOff | committingPutBack | committingArchive => cases hstage

/-- A search that a worker begins has been admitted by the failure throttle. -/
theorem Worker.resume_admits (duties : Duties α) (moment : Moment) (shared : Shared)
    (worker : Worker α) (answer : (worker.call duties).Answer)
    (hpersists : worker.point.persists = false) :
    (worker.resume duties moment shared answer).Admits moment := by
  have hleads := worker.resume_leads duties moment shared answer
  obtain ⟨name, bounds, countdown, point⟩ := worker
  cases point with
  | idle | crashed => exact Turn.admits_of_false rfl
  | starting | atConnectGate | closing => exact Turn.admits_of_false hleads.2.isBeginning
  | connecting begun =>
    rcases answer with error | session
    · exact Turn.admits_of_false hleads.2.isBeginning
    · exact Turn.passFailureGate_admits false
  | atFailureGate session waits => exact Turn.passFailureGate_admits waits
  | asleep => cases hpersists
  | polling session cycle stage =>
    by_cases hstage : stage = .abandoning
    · subst hstage
      obtain ⟨waits, hasCleared, isIdle⟩ := cycle
      obtain rfl : waits = false := hpersists
      rcases answer with error | ⟨⟩
      · exact Turn.admits_of_false rfl
      · exact Turn.passFailureGate_admits true
    · exact Turn.admits_of_false ((Point.PollLeads.pollTarget hleads).isBeginning hstage)
  | working session job stage =>
    cases hstage : stage.registration? with
    | none => exact Turn.admits_of_false (Point.JobLeads.isBeginning hleads hstage)
    | some success =>
      cases stage with
      | committingSuccess | committingPutOff | committingPutBack | committingArchive =>
        rcases answer with error | ⟨⟩
        · exact Turn.admits_of_false rfl
        · exact Turn.passFailureGate_admits true
      | saving | deduplicating | delivering | releasing | undoing | puttingOff | puttingBack
        | committingClaim | beginningArchive | archiving => cases hstage
  | rollingBack session fault => rcases answer with error | ⟨⟩ <;> exact Turn.admits_of_false rfl

/-! ## Runs -/

def Incident.report? : Incident duties → Option Throttle.Report
  | .answered .. => none
  | .resumed world source turn =>
    (source.registration? turn.worker.point).map fun success ↦ ⟨success, world.now⟩

def World.jobReport? (world : World duties) : Move → Option Throttle.Report
  | .resume number => (world.incident? number (.resume number)).bind Incident.report?
  | _ => none

def Past.jobReports (past : Past duties) : List Throttle.Report :=
  past.reverse.filterMap fun (world, move) ↦ world.jobReport? move

theorem Past.jobReports_cons (world : World duties) (move : Move) (past : Past duties) :
    Past.jobReports ((world, move) :: past) =
      past.jobReports ++ (world.jobReport? move).toList := by
  cases hreport : world.jobReport? move <;> simp [jobReports, hreport]

/-- What a move does to the failure throttle. -/
theorem World.failureThrottle_step (world : World duties) (move : Move) :
    (world.step move).shared.failureThrottle =
      world.shared.failureThrottle.registerAll (world.jobReport? move).toList := by
  cases move with
  | resume number =>
    cases hmember : world.members[number]? with
    | none => simp only [step, resume, jobReport?, incident?, hmember, if_true]; rfl
    | some member =>
      cases hready : member.ready world.shared world.moment with
      | none => simp only [step, resume, jobReport?, incident?, hmember, hready, if_true]; rfl
      | some answer =>
        simp only [step, resume_eq hmember hready, jobReport?, incident?, hmember, hready, if_true,
          Option.map_some, Option.bind_some, Incident.report?]
        have htells := member.worker.resume_tells duties world.moment world.shared answer
        rw [htells]
        cases member.worker.point.registration?
          (member.worker.resume duties world.moment world.shared answer).worker.point <;> rfl
  | pass | produce | drop | answer | write | start | stop | await | endAwait | release =>
    rw [shared_step fun _ h ↦ by cases h]
    rfl

/-- The failure throttle is what the reports of a run have made of it, whoever else writes. -/
theorem OpenRun.failureThrottle_eq {start world : World duties} {past : Past duties}
    (run : OpenRun start past world) : world.shared.failureThrottle =
      start.shared.failureThrottle.registerAll past.jobReports := by
  induction run with
  | rest => rfl
  | @move past world move _ ih =>
    rw [World.failureThrottle_step, ih, Past.jobReports_cons, Throttle.registerAll_append]
  | write _ _ ih => exact ih

end TableQueue
