import TableQueue.Proofs.Content
import TableQueue.Proofs.Polls
import TableQueue.Proofs.Transactions
import TableQueue.Proofs.World.Stopping

/-!
# A stop is final

From a stop to the next start that succeeds, workers finish what they are at and nothing else. Nobody
connects, begins a pass or waits for time to pass. A worker that has begun a pass may still deliver one
job. A job is carried to its outcome, unless a statement fails or the duplicates that were taken for
the job cannot be read or merged. Every worker takes a bounded number of turns, and one whose run ends
has closed its connection.
-/

namespace TableQueue

variable {α : Type} {duties : Duties α}

/-! ## Jobs in progress -/

def Happening.settled? : Happening α → Option (Job α)
  | accepted job | returned job _ | archived job _ => some job
  | received .. | removed .. | lost .. => none

namespace Point

def job? : Point α → Option (Job α)
  | working _ job _ => some job
  | _ => none

/-- Whether an answer keeps a worker from going on: a statement has failed, or the rows that were taken
as duplicates of a job cannot be read or merged into it. -/
def isThwarted (duties : Duties α) : (point : Point α) → Option (point.call duties).Answer → Bool
  | working _ job (.deduplicating _), some (.ok rows) =>
    (duties.mergeRows job.payload rows).isNone
  | point, answer? => (point.call duties).isFailed answer?

def settled? (duties : Duties α) (point : Point α)
    (answer? : Option (point.call duties).Answer) : Option (Job α) :=
  (point.happening? duties answer?).bind Happening.settled?

/-- The job that a worker works on as long as it is not dealt with and nothing stands in its way. -/
def pending? (duties : Duties α) (point : Point α)
    (answer? : Option (point.call duties).Answer) : Option (Job α) :=
  if point.isThwarted duties answer? || (point.settled? duties answer?).isSome then none
  else point.job?

theorem pending?_none (point : Point α) : point.pending? duties none = point.job? := by
  cases point with
  | idle | starting | atConnectGate | connecting | atFailureGate | asleep | rollingBack | closing
    | crashed => rfl
  | polling session cycle stage => cases stage <;> rfl
  | working session job stage => cases stage <;> rfl

/-- A job is in progress, is dealt with, or has met an obstacle. -/
theorem pending?_cases {point : Point α} {job : Job α} (h : point.job? = some job)
    (answer? : Option (point.call duties).Answer) :
    point.pending? duties answer? = some job ∨ point.settled? duties answer? = some job ∨
      point.isThwarted duties answer? = true := by
  cases hthwarted : point.isThwarted duties answer? with
  | true => exact .inr (.inr rfl)
  | false =>
    cases hsettled : point.settled? duties answer? with
    | none =>
      left
      simp only [pending?, hthwarted, hsettled, h]
      rfl
    | some settled =>
      right; left
      cases point with
      | idle | starting | atConnectGate | connecting | atFailureGate | asleep | polling | rollingBack
        | closing | crashed => cases h
      | working session job' stage =>
        obtain rfl : job' = job := Option.some.inj h
        cases stage with
        | saving | deduplicating | releasing | undoing | puttingOff | puttingBack => cases hsettled
        | delivering => cases answer? <;> cases hsettled
        | committingSuccess | committingPutOff | committingPutBack | committingArchive
          | committingClaim | beginningArchive | archiving =>
          rcases answer? with _ | _ | _ <;> cases hsettled <;> rfl

end Point

namespace Point

variable {session : Nat} {job : Job α} {bounds bounds' : Bounds} {point : Point α}

theorem Goes.job? {stage : JobStage} (h : Goes session job bounds stage bounds' point) :
    point.job? = some job := by
  rw [h.2]
  rfl

theorem Disposes.job? {failure : JobFailure}
    (h : Disposes duties session job failure bounds bounds' point) : point.job? = some job := by
  unfold Disposes at h
  split at h
  · obtain ⟨_, hgoes⟩ := h
    exact hgoes.job?
  · obtain ⟨_, hgoes⟩ := h
    exact hgoes.job?
  · exact h.job?

/-- Whoever works on a job goes on with the same job, merging duplicates apart. -/
theorem JobLeads.job? {stage : JobStage} {answer : (jobCall duties session job stage).Answer}
    (h : JobLeads duties bounds session job stage answer bounds' point)
    (hpending : (working session job stage).pending? duties (some answer) = some job)
    (hstage : ∀ begun, stage ≠ .deduplicating begun) : point.job? = some job := by
  cases stage with
  | deduplicating begun => exact absurd rfl (hstage begun)
  | saving =>
    rcases answer with error | ⟨⟩
    · cases hpending
    · rcases h with hgoes | ⟨-, _, hgoes⟩ <;> exact hgoes.job?
  | delivering =>
    cases hfailure : Reception.failure? answer <;>
    · simp only [JobLeads, hfailure] at h
      exact Goes.job? h
  | releasing | committingClaim | puttingOff | puttingBack | archiving =>
    rcases answer with error | reply
    · cases hpending
    · exact Goes.job? h
  | undoing failure =>
    rcases answer with error | ⟨⟩
    · cases hpending
    · exact Disposes.job? h
  | beginningArchive =>
    rcases answer with error | ⟨⟩
    · cases hpending
    · obtain ⟨_, hgoes⟩ := h
      exact hgoes.job?
  | committingSuccess | committingPutOff | committingPutBack | committingArchive =>
    rcases answer with error | ⟨⟩ <;> cases hpending

/-- Only a claimed job is pending. -/
theorem eq_working_of_pending? {answer? : Option (point.call duties).Answer}
    (h : point.pending? duties answer? = some job) :
    ∃ session stage, point = working session job stage := by
  have hjob : point.job? = some job := by
    unfold pending? at h
    split at h
    · cases h
    · exact h
  cases point with
  | working session job' stage =>
    obtain rfl : job' = job := Option.some.inj hjob
    exact ⟨session, stage, rfl⟩
  | idle | starting | atConnectGate | connecting | atFailureGate | asleep | polling | rollingBack
    | closing | crashed => cases hjob

end Point

/-- Whoever works on a job goes on with it, unless it is dealt with or something stands in its way. -/
theorem Worker.resume_pending (moment : Moment) (shared : Shared) {worker : Worker α}
    {answer : (worker.call duties).Answer} {job : Job α}
    (h : worker.point.pending? duties (some answer) = some job) :
    ∃ job', (worker.resume duties moment shared answer).worker.point.job? = some job' ∧
      job'.details = job.details := by
  have hleads := worker.resume_leads duties moment shared answer
  obtain ⟨name, bounds, countdown, point⟩ := worker
  obtain ⟨session, stage, rfl⟩ := Point.eq_working_of_pending? h
  by_cases hstage : ∃ begun, stage = .deduplicating begun
  · obtain ⟨begun, rfl⟩ := hstage
    rcases answer with error | rows
    · cases h
    · cases hmerged : duties.mergeRows job.payload rows with
      | none =>
        simp only [Point.pending?, Point.isThwarted, hmerged] at h
        cases h
      | some payload =>
        exact ⟨_, congrArg Point.job? (Turn.endDuplicates_point hmerged begun), rfl⟩
  · exact ⟨job, Point.JobLeads.job? hleads h fun begun hbegun ↦ hstage ⟨begun, hbegun⟩, rfl⟩

namespace World

/-- The job that a worker works on, as long as it is not dealt with and nothing stands in its way. -/
def pending? (world : World duties) (number : Nat) : Option (Job α) :=
  match world.members[number]? with
  | some member => member.worker.point.pending? duties member.answer?
  | none => none

/-- Whether a worker gets an answer in a move that keeps it from going on. -/
def isThwarted (world : World duties) (number : Nat) : Move → Bool
  | .answer other chance => other == number &&
    match world.members[other]? with
    | some ⟨worker, none, _, _⟩ => worker.point.isThwarted duties
      (world.server.answer world.now chance (worker.call duties)).2
    | _ => false
  | _ => false

/-- What has become in a run of a job that was in progress: it still is, or it was dealt with, or
something stood in its way. Merging duplicates changes a job, but not the details of its row. -/
inductive Carried (past : Past duties) (world : World duties) (number : Nat) (details : JobMeta) :
    Prop where
  | pending {job : Job α} : world.pending? number = some job → job.details = details →
      Carried past world number details
  | settled {changes : Changes} {attempt : Attempt} {happening : Happening α} {job : Job α} :
      .happened number changes attempt happening ∈ past.events → happening.settled? = some job →
      job.details = details → Carried past world number details
  | thwarted {earlier : World duties} {move : Move} : (earlier, move) ∈ past →
      earlier.isThwarted number move = true → Carried past world number details

variable {world world' : World duties} {past : Past duties} {number : Nat} {move : Move}
  {details : JobMeta} {job : Job α}

theorem pending?_of_getElem? {member : Member duties}
    (hmember : world.members[number]? = some member) :
    world.pending? number = member.worker.point.pending? duties member.answer? := by
  simp only [pending?, hmember]

theorem pending?_of_open {worker : Worker α} {servedAt : Instant} {attempt : Attempt}
    (hmember : world.members[number]? = some ⟨worker, none, servedAt, attempt⟩) :
    world.pending? number = worker.point.job? :=
  (pending?_of_getElem? hmember).trans (Point.pending?_none worker.point)

/-- What becomes of a job in a run goes on with a further move. -/
theorem Carried.extend (h : Carried past world number details) (hpending : ∀ job : Job α,
      world.pending? number = some job → job.details = details →
        Carried ((world, move) :: past) world' number details) :
    Carried ((world, move) :: past) world' number details := by
  cases h with
  | pending hjob hdetails => exact hpending _ hjob hdetails
  | settled hmem hsettled hdetails =>
    refine .settled (Past.events_cons _ _ _ ▸ List.mem_append_left _ hmem) hsettled hdetails
  | thwarted hmem hthwarted => exact .thwarted (List.mem_cons_of_mem _ hmem) hthwarted

/-- The answer to a call deals with the job in progress, stands in its way or leaves it in progress. -/
theorem carried_answer {worker : Worker α} {servedAt : Instant} {attempt : Attempt}
    (hmember : world.members[number]? = some ⟨worker, none, servedAt, attempt⟩) {chance : Chance}
    {attempt' : Attempt} (hmember' : world'.members[number]? = some ⟨worker,
      (world.server.answer world.now chance (worker.call duties)).2, world.now, attempt'⟩)
    (hjob : world.pending? number = some job) :
    Carried ((world, .answer number chance) :: past) world' number job.details := by
  rw [pending?_of_open hmember] at hjob
  rcases Point.pending?_cases hjob
      (world.server.answer world.now chance (worker.call duties)).2 with hpending | hsettled | hthwarted
  · refine .pending ?_ rfl
    rw [pending?_of_getElem? hmember']
    exact hpending
  · obtain ⟨happening, hhappening, hdealt⟩ := Option.bind_eq_some_iff.1 hsettled
    have hevent : world.event? (.answer number chance) =
        some (.happened number (world.changesAt worker.point) attempt happening) := by
      simp only [event?, hmember, hhappening, Option.map_some]
    have hmem : .happened number (world.changesAt worker.point) attempt happening ∈
        Past.events ((world, .answer number chance) :: past) := by
      rw [Past.events_cons, hevent]
      exact List.mem_append_right _ List.mem_cons_self
    exact .settled hmem hdealt rfl
  · refine .thwarted List.mem_cons_self ?_
    simp only [isThwarted, hmember, beq_self_eq_true, Bool.true_and]
    exact hthwarted

/-- A job in progress stays in progress or is dealt with, or something stands in its way. -/
theorem Carried.step (h : Carried past world number details) (hmove : world.starts move = false) :
    Carried ((world, move) :: past) (world.step move) number details := by
  refine h.extend fun job hjob hdetails ↦ ?_
  subst hdetails
  cases hmember : world.members[number]? with
  | none =>
    simp only [pending?, hmember] at hjob
    cases hjob
  | some member =>
    obtain ⟨member', hmember', hproceeds⟩ := proceeds hmove hmember
    generalize world.transition? number move = transition? at hproceeds
    cases hproceeds with
    | rested =>
      refine .pending ?_ rfl
      rw [pending?_of_getElem? hmember', ← pending?_of_getElem? hmember]
      exact hjob
    | answered hnone =>
      obtain ⟨worker, answer?, servedAt, attempt⟩ := member
      obtain rfl : answer? = none := hnone
      exact carried_answer hmember hmember' hjob
    | @resumed answer worker hready hworker =>
      rw [pending?_of_getElem? hmember] at hjob
      rcases Member.ready_cases hready with hanswered | ⟨-, hpause⟩
      · rw [hanswered] at hjob
        obtain ⟨job', hjob', hdetails⟩ := Worker.resume_pending world.moment world.shared hjob
        refine .pending ?_ hdetails
        rw [pending?_of_open hmember', hworker]
        exact hjob'
      · obtain ⟨⟨name, bounds, countdown, point⟩, answer?, servedAt, attempt⟩ := member
        obtain ⟨session, stage, rfl⟩ := Point.eq_working_of_pending? hjob
        cases stage <;> cases hpause

/-- Jobs are carried to their outcome. -/
theorem carried_of_run {start : World duties}
    (run : Run (fun world move ↦ world.starts move = false) start past world) {earlier : World duties}
    {move : Move} (hmem : (earlier, move) ∈ past) (hjob : earlier.pending? number = some job) :
    Carried past world number job.details := by
  induction run with
  | rest => cases hmem
  | move _ hmove ih =>
    rcases List.mem_cons.1 hmem with hlast | hpast
    · obtain ⟨rfl, -⟩ := Prod.mk.inj hlast
      exact (Carried.pending hjob rfl).step hmove
    · exact (ih hpast).step hmove

end World

/-! ## Workers that wind down -/

namespace Point

variable {point : Point α} {session : Nat} {phase : Phase}

theorem isBeginning_of_isWindingDown (h : point.isWindingDown = true) :
    point.isBeginning = false := by
  cases point with
  | polling other cycle stage => cases stage <;> first | rfl | cases h
  | idle | starting | atConnectGate | connecting | atFailureGate | asleep | working | rollingBack
    | closing | crashed => rfl

theorem beginning?_of_isWindingDown (h : point.isWindingDown = true) : point.beginning? = none := by
  cases point with
  | connecting => cases h
  | idle | starting | atConnectGate | atFailureGate | asleep | polling | working | rollingBack
    | closing | crashed => rfl

theorem isOver_of_isWindingDown (h : point.isWindingDown = true)
    (hpause : point.call duties = .pause) : point.isOver = true := by
  cases point with
  | idle | crashed => rfl
  | starting | atConnectGate | connecting | atFailureGate | asleep => cases h
  | polling other cycle stage => cases stage <;> cases hpause
  | working other job stage => cases stage <;> cases hpause
  | rollingBack | closing => cases hpause

/-- A worker that may come to deliver a job has begun a transaction. -/
theorem Awaits.of_claiming (h : point.Awaits phase) (hclaiming : point.claiming? = some session)
    (hbegun : point.isBeginning = false) : phase = .opened ∨ phase = .saved := by
  cases point with
  | polling other cycle stage =>
    cases stage with
    | beginning => cases hbegun
    | abandoning => cases hclaiming
    | probing | bounding | replanning | claiming => exact .inl h
  | working other job stage =>
    cases stage with
    | saving => exact .inl h
    | deduplicating => exact .inr h
    | delivering | releasing | committingSuccess | undoing | puttingOff | committingPutOff
      | puttingBack | committingPutBack | committingClaim | beginningArchive | archiving
      | committingArchive => cases hclaiming
  | idle | starting | atConnectGate | connecting | atFailureGate | asleep | rollingBack | closing
    | crashed => cases hclaiming

theorem eq_working_of_delivering? {job : Job α} (h : point.delivering? = some (session, job)) :
    point = working session job .delivering := by
  cases point with
  | working other job' stage =>
    cases stage <;> cases h
    rfl
  | idle | starting | atConnectGate | connecting | atFailureGate | asleep | polling | rollingBack
    | closing | crashed => cases h

theorem call_of_claiming? (h : point.claiming? = some session) : point.call duties ≠ .pause := by
  cases point with
  | polling other cycle stage => cases stage <;> nofun
  | working other job stage => cases stage <;> nofun
  | idle | starting | atConnectGate | connecting | atFailureGate | asleep | rollingBack | closing
    | crashed => cases h

theorem session?_of_claiming? (h : point.claiming? = some session) :
    point.session? = some session := by
  cases point with
  | polling other cycle stage => cases stage <;> first | exact h | cases h
  | working other job stage => cases stage <;> first | exact h | cases h
  | idle | starting | atConnectGate | connecting | atFailureGate | asleep | rollingBack | closing
    | crashed => cases h

/-- Whoever ends its run with a connection has just closed it. -/
theorem Leads.closing_of_idle {bounds bounds' : Bounds} {answer : (point.call duties).Answer}
    {point' : Point α} (h : point.Leads duties bounds answer bounds' point') (hidle : point' = .idle)
    (hsession : point.session? = some session) : ∃ last, point = closing session last := by
  have hheld := h.session?
  subst hidle
  cases point with
  | closing other last =>
    obtain rfl : other = session := Option.some.inj hsession
    exact ⟨last, rfl⟩
  | idle | starting | atConnectGate | connecting => cases hsession
  | atFailureGate | asleep | polling | working | rollingBack | crashed => cases hheld

end Point

namespace Member

/-- A member may come to deliver a job in a pass that it has begun: it waits for the transaction to
begin, or has heard nothing that keeps it from going on. -/
def MayDeliver (member : Member duties) (session : Nat) : Prop :=
  member.worker.point.claiming? = some session ∧
    (member.worker.point.isBeginning = true ∨ ∃ bounds point, member.Prospect bounds point ∧
      point.isBeginning = false ∧
        (point.claiming? = some session ∨ ∃ job, point.delivering? = some (session, job)))

theorem prospect_of_open {member : Member duties} (h : member.answer? = none) :
    member.Prospect member.worker.bounds member.worker.point := by
  obtain ⟨worker, answer?, servedAt, attempt⟩ := member
  obtain rfl : answer? = none := h
  exact ⟨rfl, rfl⟩

/-- A member that may come to deliver a job has its next point in prospect. -/
theorem prospect_resume {member : Member duties} {shared : Shared} {moment : Moment}
    {answer : (member.worker.call duties).Answer} (hready : member.ready shared moment = some answer)
    {session : Nat} (hclaiming : member.worker.point.claiming? = some session) :
    member.Prospect (member.worker.resume duties moment shared answer).worker.bounds
      (member.worker.resume duties moment shared answer).worker.point := by
  obtain hprospect | ⟨-, hpause⟩ := prospect_of_ready hready
  · exact hprospect _ _ (member.worker.resume_leads duties moment shared answer)
  · exact absurd hpause (Point.call_of_claiming? hclaiming)

end Member

def Transition.deliveries (transitions : List (Transition α)) : List (Nat × Job α) :=
  transitions.filterMap fun transition ↦ transition.target.delivering?

theorem Transition.deliveries_concat (transitions : List (Transition α))
    (transition : Transition α) : Transition.deliveries (transitions ++ [transition]) =
      Transition.deliveries transitions ++ transition.target.delivering?.toList := by
  cases hdelivering : transition.target.delivering? <;>
    simp [Transition.deliveries, hdelivering]

def Past.deliveries (past : Past duties) (number : Nat) : List (Nat × Job α) :=
  Transition.deliveries (past.transitions number)

/-- What a member does from a stop on. -/
structure Member.Subsides (queues : Nat) (member : Member duties)
    (transitions : List (Transition α)) (member' : Member duties) : Prop where
  windsDown : ∀ transition ∈ transitions, transition.target.isWindingDown = true
  turns : transitions.length + member'.worker.point.turnsLeft queues ≤
    member.worker.point.turnsLeft queues
  deliveries : Transition.deliveries transitions = [] ∧
      (∀ session, member'.MayDeliver session → member.MayDeliver session) ∨
    ∃ session job, Transition.deliveries transitions = [(session, job)] ∧
      member.MayDeliver session ∧ member'.worker.point.claiming? = none

namespace Member.Subsides

variable {queues : Nat} {member member' : Member duties} {transitions : List (Transition α)}

/-- A member that makes no move subsides. -/
theorem refl (queues : Nat) (member : Member duties) : member.Subsides queues [] member where
  windsDown _ hmem := absurd hmem List.not_mem_nil
  turns := by rw [List.length_nil, Nat.zero_add]
  deliveries := .inl ⟨rfl, fun _ ↦ id⟩

/-- A member whose call is answered could deliver a job before, if it can now. -/
theorem answered (h : member.Subsides queues transitions member') (hnone : member'.answer? = none)
    (answer? : Option (member'.worker.call duties).Answer) (servedAt : Instant) (attempt : Attempt) :
    member.Subsides queues transitions ⟨member'.worker, answer?, servedAt, attempt⟩ where
  windsDown := h.windsDown
  turns := h.turns
  deliveries := by
    refine h.deliveries.imp_left fun ⟨hnothing, hbefore⟩ ↦ ⟨hnothing, fun session hmay ↦ ?_⟩
    refine hbefore session ⟨hmay.1, ?_⟩
    cases hbeginning : member'.worker.point.isBeginning with
    | true => exact .inl rfl
    | false =>
      exact .inr ⟨_, _, prospect_of_open hnone, hbeginning, .inl hmay.1⟩

/-- A member that goes on after a stop either could deliver a job before, or cannot any more. -/
theorem resumed {shared : Shared} {moment : Moment} {answer : (member'.worker.call duties).Answer}
    (h : member.Subsides duties.settings.queueNames.length transitions member')
    (hstopped : moment.stopped = true) (hready : member'.ready shared moment = some answer) :
    member.Subsides duties.settings.queueNames.length
      (transitions ++ [⟨member'.worker.point,
        (member'.worker.resume duties moment shared answer).worker.point⟩])
      ⟨(member'.worker.resume duties moment shared answer).worker, none, member'.servedAt,
        member'.attempt⟩ := by
  have hsubsides := Worker.resume_subsides hstopped shared (isOver_of_ready hready) answer
  have hbegun := Point.isBeginning_of_isWindingDown hsubsides.windsDown
  have hprospect {session : Nat} (hclaiming : member'.worker.point.claiming? = some session) :=
    prospect_resume hready hclaiming
  generalize (member'.worker.resume duties moment shared answer).worker = worker
    at hsubsides hbegun hprospect ⊢
  refine ⟨fun transition hmem ↦ ?_, ?_, ?_⟩
  · rcases List.mem_append.1 hmem with hold | hnew
    · exact h.windsDown transition hold
    · rw [List.mem_singleton.1 hnew]
      exact hsubsides.windsDown
  · have hturns := h.turns
    have hnearer := hsubsides.nearer
    simp only [List.length_append, List.length_singleton]
    omega
  · rw [Transition.deliveries_concat]
    dsimp only
    rcases h.deliveries with ⟨hnothing, hbefore⟩ | ⟨session, job, hone, hmay, hnone⟩
    · cases hdelivering : worker.point.delivering? with
      | none =>
        refine .inl ⟨by rw [hnothing]; rfl, fun session hmay ↦ hbefore session ?_⟩
        have hclaiming := hsubsides.claiming session hmay.1
        exact ⟨hclaiming, .inr ⟨_, _, hprospect hclaiming, hbegun, .inl hmay.1⟩⟩
      | some delivery =>
        obtain ⟨session, job⟩ := delivery
        have hclaiming := hsubsides.delivering session job hdelivering
        refine .inr ⟨session, job, by rw [hnothing]; rfl, hbefore session ⟨hclaiming,
          .inr ⟨_, _, hprospect hclaiming, hbegun, .inr ⟨job, hdelivering⟩⟩⟩, ?_⟩
        rw [Point.eq_working_of_delivering? hdelivering]
        rfl
    · -- The job has been delivered, and there is no way back.
      have hnone' : worker.point.claiming? = none := Option.eq_none_iff_forall_ne_some.2
        fun other hother ↦ nomatch hnone.symm.trans (hsubsides.claiming other hother)
      have hnothing : worker.point.delivering? = none := Option.eq_none_iff_forall_ne_some.2
        fun ⟨other, job'⟩ hother ↦ nomatch hnone.symm.trans (hsubsides.delivering other job' hother)
      exact .inr ⟨session, job, by rw [hone, hnothing]; rfl, hmay, hnone'⟩

end Member.Subsides

namespace World

variable {world start : World duties} {past : Past duties} {number : Nat} {move : Move}

/-- Once the crew is stopped, every move brings the run of a member nearer to its end. -/
theorem subsides_step {member member' : Member duties}
    (h : member.Subsides duties.settings.queueNames.length (past.transitions number) member')
    (hstopped : world.crew.isStopped = true) (hmove : world.starts move = false)
    (hmember' : world.members[number]? = some member') :
    ∃ member'', (world.step move).members[number]? = some member'' ∧
      member.Subsides duties.settings.queueNames.length
        (Past.transitions ((world, move) :: past) number) member'' := by
  obtain ⟨member'', hmember'', hproceeds⟩ := proceeds hmove hmember'
  refine ⟨member'', hmember'', ?_⟩
  rw [Past.transitions_cons]
  generalize world.transition? number move = transition? at hproceeds
  cases hproceeds with
  | rested => simpa using h
  | answered hnone => simpa using h.answered hnone _ _ _
  | resumed hready hworker =>
    subst hworker
    exact h.resumed hstopped hready

/-- What a stopped crew is at the end of a run in which it is not started. -/
theorem subsides_of_run (run : Run (fun world move ↦ world.starts move = false) start past world)
    (hstopped : start.crew.isStopped = true) :
    world.crew.isStopped = true ∧ ∀ number (member : Member duties),
      start.members[number]? = some member → ∃ member', world.members[number]? = some member' ∧
        member.Subsides duties.settings.queueNames.length (past.transitions number) member' := by
  induction run with
  | rest => exact ⟨hstopped, fun number member hmember ↦ ⟨member, hmember, .refl _ member⟩⟩
  | move _ hmove ih =>
    obtain ⟨hstill, hmembers⟩ := ih
    refine ⟨stopped_step hstill hmove, fun number member hmember ↦ ?_⟩
    obtain ⟨member', hmember', hsubsides⟩ := hmembers number member hmember
    exact subsides_step hsubsides hstill hmove hmember'

/-- A stopped crew is stopped all along. -/
theorem isStopped_of_mem (run : Run (fun world move ↦ world.starts move = false) start past world)
    (hstopped : start.crew.isStopped = true) {later : World duties}
    (hmem : later ∈ world :: past.map Prod.fst) : later.crew.isStopped = true := by
  rcases List.mem_cons.1 hmem with rfl | hpast
  · exact (subsides_of_run run hstopped).1
  · obtain ⟨⟨later, move⟩, hpair, rfl⟩ := List.mem_map.1 hpast
    obtain ⟨_, run'⟩ := run.of_mem hpair
    exact (subsides_of_run run' hstopped).1

/-- Only members make transitions. -/
theorem transitions_of_none {allowed : World duties → Move → Prop}
    (run : Run allowed start past world) (hnone : start.members[number]? = none) :
    world.members[number]? = none ∧ past.transitions number = [] := by
  induction run with
  | rest => exact ⟨hnone, rfl⟩
  | @move past world move _ _ ih =>
    obtain ⟨hbefore, hnothing⟩ := ih
    have htransition : world.transition? number move = none := by
      cases move with
      | resume other => simp only [transition?, hbefore, ite_self]
      | pass | produce | drop | answer | write | start | stop | await | endAwait | release => rfl
    refine ⟨?_, by rw [Past.transitions_cons, hnothing, htransition]; rfl⟩
    rw [List.getElem?_eq_none_iff] at hbefore ⊢
    rwa [length_members_step]

/-- A stopped crew does not begin to connect. -/
theorem connectEvents_of_stopped (hstopped : world.crew.isStopped = true) (move : Move) :
    (world.connectEvents move).filterMap ConnectEvent.beginning? = [] := by
  cases move with
  | resume number =>
    simp only [connectEvents]
    split
    · next member hmember =>
      split
      · next answer hready =>
        have hmoment : world.moment.stopped = true := hstopped
        have hsubsides := Worker.resume_subsides hmoment world.shared
          (Member.isOver_of_ready hready) answer
        exact (Point.filterMap_beginning?_connectEvents world.now answer _).trans
          (congrArg Option.toList (Point.beginning?_of_isWindingDown hsubsides.windsDown))
      · rfl
    · rfl
  | pass | produce | drop | answer | write | start | stop | await | endAwait | release => rfl

/-- Nobody connects after the stop. -/
theorem connectTimes_of_run (run : Run (fun world move ↦ world.starts move = false) start past world)
    (hstopped : start.crew.isStopped = true) : past.connectTimes = [] := by
  induction run with
  | rest => rfl
  | move run _ ih =>
    rw [Past.connectTimes_cons, ih, connectEvents_of_stopped (subsides_of_run run hstopped).1]
    rfl

/-- After the stop workers only come to points of winding down. -/
theorem windsDown_of_run (run : Run (fun world move ↦ world.starts move = false) start past world)
    (hstopped : start.crew.isStopped = true) {transition : Transition α}
    (hmem : transition ∈ past.transitions number) : transition.target.isWindingDown = true := by
  cases hmember : start.members[number]? with
  | none =>
    rw [(transitions_of_none run hmember).2] at hmem
    cases hmem
  | some member =>
    obtain ⟨_, -, hsubsides⟩ := (subsides_of_run run hstopped).2 number member hmember
    exact hsubsides.windsDown transition hmem

/-- A worker that ends its run has closed its connection, if it had one. -/
theorem closing_of_transition {transition : Transition α}
    (hmem : transition ∈ past.transitions number) (hidle : transition.target = .idle) {session : Nat}
    (hsession : transition.source.session? = some session) :
    ∃ last, transition.source = .closing session last := by
  obtain ⟨⟨world, move⟩, -, htransition⟩ := List.mem_filterMap.1 hmem
  cases move with
  | resume other =>
    simp only [transition?] at htransition
    split at htransition
    · split at htransition
      · next member _ =>
        obtain ⟨answer, -, rfl⟩ := Option.map_eq_some_iff.1 htransition
        have hleads := member.worker.resume_leads duties world.moment world.shared answer
        exact hleads.closing_of_idle hidle hsession
      · cases htransition
    · cases htransition
  | pass | produce | drop | answer | write | start | stop | await | endAwait | release =>
    cases htransition

/-- A member that may come to deliver a job has begun a transaction or waits for it to begin. -/
theorem Converses.opened_of_mayDeliver (h : world.Converses past) {member : Member duties}
    (hmember : member ∈ world.members) {session : Nat} (hmay : member.MayDeliver session) :
    member.worker.point.isBeginning = true ∨ past.phase? session = some .opened ∨
      past.phase? session = some .saved := by
  obtain ⟨-, hbeginning | ⟨bounds, point, hprospect, hbegun, hmay⟩⟩ := hmay
  · exact .inl hbeginning
  · obtain ⟨phase, hphase, -, hexpects⟩ := h.spoken session
    rw [hphase]
    right
    rcases hmay with hclaiming | ⟨job, hdelivering⟩
    · have hawaits := hexpects member hmember bounds point hprospect
        (Point.session?_of_claiming? hclaiming)
      exact (hawaits.of_claiming hclaiming hbegun).imp (congrArg some) (congrArg some)
    · obtain rfl := Point.eq_working_of_delivering? hdelivering
      have hawaits := hexpects member hmember bounds _ hprospect rfl
      exact .inr (congrArg some hawaits)

/-! ## A stop and what follows -/

/-- What a crew does in a run that begins with a stop in some world with some past. -/
structure StopsForGood (past : Past duties) (world : World duties) (past' : Past duties)
    (world' : World duties) : Prop where
  /-- No attempt to connect begins. -/
  connects : past'.connectTimes = []
  /-- No pass over the queues begins. -/
  passes : ∀ number, ∀ transition ∈ past'.transitions number,
    transition.target.isBeginning = false
  /-- A worker delivers one job at most. At the stop it was in the transaction in which it claims the
  job, or was waiting for that transaction to begin. -/
  deliveries : ∀ number, past'.deliveries number = [] ∨ ∃ member session job,
    past'.deliveries number = [(session, job)] ∧ world.members[number]? = some member ∧
      member.worker.point.claiming? = some session ∧
      (member.worker.point.isBeginning = true ∨ past.phase? session = some .opened ∨
        past.phase? session = some .saved)
  /-- A job that is in progress, at the stop or at any time after it, is carried to its outcome. -/
  jobs : ∀ earlier move, (earlier, move) ∈ past' → ∀ number job,
    earlier.pending? number = some job → Carried past' world' number job.details
  /-- A worker has a bounded number of turns, whatever happens. -/
  turns : ∀ (number : Nat) (member member' : Member duties), world.members[number]? = some member →
    world'.members[number]? = some member' →
      (past'.transitions number).length +
          member'.worker.point.turnsLeft duties.settings.queueNames.length ≤
        member.worker.point.turnsLeft duties.settings.queueNames.length
  /-- No worker comes to wait for time to pass, and one that waits can go on at once. -/
  waits : (∀ number, ∀ transition ∈ past'.transitions number,
      transition.target.call duties = .pause → transition.target.isOver = true) ∧
    ∀ later ∈ world' :: past'.map Prod.fst, ∀ member ∈ later.members,
      member.worker.call duties = .pause → member.worker.point.isOver = false →
        (member.ready later.shared later.moment).isSome
  /-- A worker whose run ends has just closed its connection, if it had one. -/
  ends : ∀ number, ∀ transition ∈ past'.transitions number, transition.target = .idle →
    ∀ session, transition.source.session? = some session →
      ∃ last, transition.source = .closing session last
  /-- A connection that is open is held by a worker whose run has not ended. -/
  held : ∀ session, world'.server.isLive session = true → ∃ member ∈ world'.members,
    member.session? = some session ∧ member.worker.point.isOver = false

/-- An open connection is held by a worker whose run has not ended. -/
theorem Sound.held_of_isLive (hsound : world.Sound) (htidy : world.Tidy) {session : Nat}
    (hlive : world.server.isLive session = true) : ∃ member ∈ world.members,
      member.session? = some session ∧ member.worker.point.isOver = false := by
  obtain ⟨member, hmember, hsession⟩ := hsound.held session hlive
  refine ⟨member, hmember, hsession, ?_⟩
  have hburied := htidy.buried member hmember
  have hidle : member.worker.point = .idle → member.session? = none := Member.session?_of_idle
  cases hpoint : member.worker.point with
  | idle =>
    rw [hidle hpoint] at hsession
    cases hsession
  | crashed other text =>
    obtain rfl := Option.some.inj ((session?_of_crashed hpoint).symm.trans hsession)
    exact absurd ((hburied other text hpoint).symm.trans hlive) Bool.false_ne_true
  | starting | atConnectGate | connecting | atFailureGate | asleep | polling | working | rollingBack
    | closing => rfl

theorem sound_and_tidy_of_run {allowed : World duties → Move → Prop}
    (run : Run allowed start past world) (hsound : start.Sound) (htidy : start.Tidy) :
    world.Sound ∧ world.Tidy := by
  induction run with
  | rest => exact ⟨hsound, htidy⟩
  | move _ _ ih => exact ⟨ih.1.step _, ih.2.of_steps ih.1 (World.steps _ _)⟩

theorem members_stop (world : World duties) : (world.step .stop).members = world.members := by
  simp only [step]
  split <;> rfl

/-- A stop is final until the crew is started again. -/
theorem stops_for_good {workers : Nat} {shared : Shared} {now : Instant} {past past' : Past duties}
    {world world' : World duties}
    (run : Run Anything (World.initial duties workers shared now) past world)
    (run' : Run (fun world move ↦ world.starts move = false) (world.step .stop) past' world') :
    StopsForGood past world past' world' := by
  have hstopped := world.stopped_stop
  have hsound := Sound.of_run run
  have hinvariant := sound_and_tidy_of_run run' (hsound.step _)
    ((tidy_of_run run).of_steps hsound (world.steps _))
  have hmembers := (subsides_of_run run' hstopped).2
  rw [members_stop] at hmembers
  refine
    { connects := connectTimes_of_run run' hstopped
      passes := fun number transition hmem ↦
        Point.isBeginning_of_isWindingDown (windsDown_of_run run' hstopped hmem)
      deliveries := fun number ↦ ?_
      jobs := fun earlier move hmem number job hjob ↦ carried_of_run run' hmem hjob
      turns := fun number member member' hmember hmember' ↦ ?_
      waits := ⟨fun number transition hmem ↦
          Point.isOver_of_isWindingDown (windsDown_of_run run' hstopped hmem),
        fun later hlater _ _ hpause hover ↦ Member.ready_of_stopped
          (isStopped_of_mem run' hstopped hlater) hover hpause⟩
      ends := fun number transition hmem hidle session ↦ closing_of_transition hmem hidle
      held := fun session ↦ hinvariant.1.held_of_isLive hinvariant.2 }
  · cases hmember : world.members[number]? with
    | none =>
      have hnothing := (transitions_of_none run' (by rw [members_stop]; exact hmember)).2
      exact .inl (congrArg Transition.deliveries hnothing)
    | some member =>
      obtain ⟨member', -, hsubsides⟩ := hmembers number member hmember
      refine hsubsides.deliveries.imp And.left fun ⟨session, job, hone, hmay, _⟩ ↦ ?_
      exact ⟨member, session, job, hone, rfl, hmay.1,
        (converses_of_run run).opened_of_mayDeliver (List.mem_of_getElem? hmember) hmay⟩
  · obtain ⟨member'', hmember'', hsubsides⟩ := hmembers number member hmember
    obtain rfl := Option.some.inj (hmember'.symm.trans hmember'')
    exact hsubsides.turns

end World

namespace Sample

/-- One of two workers sleeps, the other waits for the answer to its claim. -/
def caught : Past (Sample.duties none) × World (Sample.duties none) :=
  (World.initial (Sample.duties none) 2 shared ⟨10000000000⟩).play
    ([.start, .resume 0, .resume 1] ++ rounds 1 (smooth 14) ++
      [.produce (row 0 [.whole 1]) ⟨0⟩] ++ rounds 0 (smooth 3))

/-- Both are told to stop. The one does not sleep on, the other delivers the job. -/
def caughtEnd : Past (Sample.duties none) × World (Sample.duties none) :=
  (caught.2.step .stop).play
    (rounds 0 (smooth 2) ++ [.resume 1] ++ rounds 1 (smooth 1) ++ rounds 0 (smooth 4))

/-- A worker has claimed a job and asks for its duplicates, one of which cannot be decoded. -/
def garbled : Past joining × World joining :=
  (World.initial joining 1 shared ⟨10000000000⟩).play
    ([.produce (row 0 [.whole 1, .text "a"]) ⟨0⟩, .produce (row 1 [.whole 1, .whole 2]) ⟨0⟩, .start,
      .resume 0] ++ rounds 0 (smooth 5))

/-- The worker is told to stop before it gets the duplicates. -/
def garbledEnd : Past joining × World joining :=
  (garbled.2.step .stop).play (rounds 0 (smooth 3))

/-- There is a job, and a worker waits for its transaction to begin. -/
def early : Past (Sample.duties none) × World (Sample.duties none) :=
  (World.initial (Sample.duties none) 1 shared ⟨10000000000⟩).play
    ([.produce (row 0 [.whole 1]) ⟨0⟩, .start, .resume 0] ++ rounds 0 (smooth 1))

/-- The worker is told to stop before the transaction begins. -/
def earlyEnd : Past (Sample.duties none) × World (Sample.duties none) :=
  (early.2.step .stop).play (rounds 0 (smooth 5))

end Sample

/-- Two workers are told to stop, one while it sleeps and one while it waits for the answer to its
claim: that one still delivers the job, and both end their runs. -/
theorem World.stops_for_good_of_caught :
    Sample.caughtEnd.2.areOver [0, 1] = true ∧
      (Sample.caughtEnd.1.deliveries 0).map Prod.fst = [1] ∧
      (Sample.caughtEnd.1.transitions 0).length = 6 ∧
      (Sample.caughtEnd.1.transitions 1).length = 2 ∧
      World.StopsForGood Sample.caught.1 Sample.caught.2 Sample.caughtEnd.1 Sample.caughtEnd.2 := by
  refine ⟨by decide +kernel, by decide +kernel, by decide +kernel, by decide +kernel, ?_⟩
  have hunstarted : ∀ pair ∈ Sample.caughtEnd.1, pair.1.starts pair.2 = false := by decide +kernel
  exact World.stops_for_good (Run.play _ _) ((Run.play _ _).restrict hunstarted)

/-- A job that is in progress at a stop may be given up, though no statement fails: one of its
duplicates cannot be decoded, and the run of the worker ends. And a worker may deliver a job though
the transaction in which it claims the job was not open at the stop, but only waited for. -/
theorem World.drops_job_of_garbled :
    (Run Anything (World.initial Sample.joining 1 Sample.shared ⟨10000000000⟩) Sample.garbled.1
        Sample.garbled.2 ∧
      Run (fun world move ↦ world.starts move = false) (Sample.garbled.2.step .stop)
        Sample.garbledEnd.1 Sample.garbledEnd.2 ∧
      (Sample.garbled.2.pending? 0).isSome ∧
      (∀ pair ∈ Sample.garbledEnd.1, pair.1.isSmooth pair.2) ∧
      Sample.garbledEnd.1.events.length = 0 ∧ Sample.garbledEnd.2.taskStatus 0 = .finished) ∧
    Run Anything (World.initial (Sample.duties none) 1 Sample.shared ⟨10000000000⟩) Sample.early.1
        Sample.early.2 ∧
      Run (fun world move ↦ world.starts move = false) (Sample.early.2.step .stop) Sample.earlyEnd.1
        Sample.earlyEnd.2 ∧
      Sample.early.2.server.isLive 0 = true ∧
      Sample.early.2.server.store.transaction 0 = .idle ∧
      (Sample.earlyEnd.1.deliveries 0).map Prod.fst = [0] := by
  have hgarbled : ∀ pair ∈ Sample.garbledEnd.1, pair.1.starts pair.2 = false := by decide +kernel
  have hearly : ∀ pair ∈ Sample.earlyEnd.1, pair.1.starts pair.2 = false := by decide +kernel
  exact ⟨⟨Run.play _ _, (Run.play _ _).restrict hgarbled, by decide +kernel, by decide +kernel,
      by decide +kernel, by decide +kernel⟩,
    Run.play _ _, (Run.play _ _).restrict hearly, by decide +kernel, rfl, by decide +kernel⟩

end TableQueue
