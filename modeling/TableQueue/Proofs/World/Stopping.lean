import TableQueue.Proofs.World.Connects

/-!
# Crews that are told to stop

Whenever a worker goes on it makes a transition from one point to another. Once the crew is told to
stop, no transition leads to a point at which a worker begins something new or waits for time to pass,
and every transition brings its worker nearer to the end of its run. The crew stays stopped until it
is started again.
-/

namespace TableQueue

variable {α : Type} {duties : Duties α}

/-! ## Points of workers that wind down -/

/-- A bound on the turns that a worker still takes from a stage of a pass, once it is told to stop. -/
@[simp] def PollStage.turnsLeft (queues : Nat) : PollStage → Nat
  | .beginning => 4 * queues + 11
  | .probing _ rest _ => 4 * rest.length + 14
  | .bounding _ rest _ => 4 * rest.length + 13
  | .replanning _ rest _ => 4 * rest.length + 12
  | .claiming _ rest _ _ => 4 * rest.length + 11
  | .abandoning => 2

theorem PollStage.one_lt_turnsLeft (queues : Nat) (stage : PollStage) :
    1 < stage.turnsLeft queues := by
  cases stage <;> simp only [turnsLeft] <;> omega

/-- A bound on the turns that a worker still takes from a stage of a claimed job, once it is told to
stop. -/
@[simp] def JobStage.turnsLeft : JobStage → Nat
  | .saving => 10
  | .deduplicating _ => 9
  | .delivering => 8
  | .undoing _ => 7
  | .committingClaim _ => 6
  | .beginningArchive _ => 5
  | .archiving .. | .releasing | .puttingOff .. | .puttingBack .. => 4
  | .committingArchive _ | .committingSuccess | .committingPutOff _ | .committingPutBack _ => 3

theorem JobStage.two_lt_turnsLeft (stage : JobStage) : 2 < stage.turnsLeft := by
  cases stage <;> simp only [turnsLeft] <;> decide

def JobStage.isReceived : JobStage → Bool
  | .saving | .deduplicating _ | .delivering => false
  | _ => true

namespace Point

/-- Whether a worker that has been told to stop may still come to a point. -/
def isWindingDown : Point α → Bool
  | polling _ _ .beginning => false
  | idle | polling .. | working .. | rollingBack .. | closing .. | crashed .. => true
  | starting | atConnectGate _ | connecting _ | atFailureGate .. | asleep .. => false

/-- A bound on the turns that a worker still takes, once it is told to stop. -/
@[simp] def turnsLeft (queues : Nat) : Point α → Nat
  | idle | crashed .. => 0
  | starting | atConnectGate _ | closing .. => 1
  | connecting _ | atFailureGate .. | asleep .. | rollingBack .. => 2
  | polling _ _ stage => stage.turnsLeft queues
  | working _ _ stage => stage.turnsLeft

/-- The session of a worker that has begun a pass and may come to deliver a job in it. -/
def claiming? : Point α → Option Nat
  | polling _ _ .abandoning => none
  | polling session _ _ | working session _ .saving | working session _ (.deduplicating _) =>
    some session
  | _ => none

/-- The session and the job of a worker whose handler has the job. -/
def delivering? : Point α → Option (Nat × Job α)
  | working session job .delivering => some (session, job)
  | _ => none

/-- What a turn comes to that a worker takes after it was told to stop. -/
structure Subsides (queues : Nat) (source target : Point α) : Prop where
  windsDown : target.isWindingDown = true
  nearer : target.turnsLeft queues < source.turnsLeft queues
  /-- A worker that may come to deliver a job could do so before. -/
  claiming : ∀ session, target.claiming? = some session → source.claiming? = some session
  delivering : ∀ session job, target.delivering? = some (session, job) →
    source.claiming? = some session

variable {queues session : Nat} {source target : Point α} {bounds bounds' : Bounds} {cycle : Cycle}
  {job : Job α}

theorem subsides_idle (hleft : 0 < source.turnsLeft queues) : source.Subsides queues idle :=
  ⟨rfl, hleft, nofun, nofun⟩

theorem subsides_closing (hleft : 1 < source.turnsLeft queues) (last : Bool) :
    source.Subsides queues (closing session last) :=
  ⟨rfl, hleft, nofun, nofun⟩

theorem GivesUp.subsides (h : GivesUp session bounds bounds' target)
    (hleft : 1 < source.turnsLeft queues) : source.Subsides queues target := by
  rw [h.2]
  exact subsides_closing hleft false

theorem Fails.subsides (h : Fails session bounds bounds' target)
    (hleft : 2 < source.turnsLeft queues) : source.Subsides queues target := by
  obtain ⟨-, _, rfl⟩ := h
  exact ⟨rfl, hleft, nofun, nofun⟩

theorem subsides_polling {stage : PollStage} (hstage : stage ≠ .beginning)
    (hleft : stage.turnsLeft queues < source.turnsLeft queues)
    (hclaiming : source.claiming? = some session) :
    source.Subsides queues (polling session cycle stage) := by
  refine ⟨?_, hleft, fun other hother ↦ ?_, nofun⟩
  · cases stage <;> first | rfl | exact absurd rfl hstage
  · rw [hclaiming]
    cases stage <;> first | exact hother | cases hother

theorem Searches.subsides {names : List String}
    (h : Searches session cycle bounds names bounds' target)
    (hleft : 4 * names.length + 11 ≤ source.turnsLeft queues)
    (hclaiming : source.claiming? = some session) : source.Subsides queues target := by
  obtain ⟨-, h⟩ := h
  split at h
  · rw [h]
    exact subsides_polling nofun (Nat.lt_of_lt_of_le (by simp) hleft) hclaiming
  · next queue rest =>
    rw [List.length_cons] at hleft
    split at h
    · obtain ⟨_, rfl⟩ := h
      exact subsides_polling nofun (by simp only [PollStage.turnsLeft]; omega) hclaiming
    · obtain ⟨_, rfl⟩ := h
      exact subsides_polling nofun (by simp only [PollStage.turnsLeft]; omega) hclaiming

theorem Claims.subsides {queue : String} {rest : List String} {bound : Instant}
    (h : Claims session cycle bounds queue rest bound bounds' target)
    (hleft : 4 * rest.length + 11 < source.turnsLeft queues)
    (hclaiming : source.claiming? = some session) : source.Subsides queues target := by
  obtain ⟨-, _, rfl⟩ := h
  exact subsides_polling nofun hleft hclaiming

theorem Finds.subsides {queue : String} {rest : List String} {bound : Instant}
    (h : Finds session cycle bounds queue rest bound bounds' target)
    (hleft : 4 * rest.length + 12 < source.turnsLeft queues)
    (hclaiming : source.claiming? = some session) : source.Subsides queues target := by
  rcases h with h | ⟨-, rfl⟩
  · exact h.subsides (Nat.lt_of_succ_lt hleft) hclaiming
  · exact subsides_polling nofun hleft hclaiming

theorem subsides_working {stage : JobStage} (hleft : stage.turnsLeft < source.turnsLeft queues)
    (hclaiming : stage.isReceived = false → source.claiming? = some session) :
    source.Subsides queues (working session job stage) := by
  refine ⟨rfl, hleft, fun other hother ↦ ?_, fun other job' hother ↦ ?_⟩ <;>
    cases stage <;> first | cases hother; exact hclaiming rfl | cases hother

theorem Goes.subsides {stage : JobStage} (h : Goes session job bounds stage bounds' target)
    (hleft : stage.turnsLeft < source.turnsLeft queues)
    (hclaiming : stage.isReceived = false → source.claiming? = some session) :
    source.Subsides queues target := by
  rw [h.2]
  exact subsides_working hleft hclaiming

theorem Goes.subsides_of_isReceived {stage : JobStage}
    (h : Goes session job bounds stage bounds' target)
    (hleft : stage.turnsLeft < source.turnsLeft queues) (hreceived : stage.isReceived = true) :
    source.Subsides queues target :=
  h.subsides hleft fun hnot ↦ absurd hreceived (by simp [hnot])

theorem Disposes.subsides {failure : JobFailure}
    (h : Disposes duties session job failure bounds bounds' target)
    (hleft : 6 < source.turnsLeft queues) : source.Subsides queues target := by
  unfold Disposes at h
  split at h
  · obtain ⟨_, h⟩ := h
    exact h.subsides_of_isReceived (Nat.lt_trans (by simp) hleft) rfl
  · obtain ⟨_, h⟩ := h
    exact h.subsides_of_isReceived (Nat.lt_trans (by simp) hleft) rfl
  · exact h.subsides_of_isReceived hleft rfl

end Point

/-! ## Turns of workers that wind down -/

namespace Turn

open Point

variable {moment : Moment} {turn : Turn α} {session queues : Nat} {source : Point α}

theorem passConnectGate_subsides (hstopped : moment.stopped = true)
    (hleft : 0 < source.turnsLeft queues) :
    source.Subsides queues (turn.passConnectGate moment).worker.point := by
  rw [passConnectGate, if_pos hstopped]
  exact subsides_idle hleft

theorem passFailureGate_subsides (hstopped : moment.stopped = true)
    (hleft : 1 < source.turnsLeft queues) (waits : Bool) :
    source.Subsides queues (turn.passFailureGate duties moment session waits).worker.point := by
  rw [passFailureGate, if_pos hstopped]
  exact subsides_closing hleft true

theorem beginCycle_subsides (hstopped : moment.stopped = true)
    (hleft : 1 < source.turnsLeft queues) (cycle : Cycle) :
    source.Subsides queues (turn.beginCycle duties moment session cycle).worker.point := by
  rw [beginCycle, if_pos hstopped]
  exact subsides_closing hleft true

theorem wake_subsides (hstopped : moment.stopped = true) (hleft : 1 < source.turnsLeft queues)
    (wakesAt : Instant) :
    source.Subsides queues (turn.wake duties moment session wakesAt).worker.point := by
  rw [wake, hstopped, Bool.true_or, if_pos rfl]
  exact beginCycle_subsides hstopped hleft _

theorem endEmptyCycle_subsides (hstopped : moment.stopped = true)
    (hleft : 1 < source.turnsLeft queues) (cycle : Cycle) :
    source.Subsides queues (turn.endEmptyCycle duties moment session cycle).worker.point := by
  unfold endEmptyCycle
  split
  · exact passFailureGate_subsides hstopped hleft true
  · simp only
    split
    · exact beginCycle_subsides hstopped hleft _
    · exact subsides_closing hleft true

theorem endClose_subsides (hstopped : moment.stopped = true) (hleft : 0 < source.turnsLeft queues)
    (last : Bool) (answer : Except DatabaseError Unit) :
    source.Subsides queues (turn.endClose moment last answer).worker.point := by
  unfold endClose
  simp only
  split
  · exact subsides_idle hleft
  · exact passConnectGate_subsides hstopped hleft

/-- A turn in a pass subsides once the worker is told to stop. -/
theorem resumePoll_subsides (hstopped : moment.stopped = true) (cycle : Cycle) (stage : PollStage)
    (answer : (@Point.pollCall α session stage).Answer) :
    (polling session cycle stage).Subsides duties.settings.queueNames.length
      (turn.resumePoll duties moment session cycle stage answer).worker.point := by
  have h := @resumePoll_leads α duties moment turn session cycle stage answer
  have hleft := stage.one_lt_turnsLeft duties.settings.queueNames.length
  cases stage with
  | beginning =>
    rcases answer with error | ⟨⟩
    · exact GivesUp.subsides h hleft
    · exact Searches.subsides h (Nat.le_refl _) rfl
  | probing queue rest begun =>
    rcases answer with error | _ | oldest
    · exact GivesUp.subsides h hleft
    · rw [h.2]
      exact subsides_polling nofun (Nat.lt_succ_self _) rfl
    · exact Finds.subsides h (Nat.lt_succ_of_lt (Nat.lt_succ_self _)) rfl
  | bounding queue rest begun =>
    rcases answer with error | recent
    · exact GivesUp.subsides h hleft
    · exact Finds.subsides h (Nat.lt_succ_self _) rfl
  | replanning queue rest bound =>
    rcases answer with error | ⟨⟩
    · exact GivesUp.subsides h hleft
    · exact Claims.subsides h (Nat.lt_succ_self _) rfl
  | claiming queue rest notBefore begun =>
    rcases answer with error | _ | row
    · exact GivesUp.subsides h hleft
    · exact Searches.subsides h (Nat.le_refl _) rfl
    · rcases h with h | ⟨job, -, -, hpoint⟩
      · exact h.subsides hleft
      · rw [hpoint]
        refine subsides_working ?_ fun _ ↦ rfl
        simp only [turnsLeft, PollStage.turnsLeft, JobStage.turnsLeft]
        omega
  | abandoning =>
    rcases answer with error | ⟨⟩
    · exact GivesUp.subsides h hleft
    · exact endEmptyCycle_subsides hstopped (by simp) cycle

/-- A turn at a claimed job subsides once the worker is told to stop. -/
theorem resumeJob_subsides (hstopped : moment.stopped = true) (job : Job α) (stage : JobStage)
    (answer : (Point.jobCall duties session job stage).Answer) :
    (working session job stage).Subsides queues
      (turn.resumeJob duties moment session job stage answer).worker.point := by
  have h := @resumeJob_leads α duties moment turn session job stage answer
  have hleft := stage.two_lt_turnsLeft
  cases stage with
  | saving =>
    rcases answer with error | ⟨⟩
    · exact Fails.subsides h hleft
    · rcases h with h | ⟨-, _, h⟩ <;> exact h.subsides (by simp) fun _ ↦ rfl
  | deduplicating =>
    rcases answer with error | rows
    · exact Fails.subsides h hleft
    · rcases h with ⟨_, -, h⟩ | h | ⟨-, _, hcrashed⟩
      · exact h.subsides (by simp) fun _ ↦ rfl
      · exact h.subsides hleft
      · rw [hcrashed]
        exact ⟨rfl, by simp, nofun, nofun⟩
  | delivering =>
    cases hfailure : Reception.failure? answer <;>
    · simp only [JobLeads, hfailure] at h
      exact Goes.subsides_of_isReceived h (by simp) rfl
  | releasing | committingClaim | puttingOff | puttingBack | archiving =>
    rcases answer with error | reply
    · exact Fails.subsides h hleft
    · exact Goes.subsides_of_isReceived h (by simp) rfl
  | undoing =>
    rcases answer with error | ⟨⟩
    · exact Fails.subsides h hleft
    · exact Disposes.subsides h (by simp)
  | beginningArchive =>
    rcases answer with error | ⟨⟩
    · exact Fails.subsides h hleft
    · obtain ⟨_, h⟩ := h
      exact Goes.subsides_of_isReceived h (by simp) rfl
  | committingSuccess | committingPutOff | committingPutBack | committingArchive =>
    rcases answer with error | ⟨⟩
    · exact Fails.subsides h hleft
    · exact passFailureGate_subsides hstopped (by simp) true

end Turn

/-- What a worker does that goes on after it was told to stop. -/
theorem Worker.resume_subsides {moment : Moment} (hstopped : moment.stopped = true)
    (shared : Shared) {worker : Worker α} (hover : worker.point.isOver = false)
    (answer : (worker.call duties).Answer) :
    worker.point.Subsides duties.settings.queueNames.length
      (worker.resume duties moment shared answer).worker.point := by
  obtain ⟨name, bounds, countdown, point⟩ := worker
  cases point with
  | idle | crashed => cases hover
  | starting | atConnectGate => exact Turn.passConnectGate_subsides hstopped (by simp)
  | connecting =>
    rcases answer with error | session
    · exact Turn.passConnectGate_subsides hstopped (by simp)
    · exact Turn.passFailureGate_subsides hstopped (by simp) false
  | atFailureGate session waits => exact Turn.passFailureGate_subsides hstopped (by simp) waits
  | asleep session wakesAt => exact Turn.wake_subsides hstopped (by simp) wakesAt
  | polling session cycle stage => exact Turn.resumePoll_subsides hstopped cycle stage answer
  | working session job stage => exact Turn.resumeJob_subsides hstopped job stage answer
  | rollingBack session fault =>
    rcases answer with error | ⟨⟩ <;> exact Point.subsides_closing (by simp) false
  | closing session last => exact Turn.endClose_subsides hstopped (by simp) last answer

/-! ## Transitions -/

structure Transition (α : Type) where
  source : Point α
  target : Point α

namespace World

def transition? (world : World duties) (number : Nat) : Move → Option (Transition α)
  | .resume other =>
    if other = number then
      match world.members[number]? with
      | some member =>
        (member.ready world.shared world.moment).map fun answer ↦ ⟨member.worker.point,
          (member.worker.resume duties world.moment world.shared answer).worker.point⟩
      | none => none
    else none
  | _ => none

def starts (world : World duties) : Move → Bool
  | .start => world.admitsCall &&
    (world.crew.start world.taskStatus duties.settings.queueNames).2.2.isOk
  | _ => false

end World

def Past.transitions (past : Past duties) (number : Nat) : List (Transition α) :=
  past.reverse.filterMap fun (world, move) ↦ world.transition? number move

theorem Past.transitions_cons (world : World duties) (move : Move) (past : Past duties)
    (number : Nat) : Past.transitions ((world, move) :: past) number =
      past.transitions number ++ (world.transition? number move).toList := by
  cases htransition : world.transition? number move <;> simp [Past.transitions, htransition]

namespace World

variable {world : World duties} {number : Nat} {move : Move}

/-- What a move means for a member, as long as the crew is not started, with the transition that the
member makes. -/
inductive Proceeds (world : World duties) (number : Nat) (member : Member duties) :
    Move → Option (Transition α) → Member duties → Prop where
  | rested {move : Move} : Proceeds world number member move none member
  | answered {chance : Chance} {attempt : Attempt} : member.answer? = none →
      Proceeds world number member (.answer number chance) none
        ⟨member.worker, (world.server.answer world.now chance (member.worker.call duties)).2,
          world.now, attempt⟩
  | resumed {answer : (member.worker.call duties).Answer} {worker : Worker α} :
      member.ready world.shared world.moment = some answer →
      worker = (member.worker.resume duties world.moment world.shared answer).worker →
      Proceeds world number member (.resume number)
        (some ⟨member.worker.point, worker.point⟩) ⟨worker, none, member.servedAt, member.attempt⟩

/-- An answer moves nobody from its point. -/
theorem proceeds_answer {member : Member duties} (hmember : world.members[number]? = some member)
    (other : Nat) (chance : Chance) :
    ∃ member', (world.answer other chance).members[number]? = some member' ∧
      world.Proceeds number member (.answer other chance) none member' := by
  cases hother : world.members[other]? with
  | none =>
    simp only [answer, hother]
    exact ⟨member, hmember, .rested⟩
  | some asked =>
    obtain ⟨worker, _ | reply, servedAt, attempt⟩ := asked
    · rw [answer_eq hother]
      by_cases hnumber : other = number
      · subst hnumber
        obtain rfl := Option.some.inj (hother.symm.trans hmember)
        exact ⟨_, List.getElem?_set_self (List.getElem?_eq_some_iff.1 hother).1, .answered rfl⟩
      · exact ⟨member, (List.getElem?_set_ne hnumber).trans hmember, .rested⟩
    · simp only [answer, hother]
      exact ⟨member, hmember, .rested⟩

/-- A member goes on, or nothing happens. -/
theorem resume_cases (world : World duties) (number : Nat) :
    (∃ (member : Member duties) (answer : (member.worker.call duties).Answer),
      world.members[number]? = some member ∧
        member.ready world.shared world.moment = some answer) ∨
    world.resume number = world ∧ ∀ j, world.transition? j (.resume number) = none := by
  have hnobody (hnumber : world.transition? number (.resume number) = none) (j : Nat) :
      world.transition? j (.resume number) = none := by
    by_cases hj : number = j
    · exact hj ▸ hnumber
    · simp only [transition?, if_neg hj]
  cases hmember : world.members[number]? with
  | none =>
    refine .inr ⟨by simp only [resume, hmember], hnobody ?_⟩
    simp only [transition?, if_true, hmember]
  | some member =>
    cases hready : member.ready world.shared world.moment with
    | none =>
      refine .inr ⟨by simp only [resume, hmember, hready], hnobody ?_⟩
      simp only [transition?, if_true, hmember, hready, Option.map_none]
    | some answer => exact .inl ⟨member, answer, rfl, hready⟩

/-- A worker that goes on makes a transition, and no other does. -/
theorem proceeds_resume {member : Member duties} (hmember : world.members[number]? = some member)
    (other : Nat) :
    ∃ member', (world.resume other).members[number]? = some member' ∧
      world.Proceeds number member (.resume other) (world.transition? number (.resume other))
        member' := by
  obtain ⟨resumed, answer, hresumed, hready⟩ | ⟨hsame, hnone⟩ := world.resume_cases other
  · rw [resume_eq hresumed hready]
    by_cases hnumber : other = number
    · subst hnumber
      obtain rfl := Option.some.inj (hresumed.symm.trans hmember)
      simp only [transition?, if_true, hmember, hready]
      exact ⟨_, List.getElem?_set_self (List.getElem?_eq_some_iff.1 hmember).1,
        .resumed hready rfl⟩
    · simp only [transition?, if_neg hnumber]
      exact ⟨member, (List.getElem?_set_ne hnumber).trans hmember, .rested⟩
  · rw [hsame, hnone]
    exact ⟨member, hmember, .rested⟩

/-- Unless the crew is started, a member stays where it is, gets an answer or goes on. -/
theorem proceeds (hmove : world.starts move = false) {member : Member duties}
    (hmember : world.members[number]? = some member) :
    ∃ member', (world.step move).members[number]? = some member' ∧
      world.Proceeds number member move (world.transition? number move) member' := by
  have hsteps := world.steps move
  cases move with
  | answer other chance => exact proceeds_answer hmember other chance
  | resume other => exact proceeds_resume hmember other
  | start =>
    generalize world.step .start = world' at hsteps ⊢
    cases hsteps with
    | refused => exact ⟨member, hmember, .rested⟩
    | started hadmits htasks =>
      simp only [starts, hadmits, htasks] at hmove
      cases hmove
  | pass | produce | drop | write | stop | await | endAwait | release =>
    generalize world.step _ = world' at hsteps ⊢
    cases hsteps <;> exact ⟨member, hmember, .rested⟩

/-! ## Stopped crews -/

/-- After a stop the crew is stopped, whether it was running or not. -/
theorem stopped_stop (world : World duties) : (world.step .stop).crew.isStopped = true := by
  simp only [step, Crew.stop]
  split
  · next hreleased => simp [Crew.isStopped, hreleased]
  · split
    · rfl
    · next hrunning => simp [Crew.isStopped, hrunning]

/-- A crew that has been told to stop stays so until it is started. -/
theorem stopped_step (h : world.crew.isStopped = true) (hmove : world.starts move = false) :
    (world.step move).crew.isStopped = true := by
  have hsteps := world.steps move
  generalize world.step move = world' at hsteps ⊢
  cases hsteps with
  | stopped => rfl
  | released => exact Bool.or_true _
  | started hadmits htasks =>
    simp only [starts, hadmits, htasks] at hmove
    cases hmove
  | refused | passed | produced | dropped | unanswered | answered | wrote | resumed | awaited
    | waiting | reclaimed | forgotten => exact h

end World

theorem Call.isSome_ready {call : Call α} (h : call = .pause) (answer? : Option call.Answer) :
    (call.ready true answer?).isSome := by
  subst h
  rfl

namespace Member

variable {member : Member duties} {shared : Shared} {moment : Moment}

theorem isOver_of_ready {answer : (member.worker.call duties).Answer}
    (h : member.ready shared moment = some answer) : member.worker.point.isOver = false := by
  obtain ⟨⟨name, bounds, countdown, point⟩, answer?, servedAt, attempt⟩ := member
  cases point with
  | idle | crashed => cases answer? <;> cases h
  | starting | atConnectGate | connecting | atFailureGate | asleep | polling | working | rollingBack
    | closing => rfl

/-- Nobody waits for time to pass once the crew is told to stop. -/
theorem ready_of_stopped (hstopped : moment.stopped = true)
    (hover : member.worker.point.isOver = false) (hpause : member.worker.call duties = .pause) :
    (member.ready shared moment).isSome := by
  obtain ⟨⟨name, bounds, countdown, point⟩, answer?, servedAt, attempt⟩ := member
  have hdue : Worker.isDue shared moment ⟨name, bounds, countdown, point⟩ = true := by
    cases point with
    | idle | crashed => cases hover
    | starting => rfl
    | atConnectGate | atFailureGate | asleep => simp only [Worker.isDue, hstopped, Bool.true_or]
    | connecting | rollingBack | closing => cases hpause
    | polling session cycle stage => cases stage <;> cases hpause
    | working session job stage => cases stage <;> cases hpause
  rw [ready, hdue]
  exact Call.isSome_ready hpause answer?

end Member

end TableQueue
